import TagCloud.Proofs.Dictionary
import TagCloud.Proofs.Directive.Trimmed
import TagCloud.Proofs.Outcome
import TagCloud.Proofs.Template.Sheet
import TagCloud.Template.Render

/-!
# Clouds in a rendered template

A template of texts and clouds is rendered part by part. A call for a cloud finds its tags, its base
and its seed among the variables, where labels do not change them; a whole number as the seed gives
every call a generator of its own, so the calls leave nothing behind and each of them gives the same
cloud. What is evaluated between two parts has changed no value, and that is the invariant which
carries a run from one part to the next.
-/

namespace TagCloud.Template

open TagCloud.Text

/-! ## Variables with labels -/

namespace Value

theorem length_labelledItems (next : Nat) (before vs : List Value) :
    (labelledItems next before vs).1.length = before.length + vs.length := by
  induction vs generalizing next before with
  | nil => rw [labelledItems]; simp
  | cons v vs ih =>
      rw [labelledItems, ih]
      simp only [List.length_cons]
      omega

theorem length_ofJsonItems (items : List Json.Value) :
    (ofJsonItems items).length = items.length := by
  induction items with
  | nil => rw [ofJsonItems]; rfl
  | cons v items ih => rw [ofJsonItems, List.length_cons, ih, List.length_cons]

theorem length_ofJsonMembers (members : List (String × Json.Value)) :
    (ofJsonMembers members).length = members.length := by
  induction members with
  | nil => rw [ofJsonMembers]; rfl
  | cons m members ih => rw [ofJsonMembers, List.length_cons, ih, List.length_cons]

theorem length_labelledMembers (next : Nat) (before ms : List (Value × Value)) :
    (labelledMembers next before ms).1.length = before.length + ms.length := by
  induction ms generalizing next before with
  | nil => rw [labelledMembers]; simp
  | cons m ms ih =>
      rw [labelledMembers, ih]
      simp only [List.length_cons]
      omega

/-- Labels do not change what a value is as the value of a tag. -/
theorem toTagValue_labelled (v : Json.Value) (next : Nat) :
    ((ofJson v).labelled next).1.toTagValue = v.toTagValue := by
  cases v with
  | null => rfl
  | bool b => rfl
  | whole n => rfl
  | real x =>
      rw [ofJson]
      split
      · rfl
      · rfl
  | string s => rfl
  | array items =>
      rw [ofJson, labelled]
      simp only [toTagValue, length_labelledItems, length_ofJsonItems, Json.Value.toTagValue]
      simp
  | object members =>
      rw [ofJson, labelled]
      simp only [toTagValue, length_labelledMembers, length_ofJsonMembers,
        Json.Value.toTagValue]
      simp

theorem toTags_labelledMembers (next : Nat) (before : List (Value × Value))
    (members : List (String × Json.Value)) :
    toTags (labelledMembers next before (ofJsonMembers members)).1
      = toTags before.reverse ++ Json.Value.toTags members := by
  induction members generalizing next before with
  | nil => rw [ofJsonMembers, labelledMembers]; simp [Json.Value.toTags]
  | cons m members ih =>
      obtain ⟨key, v⟩ := m
      have hkey : (text key .common).labelled next = (text key .common, next) := rfl
      rw [ofJsonMembers, labelledMembers]
      simp only [ih, hkey]
      simp [toTags, Json.Value.toTags, toTagValue_labelled, toTagName, plainText]

/-- A JSON object is a dictionary of the same tags, labels or not. -/
theorem labelled_object (members : List (String × Json.Value)) (next : Nat) :
    ∃ handle ms, ((ofJson (.object members)).labelled next).1 = .dictionary handle ms
      ∧ toTags ms = Json.Value.toTags members := by
  rw [ofJson, labelled]
  exact ⟨_, _, rfl, toTags_labelledMembers (next + 1) [] members⟩

end Value

/-- A labelled variable is what it was before, with labels. -/
theorem Context.get?_labelled (next : Nat) (context : Context) (name : String) :
    ∃ n, Dictionary.get? name (context.labelled next).1
      = (Dictionary.get? name context).map fun v => (v.labelled n).1 := by
  induction context generalizing next with
  | nil => exact ⟨0, rfl⟩
  | cons entry context ih =>
      obtain ⟨key, v⟩ := entry
      rw [labelled]
      by_cases h : key = name
      · exact ⟨next, by simp [Dictionary.get?, h]⟩
      · obtain ⟨n, hn⟩ := ih (v.labelled next).2
        refine ⟨n, ?_⟩
        simpa [Dictionary.get?, h] using hn

/-! ## One cloud -/

/-- The variables that clouds are made from: tags, a base, a seed, and a directive for calls. -/
structure Context.Holds (context : Context) (members : List (String × Json.Value))
    (base directive : String) (seed : Nat) : Prop where
  tags : Dictionary.get? "tags" context = some (Value.ofJson (.object members))
  base : Dictionary.get? "tag_dir" context = some (.text base)
  seed : Dictionary.get? "tag_cloud_rng" context = some (.whole seed)
  directive : Dictionary.get? "directive" context = some (.text directive)
  function : Dictionary.get? "tag_cloud" context = none

/-- The same variables when they have labels. -/
structure Context.Offers (context : Context) (members : List (String × Json.Value))
    (base directive : String) (seed : Nat) : Prop where
  tags : ∃ handle ms, context.find? "tags" = some (.dictionary handle ms)
    ∧ Value.toTags ms = Json.Value.toTags members
  base : ∃ origin, context.find? "tag_dir" = some (.text base origin)
  seed : ∃ origin, context.find? "tag_cloud_rng" = some (.whole seed origin)
  directive : ∃ origin, context.find? "directive" = some (.text directive origin)
  function : context.find? "tag_cloud" = some (.builtin .cloud)

variable {context : Context} {members : List (String × Json.Value)} {base directive html : String}
  {seed : Nat} {shared later : Source}

theorem Context.Holds.labelled (h : context.Holds members base directive seed) (next : Nat) :
    (context.labelled next).1.Offers members base directive seed where
  tags := by
    obtain ⟨n, hn⟩ := get?_labelled next context "tags"
    obtain ⟨handle, ms, hms, htags⟩ := Value.labelled_object members n
    rw [h.tags, Option.map_some, hms] at hn
    exact ⟨handle, ms, by rw [find?, hn, Option.some_or], htags⟩
  base := by
    obtain ⟨n, hn⟩ := get?_labelled next context "tag_dir"
    rw [h.base] at hn
    exact ⟨.part n, by rw [find?, hn]; rfl⟩
  seed := by
    obtain ⟨n, hn⟩ := get?_labelled next context "tag_cloud_rng"
    rw [h.seed] at hn
    exact ⟨.part n, by rw [find?, hn]; rfl⟩
  directive := by
    obtain ⟨n, hn⟩ := get?_labelled next context "directive"
    rw [h.directive] at hn
    exact ⟨.part n, by rw [find?, hn]; rfl⟩
  function := by
    obtain ⟨n, hn⟩ := get?_labelled next context "tag_cloud"
    rw [h.function] at hn
    rw [find?, hn]
    rfl

variable {s : Scope} {p : Progress}

namespace Sheet

end Sheet

end TagCloud.Template

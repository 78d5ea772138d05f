import TagCloud.Template.Filter.Rule
import TagCloud.Template.Sequence

/-!
# Filters for items

A value is asked for its first or its last item, its items are joined, added up, compared, sorted
and grouped. Where a filter gives its items one by one, what goes wrong on the way is met by
whatever takes the items, not by the filter.
-/

namespace TagCloud.Template

namespace Filter

open Signature (needed usually)

/-- What gives items one by one, up to a fault. -/
def generator (items : List Value) (ending : Option Fault) : Value :=
  .iterator none "generator" items ending

/-- The items of a value and the fault behind them; a value without items is nothing but a fault. -/
def flow (v : Value) : List Value × Option Fault :=
  match v.items? with
  | some vs => (vs, v.ending?)
  | none => ([], some v.itemless)

/-- The first of some items, before a fault. -/
def firstOf (complaint : String) (vs : List Value) (ending : Option Fault) : Except Fault Value :=
  match vs, ending with
  | v :: _, _ => .ok v
  | [], some e => .error e
  | [], none => .ok (.undefined complaint)

/-- The first item of a value. -/
def first (v : Value) : Except Fault Value :=
  let (vs, ending) :=
    match v with
    | .range start stop step =>
      (if Value.rangeSize start stop step = 0 then [] else [.whole start], none)
    | v => flow v
  firstOf "No first item, sequence was empty." vs ending

/-- The last item of a value. -/
def last (v : Value) : Except Fault Value := do
  let vs ←
    match v with
    | .range .. => pure (v.item? (.whole (-1))).toList
    | v => v.backwards
  firstOf "No last item, sequence was empty." vs none

/-- A value the other way round. -/
def reversed (v : Value) : Except Fault Value :=
  match v with
  | .text s _ => .ok (.text (String.ofList s.toList.reverse))
  | .markup s => .ok (.markup (String.ofList s.toList.reverse))
  | v =>
    match v.backwards with
    | .ok vs => .ok (.iterator none v.backwardsName vs v.ending?)
    | .error _ =>
      match v.items?, v.ending? with
      | none, _ =>
        .error (if v.isWalkable then v.itemless else .filter (.wrong .notReversed))
      | some _, some e => .error (if e.isAboutKinds then .filter (.wrong .notReversed) else e)
      | some vs, none => .ok (.list none vs.reverse)

/-- The texts of values, with another text between them. -/
def joinedBy (escapes : Bool) (separator : Value) (vs : List Value) : Except Fault Value := do
  if escapes && (separator.claimsMarkup || vs.any Value.claimsMarkup) then
    let texts ← vs.mapM Value.escaped
    return .markup ((← separator.escaped).intercalate texts)
  else
    let separator ← separator.written
    return (Value.tuple vs).single.kept (.text (separator.intercalate (← vs.mapM Value.written)))

/-- The parts of the items of a value. -/
def partsOf (v part : Value) : Except Fault (List Value) := do
  let path ← Lookup.read part .null
  (← v.items).mapM path.follow

/-- What `sum` refuses to begin with. -/
def refusedStart? : Value → Option (String × String)
  | .text _ _ | .markup _ => some ("strings", "''.join(seq)")
  | .bytes _ => some ("bytes", "b''.join(seq)")
  | _ => none

/-- The sum of values. -/
def total (vs : List Value) (start : Value) : Except Fault Value :=
  match refusedStart? start with
  | some (what, other) => .error (.filter (.sumStart what other))
  | none => vs.foldlM (Value.operate .add) start

/-- The item of a value that goes before all others by its key. -/
def extreme (r : Value.Relation) (sensitive : Bool) (path : Value) (v : Value) :
    Except Fault Value := do
  let (vs, ending) := flow v
  match vs, ending with
  | [], some e => throw e
  | [], none => return .undefined "No aggregated item, sequence was empty."
  | v :: vs, ending =>
    let path ← Lookup.read path .null
    let best ← vs.foldlM (fun (best : Value × Value) v => do
      let key ← path.key sensitive v
      return if ← Value.inOrder r key best.1 then (key, v) else best) (← path.key sensitive v, v)
    match ending with
    | some e => throw e
    | none => return best.2

/-- The items of a value in the order of some of their parts. -/
def sorted (v backwards sensitive path : Value) : Except Fault Value := do
  let paths ← Lookup.readAll path
  let vs ← v.items
  let backwards ← backwards.switch
  let keyed ← vs.mapM fun v => do
    return (Value.list none (← paths.mapM fun (l : Lookup) => l.key (!sensitive.isEmpty) v), v)
  return .list none (← Sorting.byKeys backwards keyed)

/-- The items of a value that are not equal to earlier ones in a part of them. -/
def unique (v sensitive path : Value) : Value :=
  match Lookup.read path .null with
  | .error e => generator [] (some e)
  | .ok path =>
    let (vs, ending) := flow v
    let rec go (seen : List Value) : List Value → List Value × Option Fault
      | [] => ([], ending)
      | v :: vs =>
        match (path.key (!sensitive.isEmpty) v).bind Value.key with
        | .error e => ([], some e)
        | .ok key =>
          if key.isAmong seen then go seen vs
          else
            let (rest, ending) := go (key :: seen) vs
            (v :: rest, ending)
    let (items, ending) := go [] vs
    generator items ending

/-- Neighbours with equal keys, brought together. -/
def gathered : List (Value × Value) → List (Value × List Value)
  | [] => []
  | (key, v) :: rest =>
    match gathered rest with
    | (k, vs) :: groups =>
      if key.equal k then (key, v :: vs) :: groups else (key, [v]) :: (k, vs) :: groups
    | [] => [(key, [v])]

/-- The items of a value in groups of those that have a part in common. -/
def grouped (v part usual sensitive : Value) : Except Fault Value := do
  let path ← Lookup.read part usual
  let sensitive := !sensitive.isEmpty
  let keyed ← (← v.items).mapM fun v => do return (← path.key sensitive v, v)
  let row ← Sorting.byKeys false (keyed.map fun (key, v) => (key, (key, v)))
  return .list none (← (gathered row).mapM fun (key, vs) => do
    let key ← if sensitive then pure key else path.follow (vs.headD .null)
    return .group key vs)

/-- The members of a dictionary in the order of their keys or of their values. -/
def memberSorted (v sensitive byWhat backwards : Value) : Except Fault Value := do
  let byKey := byWhat.equal (.text "key")
  if !byKey && !byWhat.equal (.text "value") then throw (.filter (.wrong .sortedBy))
  let vs ← (← v.ask "items" []).items
  let keyed := vs.map fun item =>
    let part := (item.item? (.whole (if byKey then 0 else 1))).getD .null
    (Lookup.caseless (!sensitive.isEmpty) part, item)
  return .list none (← Sorting.byKeys (← backwards.switch) keyed)

/-- The items of a value in rows of so many, the last of which may be filled up. -/
def batched (v size usual : Value) : Value :=
  let (vs, ending) := flow v
  let full (row : List Value) : Bool := (Value.whole (Int.ofNat row.length)).equal size
  let filled (row : List Value) : Except Fault (List Value) := do
    if usual.kind = .null then return row
    let count := Value.whole (Int.ofNat row.length)
    if ← Value.inOrder .below count size then
      let more ← (Value.operate .sub size count).bind fun n =>
        Value.operate .mul (.list none [usual]) n
      return row ++ (← more.items)
    else return row
  let rec go (row : List Value) : List Value → List Value × Option Fault
    | [] =>
      match ending with
      | some e => ([], some e)
      | none =>
        if row.isEmpty then ([], none)
        else
          match filled row with
          | .ok row => ([.list none row], none)
          | .error e => ([], some e)
    | v :: vs =>
      if full row then
        let (rest, ending) := go [v] vs
        (.list none row :: rest, ending)
      else go (row ++ [v]) vs
  let (items, ending) := go [] vs
  generator items ending

/-- The items of a row in so many columns, of which the later ones may be filled up. -/
def columns (vs : List Value) (count : Nat) (usual : Value) : List Value :=
  let each := vs.length / count
  let extra := vs.length % count
  (List.range count).map fun i =>
    let start := min i extra + i * each
    let stop := min (i + 1) extra + (i + 1) * each
    let column := (vs.drop start).take (stop - start)
    .list none (if usual.kind ≠ .null && extra ≤ i then column ++ [usual] else column)

/-- The items of a value in so many columns. -/
def sliced (v count usual : Value) : Value :=
  let made : Except Fault (List Value) := do
    let vs ← v.items
    let size := Value.whole (Int.ofNat vs.length)
    let _ ← Value.operate .floorDiv size count
    let n ← count.integer
    return columns vs n.toNat usual
  match made with
  | .ok items => generator items none
  | .error e => generator [] (some e)

/-- The pairs of a dictionary, one by one. -/
def pairs : Value → Value
  | .undefined _ => generator [] none
  | .dictionary _ members | .reflection _ members => generator (Value.pairs members) none
  | _ => generator [] (some (.filter .notPairs))

/-- An item of a value, of which any one will do. -/
def anyItem (v : Value) : Except Fault Value := do
  if let .undefined _ := v then return .undefined "No random item, sequence was empty."
  let n ← v.length
  if n = 0 then return .undefined "No random item, sequence was empty."
  match v with
  | .set .. | .view .. => throw (.notSubscriptable v.kind.name)
  | .dictionary _ members | .reflection _ members =>
    match Value.member? (.whole 0) members with
    | some w => return w
    | none => throw (.noKey "0")
  | v => return (v.item? (.whole 0)).getD .null

/-- The number of items of a value. -/
def size (v : Value) : Except Fault Value := do
  return .whole (Int.ofNat (← v.length))

/-- The filter for the item that goes before all others. -/
def extremeFilter (function : String) (r : Value.Relation) : Filter :=
  ofRule function ["environment"] [needed "value", usually "case_sensitive" (.bool false),
    usually "attribute" .null] fun
    | _, [v, sensitive, path] => extreme r (!sensitive.isEmpty) path v
    | _, _ => .error .unsupported

/-- The filters for items. -/
def collectionFilters : Filters :=
  [ ("first", ofValue "sync_do_first" ["environment"] "seq" first),
    ("last", ofValue "do_last" ["environment"] "seq" last),
    ("random", ofValue "do_random" ["context"] "seq" anyItem),
    ("list", ofValue "sync_do_list" [] "value" fun v => do return .list none (← v.items)),
    ("reverse", ofValue "do_reverse" [] "value" reversed),
    ("items", ofValue "do_items" [] "value" fun v => .ok (pairs v)),
    ("join", ofRule "sync_do_join" ["eval_ctx"] [needed "value", usually "d" (.text ""),
      usually "attribute" .null] fun
      | escapes, [v, separator, part] => do
        joinedBy escapes separator
          (← if part.kind = .null then v.items else partsOf v part)
      | _, _ => .error .unsupported),
    ("sum", ofRule "sync_do_sum" ["environment"] [needed "iterable", usually "attribute" .null,
      usually "start" (.whole 0)] fun
      | _, [v, part, start] => do
        total (← if part.kind = .null then v.items else partsOf v part) start
      | _, _ => .error .unsupported),
    ("min", extremeFilter "do_min" .below), ("max", extremeFilter "do_max" .above),
    ("sort", ofRule "do_sort" ["environment"] [needed "value", usually "reverse" (.bool false),
      usually "case_sensitive" (.bool false), usually "attribute" .null] fun
      | _, [v, backwards, sensitive, path] => sorted v backwards sensitive path
      | _, _ => .error .unsupported),
    ("unique", ofRule "do_unique" ["environment"] [needed "value",
      usually "case_sensitive" (.bool false), usually "attribute" .null] fun
      | _, [v, sensitive, path] => .ok (unique v sensitive path)
      | _, _ => .error .unsupported),
    ("groupby", ofRule "sync_do_groupby" ["environment"] [needed "value", needed "attribute",
      usually "default" .null, usually "case_sensitive" (.bool false)] fun
      | _, [v, part, usual, sensitive] => grouped v part usual sensitive
      | _, _ => .error .unsupported),
    ("dictsort", ofRule "do_dictsort" [] [needed "value", usually "case_sensitive" (.bool false),
      usually "by" (.text "key"), usually "reverse" (.bool false)] fun
      | _, [v, sensitive, byWhat, backwards] => memberSorted v sensitive byWhat backwards
      | _, _ => .error .unsupported),
    ("batch", ofRule "do_batch" [] [needed "value", needed "linecount",
      usually "fill_with" .null] fun
      | _, [v, count, usual] => .ok (batched v count usual)
      | _, _ => .error .unsupported),
    ("slice", ofRule "sync_do_slice" [] [needed "value", needed "slices",
      usually "fill_with" .null] fun
      | _, [v, count, usual] => .ok (sliced v count usual)
      | _, _ => .error .unsupported) ]

end Filter

end TagCloud.Template

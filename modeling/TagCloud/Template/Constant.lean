import TagCloud.Template.Evaluate

/-!
# Constant expressions

What depends on no variable and on no call is evaluated once, before the template is rendered, and
the value takes the place of the expression. Where there is no value, the expression stays as it is
and fails when it is met, if it is met at all; only keys that cannot be keys and numbers too long to
be joined as texts are faults at once.

Not every value can be written down: a method or a value that is not there cannot, so an expression
with such a value stays as it is. It has a value all the same, and what is made of it may again be a
value that can be written down.
-/

namespace TagCloud.Template

namespace Value

mutual

/-- A value that can take the place of an expression. -/
def isStorable : Value → Bool
  | null | bool _ | whole .. | real .. | complex .. | text .. | markup _ | range .. => true
  | list _ vs | tuple vs | set _ _ vs => areStorable vs
  | dictionary _ members => membersStorable members
  | _ => false

/-- Values that can take the place of expressions. -/
def areStorable : List Value → Bool
  | [] => true
  | v :: vs => isStorable v && areStorable vs

/-- Members that can take the place of expressions. -/
def membersStorable : List (Value × Value) → Bool
  | [] => true
  | (k, v) :: rest => isStorable k && isStorable v && membersStorable rest

end

end Value

/-- What looking for a constant value does: it may find that there is none, or a fault. -/
abbrev Folding (α : Type) := OptionT (Except Fault) α

namespace Folding

/-- An outcome of which faults count. -/
def strict {α : Type} (outcome : Except Fault α) : Folding α :=
  liftM outcome

/-- An outcome of which faults only say that there is no value. -/
def lenient {α : Type} (outcome : Except Fault α) : Folding α :=
  OptionT.mk (.ok outcome.toOption)

/-- A search whose faults only say that there is no value. -/
def quiet {α : Type} (search : Folding α) : Folding α :=
  OptionT.mk (.ok (search.run.toOption.bind id))

end Folding

/-- A call with the members that a value has as its arguments by name. -/
def Call.withMembers (c : Call) (v : Value) : Except Fault Call := do
  let named : Members := c.named.map fun (name, w) => (.text name, w)
  let members ← Members.merged named v
  let named ← members.mapM fun (k, w) =>
    match k.text? with
    | some name => .ok (name, w)
    | none => .error (.call .keywordKind)
  return { c with named }

namespace Expression

mutual

/-- The value of an expression that is constant. -/
def constantValue (escapes : Bool) : Expression → Folding Value
  | .constant v => return v
  | .variable _ | .call .. => failure
  | .tuple items => return .tuple (← constantRow escapes items)
  | .list items => return .list none (← constantRow escapes items)
  | .dictionary members => return .dictionary none (← constantMembers escapes [] members)
  | .conditional test v otherwise _ => do
    if !(← constantValue escapes test).isEmpty then constantValue escapes v
    else
      match ← constantOptional escapes otherwise with
      | some w => return w
      | none => failure
  | .either a b => do
    let v ← constantValue escapes a
    if v.isEmpty then constantValue escapes b else return v
  | .both a b => do
    let v ← constantValue escapes a
    if v.isEmpty then return v else constantValue escapes b
  | .negation e => .quiet do return .bool (← constantValue escapes e).isEmpty
  | .comparison e others => do
    let v ← constantValue escapes e
    .quiet (constantComparisons escapes v others)
  | .joined parts => return .text ("".intercalate (← constantTexts escapes parts))
  | .operation op a b => .quiet do
    let v ← constantValue escapes a
    .lenient (v.operate op (← constantValue escapes b))
  | .signed negative e => .quiet do .lenient ((← constantValue escapes e).signed negative)
  | .attribute e name => .quiet do .lenient ((← constantValue escapes e).behindPoint name)
  | .item e place => .quiet do
    let v ← constantValue escapes e
    .lenient (v.inBrackets (← constantValue escapes place))
  | .slice e start stop step => .quiet do
    let v ← constantValue escapes e
    let start := (← constantOptional escapes start).getD .null
    let stop := (← constantOptional escapes stop).getD .null
    let step := (← constantOptional escapes step).getD .null
    .lenient (v.sliceOrAbsent start stop step)
  | .bounds start stop step => do
    let start := (← constantOptional escapes start).getD .null
    let stop := (← constantOptional escapes stop).getD .null
    return .bounds start stop ((← constantOptional escapes step).getD .null)
  | .filtered e name arguments => do
    if !Filter.isKnown name || Filter.dependsOnContext name then failure
    let c ← constantArguments escapes .empty arguments
    let v ← constantValue escapes e
    .lenient ((Filter.apply escapes name v c).run' ⟨[], 0⟩)
  | .tested e name arguments => do
    if !Test.isKnown name then failure
    let c ← constantArguments escapes .empty arguments
    let v ← constantValue escapes e
    .lenient ((Test.holds name v c).map Value.bool)

/-- The values of expressions that are constant. -/
def constantRow (escapes : Bool) : List Expression → Folding (List Value)
  | [] => return []
  | e :: es => do
    let v ← constantValue escapes e
    return v :: (← constantRow escapes es)

/-- The texts of expressions that are constant. -/
def constantTexts (escapes : Bool) : List Expression → Folding (List String)
  | [] => return []
  | e :: es => do
    let v ← constantValue escapes e
    let s ← .strict v.written
    return s :: (← constantTexts escapes es)

/-- The value of an expression that is constant if it is there. -/
def constantOptional (escapes : Bool) : Option Expression → Folding (Option Value)
  | none => return none
  | some e => return some (← constantValue escapes e)

/-- The members of a dictionary that is constant, behind those that it has already. -/
def constantMembers (escapes : Bool) (before : Members) :
    List (Expression × Expression) → Folding Members
  | [] => return before
  | (key, e) :: rest => do
    let k ← constantValue escapes key
    let v ← constantValue escapes e
    constantMembers escapes (← .strict (Members.putAll before [(k, v)])) rest

/-- The outcome of comparisons that are constant as far as they are asked for. -/
def constantComparisons (escapes : Bool) (v : Value) :
    List (Comparator × Expression) → Folding Value
  | [] => return .bool true
  | (c, e) :: rest => do
    let w ← constantValue escapes e
    if ← .lenient (Value.compare c v w) then constantComparisons escapes w rest
    else return .bool false

/-- The arguments of a call that are constant, behind those in `c`. -/
def constantArguments (escapes : Bool) (c : Call) : List Argument → Folding Call
  | [] => return c
  | a :: rest => do constantArguments escapes (← constantArgument escapes c a) rest

/-- One more argument of a call that is constant. -/
def constantArgument (escapes : Bool) (c : Call) : Argument → Folding Call
  | .plain e => return c.withPlain (← constantValue escapes e)
  | .named name e => return c.withNamed name (← constantValue escapes e)
  | .spread e => .quiet do .lenient (c.withSpread (← constantValue escapes e))
  | .spreadNamed e => .quiet do .lenient (c.withMembers (← constantValue escapes e))

end

/-- An expression, or the value that takes its place. -/
def settled (escapes : Bool) (e : Expression) : Except Fault Expression := do
  match ← (e.constantValue escapes).run with
  | some v => return if v.isStorable then .constant v else e
  | none => return e

mutual

/-- An expression in which values have taken the places of what is constant. -/
def fold (escapes : Bool) : Expression → Except Fault Expression
  | .constant v => .ok (.constant v)
  | .variable name => .ok (.variable name)
  | .tuple items => do settled escapes (.tuple (← foldRow escapes items))
  | .list items => do settled escapes (.list (← foldRow escapes items))
  | .dictionary members => do settled escapes (.dictionary (← foldMembers escapes members))
  | .conditional test v otherwise line => do
    let test ← fold escapes test
    let v ← fold escapes v
    settled escapes (.conditional test v (← foldOptional escapes otherwise) line)
  | .either a b => do
    let a ← fold escapes a
    settled escapes (.either a (← fold escapes b))
  | .both a b => do
    let a ← fold escapes a
    settled escapes (.both a (← fold escapes b))
  | .negation e => do settled escapes (.negation (← fold escapes e))
  | .comparison e others => do
    let e ← fold escapes e
    settled escapes (.comparison e (← foldOthers escapes others))
  | .joined parts => do settled escapes (.joined (← foldRow escapes parts))
  | .operation op a b => do
    let a ← fold escapes a
    settled escapes (.operation op a (← fold escapes b))
  | .signed negative e => do settled escapes (.signed negative (← fold escapes e))
  | .attribute e name => do settled escapes (.attribute (← fold escapes e) name)
  | .item e place => do
    let e ← fold escapes e
    settled escapes (.item e (← fold escapes place))
  | .slice e start stop step => do
    let e ← fold escapes e
    let start ← foldOptional escapes start
    let stop ← foldOptional escapes stop
    settled escapes (.slice e start stop (← foldOptional escapes step))
  | .bounds start stop step => do
    let start ← foldOptional escapes start
    let stop ← foldOptional escapes stop
    return .bounds start stop (← foldOptional escapes step)
  | .call f arguments => do
    let f ← fold escapes f
    return .call f (← foldArguments escapes arguments)
  | .filtered e name arguments => do
    let e ← fold escapes e
    settled escapes (.filtered e name (← foldArguments escapes arguments))
  | .tested e name arguments => do
    let e ← fold escapes e
    settled escapes (.tested e name (← foldArguments escapes arguments))

/-- Expressions in which values have taken the places of what is constant. -/
def foldRow (escapes : Bool) : List Expression → Except Fault (List Expression)
  | [] => .ok []
  | e :: es => do
    let e ← fold escapes e
    return e :: (← foldRow escapes es)

/-- An expression that may be left out, with values in the places of what is constant. -/
def foldOptional (escapes : Bool) : Option Expression → Except Fault (Option Expression)
  | none => .ok none
  | some e => return some (← fold escapes e)

/-- Members in which values have taken the places of what is constant. -/
def foldMembers (escapes : Bool) :
    List (Expression × Expression) → Except Fault (List (Expression × Expression))
  | [] => .ok []
  | (k, v) :: rest => do
    let k ← fold escapes k
    let v ← fold escapes v
    return (k, v) :: (← foldMembers escapes rest)

/-- Comparisons in which values have taken the places of what is constant. -/
def foldOthers (escapes : Bool) :
    List (Comparator × Expression) → Except Fault (List (Comparator × Expression))
  | [] => .ok []
  | (c, e) :: rest => do
    let e ← fold escapes e
    return (c, e) :: (← foldOthers escapes rest)

/-- Arguments in which values have taken the places of what is constant. -/
def foldArguments (escapes : Bool) : List Argument → Except Fault (List Argument)
  | [] => .ok []
  | a :: rest => do
    let a ← foldArgument escapes a
    return a :: (← foldArguments escapes rest)

/-- An argument in which values have taken the places of what is constant. -/
def foldArgument (escapes : Bool) : Argument → Except Fault Argument
  | .plain e => return .plain (← fold escapes e)
  | .spread e => return .spread (← fold escapes e)
  | .named name e => return .named name (← fold escapes e)
  | .spreadNamed e => return .spreadNamed (← fold escapes e)

end

end Expression

end TagCloud.Template

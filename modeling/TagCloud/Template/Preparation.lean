import TagCloud.Template.Constant
import TagCloud.Template.Node

/-!
# Templates before they are rendered

Before anything is rendered, the parts of a template are looked through. Constant expressions take
their values, and those that are printed become text. A filter or a test that is not known is
refused, unless it stands in a condition and may never be met; so is a value too long to be written
down, and last the bounds of a slice among other places, and an argument that is given twice by the
same name.

The last two are located by a line in the list of instructions that the template amounts to: ten
lines come first, one for each variable, six for each filter and test, and then one for each part
that is printed, where text and constants side by side are one part.
-/

namespace TagCloud.Template

namespace Expression

mutual

/-- An expression and all inside it, each before what is inside it, with a flag for those that stand
in a condition. -/
def parts (soft : Bool) : Expression → List (Bool × Expression)
  | .constant v => [(soft, .constant v)]
  | .variable name => [(soft, .variable name)]
  | .tuple items => (soft, .tuple items) :: partsOfRow soft items
  | .list items => (soft, .list items) :: partsOfRow soft items
  | .dictionary members => (soft, .dictionary members) :: partsOfMembers soft members
  | .conditional test v otherwise line =>
    (true, .conditional test v otherwise line) :: parts true test ++ parts true v
      ++ partsOfOptional true otherwise
  | .either a b => (soft, .either a b) :: parts soft a ++ parts soft b
  | .both a b => (soft, .both a b) :: parts soft a ++ parts soft b
  | .negation e => (soft, .negation e) :: parts soft e
  | .comparison e others =>
    (soft, .comparison e others) :: parts soft e ++ partsOfOthers soft others
  | .joined items => (soft, .joined items) :: partsOfRow soft items
  | .operation op a b => (soft, .operation op a b) :: parts soft a ++ parts soft b
  | .signed negative e => (soft, .signed negative e) :: parts soft e
  | .attribute e name => (soft, .attribute e name) :: parts soft e
  | .item e place => (soft, .item e place) :: parts soft e ++ parts soft place
  | .slice e start stop step =>
    (soft, .slice e start stop step) :: parts soft e ++ partsOfOptional soft start
      ++ partsOfOptional soft stop ++ partsOfOptional soft step
  | .bounds start stop step =>
    (soft, .bounds start stop step) :: partsOfOptional soft start ++ partsOfOptional soft stop
      ++ partsOfOptional soft step
  | .call f arguments =>
    (soft, .call f arguments) :: parts soft f ++ partsOfArguments soft arguments
  | .filtered e name arguments =>
    (soft, .filtered e name arguments) :: parts soft e ++ partsOfArguments soft arguments
  | .tested e name arguments =>
    (soft, .tested e name arguments) :: parts soft e ++ partsOfArguments soft arguments

/-- The parts of expressions in a row. -/
def partsOfRow (soft : Bool) : List Expression → List (Bool × Expression)
  | [] => []
  | e :: es => parts soft e ++ partsOfRow soft es

/-- The parts of an expression that may be left out. -/
def partsOfOptional (soft : Bool) : Option Expression → List (Bool × Expression)
  | none => []
  | some e => parts soft e

/-- The parts of the members of a dictionary. -/
def partsOfMembers (soft : Bool) : List (Expression × Expression) → List (Bool × Expression)
  | [] => []
  | (k, v) :: rest => parts soft k ++ parts soft v ++ partsOfMembers soft rest

/-- The parts of what a value is held against. -/
def partsOfOthers (soft : Bool) : List (Comparator × Expression) → List (Bool × Expression)
  | [] => []
  | (_, e) :: rest => parts soft e ++ partsOfOthers soft rest

/-- The parts of arguments. -/
def partsOfArguments (soft : Bool) : List Argument → List (Bool × Expression)
  | [] => []
  | .plain e :: rest => parts soft e ++ partsOfArguments soft rest
  | .spread e :: rest => parts soft e ++ partsOfArguments soft rest
  | .named _ e :: rest => parts soft e ++ partsOfArguments soft rest
  | .spreadNamed e :: rest => parts soft e ++ partsOfArguments soft rest

end

/-- What is wrong with one part of an expression. -/
def check (soft : Bool) : Expression → Except SyntaxError Unit
  | .constant v => if v.isOverlong then .error (.constant .overlong) else .ok ()
  | .filtered _ name _ => if soft || Filter.isKnown name then .ok () else .error (.noFilter name)
  | .tested _ name _ => if soft || Test.isKnown name then .ok () else .error (.noTest name)
  | _ => .ok ()

/-- An expression that is looked through as a whole. -/
def preparedWhole (escapes : Bool) (e : Expression) : Except SyntaxError Expression := do
  let e ← (e.fold escapes).mapError .constant
  (e.parts false).forM fun (soft, part) => check soft part
  return e

mutual

/-- An expression with values for what is constant, if nothing is wrong with it. Of a row and of a
dictionary that have no value, the parts are looked through one by one. -/
def prepared (escapes : Bool) : Expression → Except SyntaxError Expression
  | .tuple items => return .tuple (← preparedRow escapes items)
  | .list items => return .list (← preparedRow escapes items)
  | .dictionary members => return .dictionary (← preparedMembers escapes members)
  | e => preparedWhole escapes e

/-- Expressions with values for what is constant. -/
def preparedRow (escapes : Bool) : List Expression → Except SyntaxError (List Expression)
  | [] => .ok []
  | e :: es => do
    let e ← prepared escapes e
    return e :: (← preparedRow escapes es)

/-- Members with values for what is constant. -/
def preparedMembers (escapes : Bool) :
    List (Expression × Expression) → Except SyntaxError (List (Expression × Expression))
  | [] => .ok []
  | (k, v) :: rest => do
    let k ← prepared escapes k
    let v ← prepared escapes v
    return (k, v) :: (← preparedMembers escapes rest)

end

/-- The names of the variables of expressions, each once. -/
def variableNames (es : List Expression) : List String :=
  (es.flatMap fun e => (e.parts false).filterMap fun
    | (_, .variable name) => some name
    | _ => none).eraseDups

/-- The filters of expressions, each once. -/
def filters (es : List Expression) : List String :=
  (es.flatMap fun e => (e.parts false).filterMap fun
    | (_, .filtered _ name _) => some name
    | _ => none).eraseDups

/-- The tests of expressions, each once. -/
def tests (es : List Expression) : List String :=
  (es.flatMap fun e => (e.parts false).filterMap fun
    | (_, .tested _ name _) => some name
    | _ => none).eraseDups

/-- The first name that occurs twice. -/
def firstRepeated? : List String → List String → Option String
  | _, [] => none
  | seen, name :: names =>
    if seen.contains name then some name else firstRepeated? (name :: seen) names

/-- A name that is given twice to the arguments of a call. -/
def repeatedIn? (arguments : List Argument) : Option String :=
  if Argument.anyReserved arguments then none
  else
    firstRepeated? [] (arguments.filterMap fun
      | .named name _ => some (Argument.key false name)
      | _ => none)

/-- A name that is given twice to the arguments of a call somewhere in an expression. -/
def repeated? (e : Expression) : Option String :=
  (e.parts false).findSome? fun
    | (_, .call _ arguments) | (_, .filtered _ _ arguments) | (_, .tested _ _ arguments) =>
      repeatedIn? arguments
    | _ => none

/-- Some bounds of a slice stand in a row of places. -/
def hasLonelyBounds (e : Expression) : Bool :=
  (e.parts false).any fun
    | (_, .bounds ..) => true
    | _ => false

end Expression

/-- The text of a value that is printed. -/
def printedText (escapes : Bool) (v : Value) : Except Fault String :=
  if escapes then v.escaped else v.written

/-- A part of a template as text, if what it prints is constant. -/
def Node.settled (escapes : Bool) : Node → Except Fault Node
  | .text cs => .ok (.text cs)
  | .print e => do
    match ← (e.constantValue escapes).run with
    | some v => return .text (← printedText escapes v).toList
    | none => return .print e

/-- A part of a template with values for what is constant. -/
def Node.prepared (escapes : Bool) : Node → Except SyntaxError Node
  | .text cs => .ok (.text cs)
  | .print e => return .print (← e.prepared escapes)

/-- What is found in the first of some parts that has it, and the number of that part. `behindText`
tells that text came right before them. -/
def firstFound? {α : Type} (find : Expression → Option α) :
    (behindText : Bool) → (number : Nat) → List Node → Option (α × Nat)
  | _, _, [] => none
  | behindText, number, .text cs :: nodes =>
    if cs.isEmpty then firstFound? find behindText number nodes
    else firstFound? find true (if behindText then number else number + 1) nodes
  | _, number, .print e :: nodes =>
    match find e with
    | some found => some (found, number + 1)
    | none => firstFound? find false (number + 1) nodes

/-- The expressions that are printed. -/
def printedExpressions (nodes : List Node) : List Expression :=
  nodes.filterMap fun
    | .print e => some e
    | .text _ => none

/-- The parts of a template with values for what is constant, if nothing is wrong with them. -/
def prepare (escapes : Bool) (nodes : List Node) : Except SyntaxError (List Node) := do
  let settled ← (nodes.mapM (Node.settled escapes)).mapError .constant
  let ready ← settled.mapM (Node.prepared escapes)
  let es := printedExpressions nodes
  let tools := (Expression.filters es).length + (Expression.tests es).length
  let line (number : Nat) := 10 + (Expression.variableNames es).length + 6 * tools + number
  if let some (_, number) := firstFound? (fun e => guard e.hasLonelyBounds) false 0 ready then
    throw (.lonelyBounds (line number))
  if let some (name, number) := firstFound? Expression.repeated? false 0 ready then
    throw (.keywordRepeated name (line number))
  return ready

end TagCloud.Template

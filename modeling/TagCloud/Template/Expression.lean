import TagCloud.Template.Comparison

/-!
# Expressions

What a template prints is an expression: a value that is written down, a variable, or something made
of other expressions. The text of a template says in which order its parts are joined; in the tree
that is settled, and a bracket that only groups leaves nothing behind.

The arguments of a call stand in the order in which they are evaluated, whatever the order in which
they were written: first those without a name, then a row that is spread out, then those with a
name, and last a dictionary that is spread out.
-/

namespace TagCloud.Template

/-- An operator between two operands. -/
inductive Operator where
  | add
  | sub
  | mul
  | div
  | floorDiv
  | mod
  | pow
  deriving Repr, DecidableEq

/-- How one value is held against another. -/
inductive Comparator where
  | equal
  | unequal
  | ordered (r : Value.Relation)
  | among
  | notAmong
  deriving Repr, DecidableEq

mutual

/-- An expression. -/
inductive Expression where
  | constant (v : Value)
  | variable (name : String)
  | tuple (items : List Expression)
  | list (items : List Expression)
  | dictionary (members : List (Expression × Expression))
  | conditional (test value : Expression) (otherwise : Option Expression) (line : Nat)
  | either (a b : Expression)
  | both (a b : Expression)
  | negation (e : Expression)
  | comparison (e : Expression) (others : List (Comparator × Expression))
  | joined (parts : List Expression)
  | operation (op : Operator) (a b : Expression)
  | signed (negative : Bool) (e : Expression)
  | attribute (e : Expression) (name : String)
  | item (e place : Expression)
  | slice (e : Expression) (start stop step : Option Expression)
  | bounds (start stop step : Option Expression)
  | call (f : Expression) (arguments : List Argument)
  | filtered (e : Expression) (name : String) (arguments : List Argument)
  | tested (e : Expression) (name : String) (arguments : List Argument)

/-- An argument of a call. -/
inductive Argument where
  | plain (e : Expression)
  | spread (e : Expression)
  | named (name : String) (e : Expression)
  | spreadNamed (e : Expression)

end

/-- The place of an argument among the kinds of arguments. -/
def Argument.rank : Argument → Nat
  | .plain _ => 0
  | .spread _ => 1
  | .named .. => 2
  | .spreadNamed _ => 3

/-- Arguments in the order in which they are evaluated. -/
def Argument.sorted (arguments : List Argument) : List Argument :=
  arguments.mergeSort fun a b => a.rank ≤ b.rank

/-- What a name stands for: one of the written values that have a name, or a variable. -/
def Expression.named (name : String) : Expression :=
  if name = "true" || name = "True" then .constant (.bool true)
  else if name = "false" || name = "False" then .constant (.bool false)
  else if name = "none" || name = "None" then .constant .null
  else .variable name

end TagCloud.Template

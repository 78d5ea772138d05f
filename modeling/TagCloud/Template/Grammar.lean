import TagCloud.Template.Expression
import TagCloud.Template.Token

/-!
# Reading expressions

An expression is read from a row of tokens with one token in view. A fault that ends the row is met
as soon as it comes into view, before anything is decided about the tokens on the left of it.

Each part of the grammar takes the reader of a whole expression as an argument, because only inside
brackets, behind an `else` and in the arguments of a call does a whole expression stand inside
another one. A whole expression is then the same grammar with itself as the argument, so many times
as there are tokens, since every expression inside another one stands behind a token of its own.
-/

namespace TagCloud.Template

/-- What reads something off a row of tokens that ends in a given way. -/
abbrev Reader (α : Type) := ReaderT Ending (StateT (List Lexeme) (Except SyntaxError)) α

namespace Reader

/-- The fault that ends the row has come into view. -/
def settled : Reader Unit := do
  match ← get, ← read with
  | [], .fault e => throw e
  | _, _ => return ()

/-- The token in view. -/
def current? : Reader (Option Token) := do
  return (← get).head?.map (·.token)

/-- The line of the token in view. -/
def line : Reader Nat := do
  return ((← get).head?.map (·.line)).getD 0

/-- Goes on to the next token. -/
def advance : Reader Unit := do
  modify (·.drop 1)
  settled

/-- The token behind the one in view. -/
def following? : Reader (Option Token) := do
  match ← get, ← read with
  | [_], .fault e => throw e
  | ts, _ => return (ts[1]?).map (·.token)

/-- What is in view, as messages name it. -/
def found : Reader String := do
  match ← current?, ← read with
  | some t, _ => return t.shown
  | none, .open => return "end of template"
  | none, _ => return "end of print statement"

/-- A symbol is in view. -/
def atSymbol (s : String) : Reader Bool := do
  match ← current? with
  | some (.symbol t) => return t == s
  | _ => return false

/-- A word is in view. -/
def atWord (s : String) : Reader Bool := do
  match ← current? with
  | some (.name t) => return t == s
  | _ => return false

/-- Something that is not in view was expected. -/
def failWanting {α : Type} (wanted : String) : Reader α := do
  match ← current?, ← read with
  | none, .open => throw (.ended wanted)
  | _, _ => throw (.expected wanted (← found))

/-- Reads a symbol. -/
def symbol (s : String) : Reader Unit := do
  if ← atSymbol s then advance else failWanting s

/-- Reads a name. -/
def name : Reader String := do
  match ← current? with
  | some (.name s) => advance; return s
  | _ => failWanting "name"

/-- Passes over a word if it is in view. -/
def skipsWord (s : String) : Reader Bool := do
  if ← atWord s then
    advance
    return true
  return false

/-- Passes over a symbol if it is in view. -/
def skipsSymbol (s : String) : Reader Bool := do
  if ← atSymbol s then
    advance
    return true
  return false

/-! ## Rows -/

/-- Reads things with commas between them up to a closing bracket, and the bracket. Each is read
with those before it at hand, the last one first. A comma may stand before the bracket if `trailing`
says so. -/
def separated {α : Type} (closing : String) (trailing : Bool) (item : List α → Reader α) :
    Nat → List α → Reader (List α)
  | 0, _ => throw .unsupported
  | n + 1, before => do
    if ← skipsSymbol closing then return before.reverse
    unless before.isEmpty do
      symbol ","
      if trailing then
        if ← skipsSymbol closing then return before.reverse
    separated closing trailing item n ((← item before) :: before)

/-- Where a row without brackets of its own ends. -/
def atEndOfRow : Reader Bool := do
  match ← get, ← read with
  | [], .closed _ => return true
  | _, _ => atSymbol ")"

/-- Reads things with commas between them up to the end of the row, and says whether there was a
comma. -/
def row (inner : Reader Expression) : Nat → Reader (List Expression × Bool)
  | 0 => throw .unsupported
  | n + 1 => do
    if ← atEndOfRow then return ([], false)
    let first ← inner
    if ← skipsSymbol "," then
      let (more, _) ← row inner n
      return (first :: more, true)
    return ([first], false)

/-- Reads an expression, or a tuple when there are commas. Nothing at all is a tuple where brackets
stand around it. -/
def rowOrOne (inner : Reader Expression) (bracketed : Bool) : Reader Expression := do
  match ← row inner ((← get).length + 1) with
  | ([e], false) => return e
  | ([], _) => if bracketed then return .tuple [] else throw (.noExpression (← found))
  | (es, _) => return .tuple es

/-! ## Operands -/

/-- Reads the string literals in view as one text. -/
def strings (s : String) : Nat → Reader String
  | 0 => return s
  | n + 1 => do
    match ← current? with
    | some (.string t) => advance; strings (s ++ t) n
    | _ => return s

/-- Reads a member of a dictionary. -/
def member (inner : Reader Expression) : Reader (Expression × Expression) := do
  let key ← inner
  symbol ":"
  return (key, ← inner)

/-- Reads an operand without anything behind it. -/
def primary (inner : Reader Expression) : Reader Expression := do
  let size := (← get).length + 1
  match ← current? with
  | some (.name s) => advance; return .named s
  | some (.string _) => return .constant (.text (← strings "" size))
  | some (.whole n) => advance; return .constant (.whole n)
  | some (.real x) => advance; return .constant (.real x)
  | some (.symbol "(") =>
    advance
    let e ← rowOrOne inner true
    symbol ")"
    return e
  | some (.symbol "[") => advance; return .list (← separated "]" true (fun _ => inner) size [])
  | some (.symbol "\x7b") =>
    advance
    return .dictionary (← separated "\x7d" true (fun _ => member inner) size [])
  | _ => throw (.unexpected (← found))

/-- A place between the brackets behind a value: an expression, or the bounds of a slice. -/
inductive Place where
  | one (e : Expression)
  | bounds (start stop step : Option Expression)

/-- A bound of a slice ends here without having begun. -/
def atEndOfBound : Reader Bool := do
  return (← atSymbol "]") || (← atSymbol ",")

/-- Reads a place. -/
def subscript (inner : Reader Expression) : Reader Place := do
  let start ← if ← atSymbol ":" then pure none else some <$> inner
  match start, ← skipsSymbol ":" with
  | some e, false => return .one e
  | start, _ =>
    let stop ←
      if ← atSymbol ":" then pure none
      else if ← atEndOfBound then pure none
      else some <$> inner
    if ← skipsSymbol ":" then
      let step ← if ← atEndOfBound then pure none else some <$> inner
      return .bounds start stop step
    return .bounds start stop none

/-- What stands at the places between two brackets behind a value. -/
def placed (e : Expression) (places : List Place) : Reader Expression := do
  match places with
  | [.one place] => return .item e place
  | [.bounds start stop step] => return .slice e start stop step
  | places =>
    return .item e (.tuple (places.map fun
      | .one place => place
      | .bounds start stop step => .bounds start stop step))

/-- Reads an argument behind those before it. -/
def argument (inner : Reader Expression) (before : List Argument) : Reader Argument := do
  let most := (before.map Argument.rank).foldl max 0
  let spreads := before.any (·.rank == 1)
  if ← atSymbol "*" then
    if spreads || most == 3 then throw .badCall
    advance
    return .spread (← inner)
  if ← atSymbol "**" then
    if most == 3 then throw .badCall
    advance
    return .spreadNamed (← inner)
  match ← current? with
  | some (.name s) =>
    match ← following? with
    | some (.symbol "=") =>
      if most == 3 then throw .badCall
      advance
      advance
      return .named s (← inner)
    | _ =>
      if 0 < most then throw .badCall
      return .plain (← inner)
  | _ =>
    if 0 < most then throw .badCall
    return .plain (← inner)

/-- Reads the arguments of a call behind the opening bracket. -/
def arguments (inner : Reader Expression) : Reader (List Argument) := do
  return Argument.sorted
    (← separated ")" true (argument inner) ((← get).length + 1) [])

/-- Reads what may stand right behind a value: attributes, places and calls. -/
def postfixed (inner : Reader Expression) : Nat → Expression → Reader Expression
  | 0, e => return e
  | n + 1, e => do
    if ← skipsSymbol "." then
      match ← current? with
      | some (.name s) => advance; postfixed inner n (.attribute e s)
      | some (.whole k) => advance; postfixed inner n (.item e (.constant (.whole k)))
      | none =>
        throw .noPlace
      | _ => advance; throw .noPlace
    else if ← skipsSymbol "[" then
      let places ← separated "]" false (fun _ => subscript inner) ((← get).length + 1) []
      postfixed inner n (← placed e places)
    else if ← skipsSymbol "(" then
      postfixed inner n (.call e (← arguments inner))
    else return e

/-- Reads the rest of a name with points in it. -/
def dotted (s : String) : Nat → Reader String
  | 0 => return s
  | n + 1 => do
    if ← skipsSymbol "." then dotted (s ++ "." ++ (← name)) n else return s

/-- Reads the arguments of a filter, if there are any. -/
def filterArguments (inner : Reader Expression) : Reader (List Argument) := do
  if ← skipsSymbol "(" then arguments inner else return []

/-- The argument of a test can begin here without a bracket. -/
def beginsArgument : Reader Bool := do
  match ← current? with
  | some (.name s) => return !(["else", "or", "and"].contains s)
  | some (.symbol s) => return ["[", "\x7b"].contains s
  | some _ => return true
  | none => return false

/-- Reads the arguments of a test: a row in brackets, or one operand without. -/
def testArguments (inner : Reader Expression) : Reader (List Argument) := do
  if ← skipsSymbol "(" then arguments inner
  else if ← beginsArgument then
    if ← atWord "is" then throw .chainedTests
    let e ← primary inner
    return [.plain (← postfixed inner ((← get).length + 1) e)]
  else return []

/-- Reads what may stand behind an operand: filters, tests and calls. -/
def filtered (inner : Reader Expression) : Nat → Expression → Reader Expression
  | 0, e => return e
  | n + 1, e => do
    let size := (← get).length + 1
    if ← skipsSymbol "|" then
      let filter ← dotted (← name) size
      filtered inner n (.filtered e filter (← filterArguments inner))
    else if ← skipsWord "is" then
      let denied ← skipsWord "not"
      let test ← dotted (← name) size
      let tested := Expression.tested e test (← testArguments inner)
      filtered inner n (if denied then .negation tested else tested)
    else if ← skipsSymbol "(" then
      filtered inner n (.call e (← arguments inner))
    else return e

/-- Reads an operand behind its signs. -/
def operandBehindSigns (inner : Reader Expression) : Nat → Reader Expression
  | 0 => throw .unsupported
  | n + 1 => do
    if ← skipsSymbol "-" then return .signed true (← operandBehindSigns inner n)
    else if ← skipsSymbol "+" then return .signed false (← operandBehindSigns inner n)
    else
      let e ← primary inner
      postfixed inner ((← get).length + 1) e

/-- Reads an operand with all that belongs to it. -/
def operand (inner : Reader Expression) : Reader Expression := do
  let size := (← get).length + 1
  let e ← operandBehindSigns inner size
  filtered inner size e

/-! ## Operators -/

/-- Reads operands with the operators of one strength between them. -/
def chained {α : Type} (next : Reader Expression) (ops : List (String × α))
    (join : α → Expression → Expression → Expression) : Nat → Expression → Reader Expression
  | 0, e => return e
  | n + 1, e => do
    match ← current? with
    | some (.symbol s) =>
      match ops.lookup s with
      | some op =>
        advance
        chained next ops join n (join op e (← next))
      | none => return e
    | _ => return e

/-- Reads operands with operators between them, from left to right. -/
def leftToRight (ops : List (String × Operator)) (next : Reader Expression) :
    Reader Expression := do
  let size := (← get).length + 1
  chained next ops .operation size (← next)

/-- Reads a power. -/
def power (inner : Reader Expression) : Reader Expression :=
  leftToRight [("**", .pow)] (operand inner)

/-- Reads a product. -/
def product (inner : Reader Expression) : Reader Expression :=
  leftToRight [("*", .mul), ("/", .div), ("//", .floorDiv), ("%", .mod)] (power inner)

/-- Reads the parts behind a tilde. -/
def parts (next : Reader Expression) : Nat → Reader (List Expression)
  | 0 => return []
  | n + 1 => do
    if ← skipsSymbol "~" then
      let e ← next
      return e :: (← parts next n)
    return []

/-- Reads values that are joined as texts. -/
def joined (inner : Reader Expression) : Reader Expression := do
  let first ← product inner
  match ← parts (product inner) ((← get).length + 1) with
  | [] => return first
  | more => return .joined (first :: more)

/-- Reads a sum. -/
def sum (inner : Reader Expression) : Reader Expression :=
  leftToRight [("+", .add), ("-", .sub)] (joined inner)

/-- The comparators that are symbols. -/
def comparators : List (String × Comparator) :=
  [("==", .equal), ("!=", .unequal), ("<", .ordered .below), ("<=", .ordered .atMost),
    (">", .ordered .above), (">=", .ordered .atLeast)]

/-- Reads a comparator. -/
def comparator? : Reader (Option Comparator) := do
  match ← current? with
  | some (.symbol s) =>
    match comparators.lookup s with
    | some c => advance; return some c
    | none => return none
  | some (.name "in") => advance; return some .among
  | some (.name "not") =>
    match ← following? with
    | some (.name "in") => advance; advance; return some .notAmong
    | _ => return none
  | _ => return none

/-- Reads what a value is held against. -/
def comparisons (next : Reader Expression) : Nat → Reader (List (Comparator × Expression))
  | 0 => return []
  | n + 1 => do
    match ← comparator? with
    | none => return []
    | some c =>
      let e ← next
      return (c, e) :: (← comparisons next n)

/-- Reads a comparison. -/
def comparison (inner : Reader Expression) : Reader Expression := do
  let first ← sum inner
  match ← comparisons (sum inner) ((← get).length + 1) with
  | [] => return first
  | others => return .comparison first others

/-- Reads a negation. -/
def negation (inner : Reader Expression) : Nat → Reader Expression
  | 0 => throw .unsupported
  | n + 1 => do
    if ← skipsWord "not" then return .negation (← negation inner n) else comparison inner

/-- Reads operands with a word between them, from left to right. -/
def wordChain (word : String) (join : Expression → Expression → Expression)
    (next : Reader Expression) : Nat → Expression → Reader Expression
  | 0, e => return e
  | n + 1, e => do
    if ← skipsWord word then wordChain word join next n (join e (← next)) else return e

/-- Reads what holds if all its parts do. -/
def both (inner : Reader Expression) : Reader Expression := do
  let size := (← get).length + 1
  wordChain "and" .both (negation inner size) size (← negation inner size)

/-- Reads what holds if one of its parts does. -/
def either (inner : Reader Expression) : Reader Expression := do
  wordChain "or" .either (both inner) ((← get).length + 1) (← both inner)

/-- Reads the conditions behind a value that was begun on a line. -/
def conditions (inner : Reader Expression) : Nat → Expression → Nat → Reader Expression
  | 0, e, _ => return e
  | n + 1, e, begun => do
    if ← skipsWord "if" then
      let test ← either inner
      let otherwise ← if ← skipsWord "else" then some <$> inner else pure none
      conditions inner n (.conditional test e otherwise begun) (← line)
    else return e

/-- Reads a value with the conditions behind it. -/
def conditional (inner : Reader Expression) : Reader Expression := do
  let begun ← line
  let e ← either inner
  conditions inner ((← get).length + 1) e begun

/-- Reads an expression in which no more than so many stand one inside the other. -/
def expression : Nat → Reader Expression
  | 0 => throw .unsupported
  | n + 1 => conditional (expression n)

end Reader

/-- Reads an expression that is printed, up to the end of its row, and gives back what follows. -/
def printed (ts : List Lexeme) (ending : Ending) : Except SyntaxError (Expression × List Char) :=
  let reader : Reader Expression := do
    Reader.settled
    Reader.rowOrOne (Reader.expression (ts.length + 1)) false
  match reader.run ending ts, ending with
  | .error e, _ => .error e
  | .ok (e, []), .closed rest => .ok (e, rest)
  | .ok (_, t :: _), _ => .error (.expected "end of print statement" t.token.shown)
  | .ok (_, []), .open => .error (.ended "end of print statement")
  | .ok (_, []), .fault e => .error e

end TagCloud.Template

import TagCloud.Template.Preparation

/-!
# Rendering templates

A template is rendered part by part, from the first to the last. A cloud is markup and is printed as
it is; of everything else the markup characters are escaped if the environment asks for that.
-/

namespace TagCloud.Template

/-- What a host chooses for all its templates. -/
structure Environment where
  delimiters : Delimiters
  spacing : Spacing
  autoescape : Bool
  names : Names
  deriving Repr, DecidableEq

/-- The environment that is used unless something else is chosen. -/
def Environment.usual : Environment where
  delimiters := .usual
  spacing := .usual
  autoescape := false
  names := .usual

/-- Variables with labels for the values in them, from a number on, and the next number. -/
def Context.labelled (next : Nat) : Context → Context × Nat
  | [] => ([], next)
  | (name, v) :: rest =>
    let (v, next) := v.labelled next
    let (rest, next) := labelled next rest
    ((name, v) :: rest, next)

/-- What the expressions of a template are evaluated in. -/
def Environment.scope (env : Environment) (context : Context) (asked : List String) : Scope :=
  ⟨context, env.names, env.autoescape, asked⟩

/-- The text of one node. -/
def renderNode (s : Scope) : Node → Evaluation String
  | .text cs => return String.ofList cs
  | .print e => do
    let v ← evaluate s e
    .of (printedText s.escapes (← Evaluation.latest v))

/-- The text of nodes, one after the other. -/
def renderNodes (s : Scope) : List Node → Evaluation String
  | [] => return ""
  | node :: nodes => do
    let text ← renderNode s node
    return text ++ (← renderNodes s nodes)

/-- The text of a template; clouds without a seed are shuffled by the given source. -/
def render (env : Environment) (context : Context) (shared : Source) (source : String) :
    Except TemplateError String := do
  if !env.delimiters.areDistinct then throw (.malformed .sameOpenings)
  let parts ← (nodes env.spacing env.delimiters source.toList).mapError .malformed
  let asked := Expression.variableNames (printedExpressions parts)
  let ready ← (prepare env.autoescape parts).mapError .malformed
  let (context, next) := context.labelled 0
  (renderNodes (env.scope context asked) ready).run' ⟨shared, ⟨[], next⟩⟩

end TagCloud.Template

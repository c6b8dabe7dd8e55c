import Pressroom.Expr.Eval
import Pressroom.Log

/-!
What happens while a page is made, besides the page: expressions are put to an evaluator, and what
fails is reported. Nothing that fails stops the rest.
-/

namespace Pressroom.Render

/-- What expressions are put to. -/
structure Evaluator where
  evaluate : List Char → Scope → Except Expr.EvalError Value
  test : List Char → Scope → Except Expr.EvalError Bool

/-- The expression language of the library. -/
def Evaluator.standard : Evaluator where
  evaluate := Expr.evaluate
  test := Expr.test

/-- An evaluator that only has values: conditions are judged by theirs. -/
def Evaluator.ofValues (evaluate : List Char → Scope → Except Expr.EvalError Value) :
    Evaluator where
  evaluate := evaluate
  test := fun source scope => (evaluate source scope).map Value.truthy

/-- How many inclusions may stand inside each other. -/
def inclusionLimit : Nat := 64

/-- What goes wrong while a page is made. -/
inductive Problem where
  | expressionFailed (source : List Char) (error : Expr.EvalError)
  | styleFailed (selector : Option (List Char)) (error : Expr.EvalError)
  | inclusionTooDeep (source : List Char)
  | inclusionFailed (source : List Char) (error : Expr.EvalError)
  | loopNotAnArray (source : List Char) (found : Value)
  | loopFailed (source : List Char) (error : Expr.EvalError)
  | conditionFailed (error : Expr.EvalError)
  | contentNotAnArray (content : Value)
  | unknownSection (name : Option String)
  | notANode (entry : Value)

/-- The JSON text of a value, cut off where it gets long. -/
def summary (value : Value) : String :=
  let text := value.write .compact 0
  if 80 < text.length then String.ofList (text.take 80 ++ ['.', '.', '.']) else String.ofList text

def Problem.record : Problem → Record
  | expressionFailed source error =>
    ⟨.error, s!"expression `\x7b\x7b{String.ofList source}\x7d\x7d` failed: {error.message}"⟩
  | styleFailed selector error =>
    let shown := selector.getD "$.style".toList
    ⟨.warn, s!"style directive `{String.ofList shown}` produced no style: {error.message}"⟩
  | inclusionTooDeep source =>
    ⟨.error, s!"section inclusion `{String.ofList source}` skipped: nested more than " ++
      s!"{inclusionLimit} levels deep"⟩
  | inclusionFailed source error =>
    ⟨.error, s!"section inclusion `{String.ofList source}` failed: {error.message}"⟩
  | loopNotAnArray source found =>
    ⟨.error, s!"for statement over `{String.ofList source}` skipped: not an array " ++
      s!"({summary found})"⟩
  | loopFailed source error =>
    ⟨.error, s!"for statement over `{String.ofList source}` failed: {error.message}"⟩
  | conditionFailed error => ⟨.error, s!"if statement failed, rendering nothing: {error.message}"⟩
  | contentNotAnArray content =>
    ⟨.warn, s!"invalid content to process, expected an array: {summary content}"⟩
  | unknownSection name =>
    let shown := name.getD "<no type>"
    ⟨.warn, s!"section `{shown}` not found, skipping node"⟩
  | notANode entry =>
    ⟨.warn, s!"skipping content entry that is not a node: {summary entry}"⟩

inductive Event where
  | evaluated (source : List Char) (outcome : Except Expr.EvalError Value)
  | tested (source : List Char) (outcome : Except Expr.EvalError Bool)
  | reported (problem : Problem)

def Event.record? : Event → Option Record
  | reported problem => some problem.record
  | _ => none

/-- A part of a page, and what happened while it was made. -/
structure Output where
  text : List Char
  events : List Event

namespace Output

def empty : Output := ⟨[], []⟩

def ofText (text : List Char) : Output := ⟨text, []⟩

def ofProblem (problem : Problem) : Output := ⟨[], [.reported problem]⟩

def append (a b : Output) : Output := ⟨a.text ++ b.text, a.events ++ b.events⟩

instance : Append Output := ⟨append⟩

def after (event : Event) (output : Output) : Output := ⟨output.text, event :: output.events⟩

def concat (parts : List Output) : Output :=
  parts.foldr append empty

def records (output : Output) : List Record :=
  output.events.filterMap Event.record?

end Output

end Pressroom.Render

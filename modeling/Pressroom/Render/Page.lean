import Pressroom.Markup.Node
import Pressroom.Markup.Section
import Pressroom.Render.Event
import Pressroom.Style

/-!
Pages from content. Markup is expanded against a scope, content is processed node by node with the
section that its type names, and an inclusion in a markup leads back to content. The number of
inclusions that may still stand inside each other goes down with each one; below that the content
and the tree of the markup are what the recursion goes by.
-/

namespace Pressroom

namespace Render

open Markup (Node Sections)

variable (evaluator : Evaluator)

/-! ### Markup -/

def shown (source : List Char) : Except Expr.EvalError Value → Output
  | .ok value => .ofText ((value.rendered?.getD "").toList)
  | .error e => .ofProblem (.expressionFailed source e)

/-- The value of an expression on the page. -/
def expression (source : List Char) (scope : Scope) : Output :=
  let outcome := evaluator.evaluate source scope
  .after (.evaluated source outcome) (shown source outcome)

def declarations (selector : Option (List Char)) (spread : Bool)
    (source : Except Expr.EvalError Value) : Output :=
  match source.bind Style.declarations with
  | .ok declarations => .ofText (Style.output declarations spread).toList
  | .error e => .ofProblem (.styleFailed selector e)

def style (selector : Option (List Char)) (spread : Bool) (scope : Scope) : Output :=
  match selector with
  | none => declarations none spread (.ok (scope.style?.getD .null))
  | some source =>
    let outcome := evaluator.evaluate source scope
    .after (.evaluated source outcome) (declarations selector spread outcome)

/-- A single node is a tree of one entry. -/
def asTree (value : Value) : Value :=
  if value.isObject then .arr [value] else value

/-- Content on the page. Without a way to process it, the nesting is too deep. -/
def inclusion (process? : Option (Value → Output)) (source : List Char) (scope : Scope) : Output :=
  match process? with
  | none => .ofProblem (.inclusionTooDeep source)
  | some process =>
    let outcome := evaluator.evaluate source scope
    .after (.evaluated source outcome)
      (match outcome with
        | .ok value => process (asTree value)
        | .error e => .ofProblem (.inclusionFailed source e))

/-- The rounds of a loop, from a position on. -/
def rounds (round : Value → Nat → Output) : (position : Nat) → List Value → Output
  | _, [] => .empty
  | position, item :: items => round item position ++ rounds round (position + 1) items

variable (process? : Option (Value → Output))

mutual

/-- A tree of markup on the page. -/
def nodes : List Node → Scope → Output
  | [], _ => .empty
  | n :: ns, scope => node n scope ++ nodes ns scope

def node : Node → Scope → Output
  | .text t, _ => .ofText t
  | .expression source, scope => expression evaluator source scope
  | .style selector spread, scope => style evaluator selector spread scope
  | .inclusion source, scope => inclusion evaluator process? source scope
  | .loop element index source body, scope =>
    let outcome := evaluator.evaluate source scope
    .after (.evaluated source outcome)
      (match outcome with
        | .ok (.arr items) =>
          rounds (fun item position => nodes body (.frame element item index position scope)) 0
            items
        | .ok other => .ofProblem (.loopNotAnArray source other)
        | .error e => .ofProblem (.loopFailed source e))
  | .conditional branches none, scope => branch (fun _ => .empty) branches scope
  | .conditional branches (some body), scope =>
    branch (fun _ => nodes body scope) branches scope

/-- The first branch whose condition holds, on the page; later conditions are not looked at. -/
def branch (otherwise : Unit → Output) : List (List Char × List Node) → Scope → Output
  | [], _ => otherwise ()
  | (condition, body) :: branches, scope =>
    let outcome := evaluator.test condition scope
    .after (.tested condition outcome)
      (match outcome with
        | .ok true => nodes body scope
        | .ok false => branch otherwise branches scope
        | .error e => .ofProblem (.conditionFailed e))

end

/-! ### Content -/

/-- What an entry of a content array contributes: a text of its own or none, and events. -/
structure Entry where
  text? : Option (List Char)
  events : List Event

/-- An entry that is a part of the page. -/
def Entry.ofOutput (output : Output) : Entry := ⟨some output.text, output.events⟩

def Entry.skipped (problem : Problem) : Entry := ⟨none, [.reported problem]⟩

/-- The entries of a content array on the page, one per line. -/
def joinEntries (entries : List Entry) : Output :=
  ⟨Text.join ['\n'] (entries.filterMap (·.text?)), entries.flatMap (·.events)⟩

/-- A content node on the page, rendered with the section of its type. -/
def contentNode (sections : Sections) (render : List Char → Scope → Output)
    (content : Value) : Entry :=
  let type := (content.field? "type").bind Value.str?
  match type.bind sections.get? with
  | some markup => .ofOutput (render markup (.node content))
  | none => .skipped (.unknownSection type)

mutual

/-- Content on the page. -/
def process (sections : Sections) (render : List Char → Scope → Output) : Value → Output
  | .arr entries => joinEntries (processAll sections render entries)
  | content => .ofProblem (.contentNotAnArray content)

/-- The entries of a content array. A nested array is one entry. -/
def processAll (sections : Sections) (render : List Char → Scope → Output) :
    List Value → List Entry
  | [] => []
  | entry :: entries =>
    (match entry with
      | .arr _ => .ofOutput (process sections render entry)
      | .obj _ => contentNode sections render entry
      | other => .skipped (.notANode other)) :: processAll sections render entries

end

end Render

/-! ### Both together -/

open Render Markup

/-- What content is rendered with: the sections of a template, and an evaluator. -/
structure Press where
  sections : Sections
  evaluator : Evaluator

namespace Press

/-- Markup on the page, with so many inclusions allowed inside each other. -/
def renderWithin (press : Press) : (room : Nat) → List Char → Scope → Output
  | 0, markup, scope => nodes press.evaluator none (Node.ofMarkup markup) scope
  | room + 1, markup, scope =>
    nodes press.evaluator (some (Render.process press.sections (press.renderWithin room)))
      (Node.ofMarkup markup) scope

def processWithin (press : Press) (room : Nat) (content : Value) : Output :=
  Render.process press.sections (press.renderWithin room) content

def render (press : Press) (markup : List Char) (scope : Scope) : Output :=
  press.renderWithin inclusionLimit markup scope

def process (press : Press) (content : Value) : Output :=
  press.processWithin inclusionLimit content

end Press

end Pressroom

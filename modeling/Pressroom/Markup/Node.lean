import Pressroom.Markup.Scan

/-!
Markup as a tree: the directives of a markup with their bodies taken apart as well. What a directive
means depends on its tree alone, so a body is taken apart once, however often it is repeated.
-/

namespace Pressroom.Markup

/-- A directive whose bodies are trees. -/
inductive Node where
  | text (t : List Char)
  | expression (source : List Char)
  | style (selector : Option (List Char)) (spread : Bool)
  | inclusion (source : List Char)
  | loop (element : String) (index : Option String) (array : List Char) (body : List Node)
  | conditional (branches : List (List Char × List Node)) (otherwise : Option (List Node))

namespace Node

def ofMarkup (cs : List Char) : List Node :=
  (directives cs).attach.map fun directive =>
    match directive with
    | ⟨.text t, _⟩ => .text t
    | ⟨.expression source, _⟩ => .expression source
    | ⟨.style selector spread, _⟩ => .style selector spread
    | ⟨.inclusion source, _⟩ => .inclusion source
    | ⟨.loop element index array body, _⟩ => .loop element index array (ofMarkup body)
    | ⟨.conditional branches otherwise, _⟩ =>
      .conditional (branches.attach.map fun b => (b.1.condition, ofMarkup b.1.body))
        (otherwise.attach.map fun b => ofMarkup b.1)
termination_by cs.length
decreasing_by
  · next h => exact length_body_lt h (by simp [Directive.bodies])
  · next h =>
    exact length_body_lt h
      (List.mem_append_left _ (List.mem_map_of_mem b.2))
  · next h =>
    exact length_body_lt h (List.mem_append_right _ (by simpa using b.2))

def ofDirective : Directive → Node
  | .text t => .text t
  | .expression source => .expression source
  | .style selector spread => .style selector spread
  | .inclusion source => .inclusion source
  | .loop element index array body => .loop element index array (ofMarkup body)
  | .conditional branches otherwise =>
    .conditional (branches.map fun b => (b.condition, ofMarkup b.body)) (otherwise.map ofMarkup)

/-- The tree of a markup is made of the trees of its directives. -/
theorem ofMarkup_eq (cs : List Char) : ofMarkup cs = (directives cs).map ofDirective := by
  rw [ofMarkup]
  conv => rhs; rw [← List.attach_map_subtype_val (directives cs), List.map_map]
  apply List.map_congr_left
  rintro ⟨directive, h⟩ -
  cases directive with
  | conditional branches otherwise =>
    simp only [Function.comp, ofDirective, conditional.injEq]
    refine ⟨?_, ?_⟩
    · conv => rhs; rw [← List.attach_map_subtype_val branches, List.map_map]
      rfl
    · cases otherwise <;> simp [Option.attach]
  | _ => rfl

end Node

end Pressroom.Markup

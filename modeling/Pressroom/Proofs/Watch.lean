import Mathlib.Tactic.Lemma

/-!
Worlds that are watched: next to a world stands what has been asked of it so far. A watched step
comes to what it comes to unwatched, and it is told step by step what is written down of it.
-/

namespace Pressroom

/-- A world, and what has been written down in it. -/
abbrev Watch (W ν : Type) := StateM (W × List ν)

variable {W ν α β : Type}

/-- A step of which nothing is written down. -/
def unnoticed (x : StateM W α) : Watch W ν α := fun state =>
  ((x state.1).1, ((x state.1).2, state.2))

/-- A step of which is written down what its result tells. -/
def noted (note : α → List ν) (x : StateM W α) : Watch W ν α := fun state =>
  ((x state.1).1, ((x state.1).2, state.2 ++ note (x state.1).1))

/-- In a world a watched step comes to what it comes to unwatched, and these are its notes. -/
def Notes (watched : Watch W ν α) (plain : StateM W α) (w : W) (notes : List ν) : Prop :=
  ∀ before, watched.run (w, before) = ((plain.run w).1, (plain.run w).2, before ++ notes)

section Notes

variable {watched : Watch W ν α} {plain : StateM W α} {w : W} {notes : List ν}

lemma notes_pure (a : α) (w : W) : Notes (ν := ν) (pure a) (pure a) w [] := by
  intro before
  rw [List.append_nil]
  rfl

lemma notes_unnoticed (x : StateM W α) (w : W) : Notes (ν := ν) (unnoticed x) x w [] := by
  intro before
  rw [List.append_nil]
  rfl

lemma notes_noted (note : α → List ν) (x : StateM W α) (w : W) :
    Notes (noted note x) x w (note (x.run w).1) :=
  fun _ => rfl

lemma Notes.bind (h : Notes watched plain w notes) {f : α → Watch W ν β} {g : α → StateM W β}
    {more : List ν} (hmore : Notes (f (plain.run w).1) (g (plain.run w).1) (plain.run w).2 more) :
    Notes (watched >>= f) (plain >>= g) w (notes ++ more) := by
  intro before
  rw [StateT.run_bind, h before, ← List.append_assoc]
  exact hmore (before ++ notes)

lemma Notes.bind_quiet (h : Notes watched plain w notes) {f : α → Watch W ν β}
    {g : α → StateM W β}
    (hquiet : Notes (f (plain.run w).1) (g (plain.run w).1) (plain.run w).2 []) :
    Notes (watched >>= f) (plain >>= g) w notes := by
  simpa only [List.append_nil] using h.bind hquiet

lemma Notes.quiet_bind (h : Notes watched plain w []) {f : α → Watch W ν β} {g : α → StateM W β}
    (hmore : Notes (f (plain.run w).1) (g (plain.run w).1) (plain.run w).2 notes) :
    Notes (watched >>= f) (plain >>= g) w notes :=
  h.bind hmore

end Notes

end Pressroom

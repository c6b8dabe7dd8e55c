import Mathlib.Data.List.Basic
import Pressroom.Text.Search

/-!
Texts joined by a separator. Parts that are joined texts themselves can be taken apart, as long as
none of them is made of no parts at all.
-/

namespace Pressroom.Text

variable {separator : List Char}

@[simp] lemma join_singleton (separator part : List Char) : join separator [part] = part := by
  simp [join]

lemma join_cons {parts : List (List Char)} (h : parts ≠ []) (part : List Char) :
    join separator (part :: parts) = part ++ separator ++ join separator parts := by
  exact List.intercalate_cons_of_ne_nil h

lemma join_empty (parts : List (List Char)) : join [] parts = parts.flatten := by
  induction parts with
  | nil => rfl
  | cons part parts ih =>
    by_cases h : parts = []
    · simp [h]
    · rw [join_cons h, ih, List.append_nil, List.flatten_cons]

lemma join_append {parts parts' : List (List Char)} (h : parts ≠ []) (h' : parts' ≠ []) :
    join separator (parts ++ parts') =
      join separator parts ++ separator ++ join separator parts' := by
  induction parts with
  | nil => exact absurd rfl h
  | cons part parts ih =>
    by_cases hparts : parts = []
    · rw [hparts, join_singleton]
      exact join_cons h' part
    · have hne : parts ++ parts' ≠ [] := by simp [hparts]
      rw [List.cons_append, join_cons hne, ih hparts, join_cons hparts]
      simp only [List.append_assoc]

lemma join_map_join {rows : List (List (List Char))} (h : ∀ row ∈ rows, row ≠ []) :
    join separator (rows.map (join separator)) = join separator rows.flatten := by
  induction rows with
  | nil => rfl
  | cons row rows ih =>
    have ih := ih fun row' h' => h row' (List.mem_cons_of_mem _ h')
    have hrow : row ≠ [] := h row List.mem_cons_self
    cases rows with
    | nil => simp
    | cons row' rows =>
      have hne : (row' :: rows).flatten ≠ [] := by
        simp [h row' (List.mem_cons_of_mem _ List.mem_cons_self)]
      calc join separator ((row :: row' :: rows).map (join separator))
          = join separator row ++ separator ++
              join separator ((row' :: rows).map (join separator)) := join_cons (by simp) _
        _ = join separator row ++ separator ++ join separator (row' :: rows).flatten := by rw [ih]
        _ = join separator (row :: row' :: rows).flatten := (join_append hrow hne).symm

end Pressroom.Text

import Pressroom.Proofs.Files.Changes
import Pressroom.Proofs.Files.Clean

/-!
Files with plain names in a folder. A plain name is a single step down, so that each file has one
place in the folder, and files have the same place just if they have the same name.
-/

namespace Pressroom

open Pressroom.Path (Segment)

namespace Path

/-- A name that is one step down. -/
def IsPlain (name : Segment) : Prop :=
  name ≠ [] ∧ '/' ∉ name ∧ name ≠ here ∧ name ≠ up

instance (name : Segment) : Decidable (IsPlain name) :=
  inferInstanceAs (Decidable (_ ∧ _ ∧ _ ∧ _))

variable {name : Segment}

lemma IsPlain.segments (h : IsPlain name) : Path.segments ⟨name⟩ = [name] :=
  Text.pieces_of_not_mem h.2.1

lemma IsPlain.not_isAbsolute (h : IsPlain name) : isAbsolute ⟨name⟩ = false := by
  obtain ⟨c, rest, rfl⟩ := List.exists_cons_of_ne_nil h.1
  have hc : c ≠ '/' := fun e => h.2.1 (e ▸ List.mem_cons_self)
  simp [isAbsolute, hc]

lemma IsPlain.div (h : IsPlain name) (folder : Path) :
    (folder.text = [] ∧ folder / ⟨name⟩ = ⟨name⟩) ∨
      (∃ inner, folder = ⟨inner ++ ['/']⟩ ∧ folder / ⟨name⟩ = ⟨inner ++ '/' :: name⟩) ∨
      (folder.text ≠ [] ∧ folder / ⟨name⟩ = ⟨folder.text ++ '/' :: name⟩) := by
  have hdiv : folder / ⟨name⟩ = append folder ⟨name⟩ := rfl
  rw [hdiv, append, if_neg (by simp [h.not_isAbsolute])]
  by_cases hempty : folder.text = []
  · simp [hempty]
  · by_cases hslash : folder.text.getLast? = some '/'
    · obtain ⟨inner, hinner⟩ := List.getLast?_eq_some_iff.1 hslash
      refine .inr (.inl ⟨inner, congrArg Path.mk hinner, ?_⟩)
      rw [if_pos (by simp [hslash]), hinner, List.append_assoc, List.singleton_append]
    · refine .inr (.inr ⟨hempty, ?_⟩)
      rw [if_neg (by simp [hempty, hslash])]

end Path

namespace FileTree

variable {tree after : FileTree} {folder : Path} {name : Segment} {place : Place}

/-- Where a path leads that others are put behind. Behind an empty one they start at the top. -/
def landing (tree : FileTree) (folder : Path) : Except FileFault Place :=
  if folder.text.isEmpty then .ok .top else tree.find folder

lemma landing_of_ne_nil (h : folder.text ≠ []) : tree.landing folder = tree.find folder := by
  rw [landing, if_neg (by simpa using h)]

lemma Grows.landing (h : tree.Grows after) (hlanding : tree.landing folder = .ok place) :
    after.landing folder = .ok place := by
  rw [FileTree.landing] at hlanding ⊢
  split_ifs at hlanding ⊢
  · exact hlanding
  · exact h.find hlanding

lemma start_of_append {a b : List Char} {origin : Place} (hne : a ≠ [])
    (h : start ⟨a ++ b⟩ = .ok origin) : start ⟨a⟩ = .ok origin := by
  have hsize : byteSize a ≤ byteSize (a ++ b) := by
    rw [byteSize, byteSize, String.ofList_append, String.utf8ByteSize_append]
    exact Nat.le_add_right _ _
  have hhead : (a ++ b).head? = a.head? := List.head?_append_of_ne_nil a hne
  rw [start] at h
  split_ifs at h with hnul hempty hlong <;>
  · have hnul : ¬ a.contains '\x00' = true := by
      simp only [List.contains_eq_mem, List.mem_append, decide_eq_true_eq, not_or] at hnul ⊢
      exact hnul.1
    rw [start, if_neg hnul, if_neg (by simpa using hne), if_neg (by dsimp only at hlong ⊢; omega)]
    simp_all [Path.isAbsolute]

lemma eq_of_snoc_eq {inner inner' slashes : List Segment} {last : Segment}
    (h : inner ++ [name] = inner' ++ last :: slashes) (hslashes : ∀ s ∈ slashes, s = [])
    (hne : name ≠ []) : inner = inner' ∧ name = last := by
  rcases List.eq_nil_or_concat slashes with rfl | ⟨slashes, s, rfl⟩
  · obtain ⟨hinner, hlast⟩ := List.append_inj' h rfl
    exact ⟨hinner, List.head_eq_of_cons_eq hlast⟩
  · rw [List.concat_eq_append, ← List.cons_append, ← List.append_assoc] at h
    obtain ⟨-, hlast⟩ := List.append_inj' h rfl
    exact absurd ((List.head_eq_of_cons_eq hlast).trans (hslashes s (by simp))) hne

/-- **A plain name is looked for where its folder leads.** -/
lemma Ends.landing_eq {last : Segment} {slashed : Bool}
    (h : Ends tree (folder / ⟨name⟩) place last slashed) (hname : Path.IsPlain name) :
    last = name ∧ tree.landing folder = .ok place := by
  obtain ⟨hstart, hsegments, hslashes, -, -, hwalk, hfolder⟩ := h
  rcases hname.div folder with ⟨hempty, hdiv⟩ | ⟨before, rfl, hdiv⟩ | ⟨hne, hdiv⟩ <;>
    rw [hdiv] at hsegments hstart
  · rw [hname.segments, ← List.nil_append [name]] at hsegments
    obtain ⟨rfl, rfl⟩ := eq_of_snoc_eq hsegments hslashes hname.1
    refine ⟨rfl, ?_⟩
    rw [start] at hstart
    split_ifs at hstart with hnul hnil hlong habsolute
    · rw [hname.not_isAbsolute] at habsolute
      cases habsolute
    · rw [landing, if_pos (by simpa using hempty), Except.ok.inj hstart]
      exact hwalk
  · rw [Path.segments_append, hname.segments] at hsegments
    obtain ⟨rfl, rfl⟩ := eq_of_snoc_eq hsegments hslashes hname.1
    refine ⟨rfl, ?_⟩
    have hslash : Path.segments ⟨[]⟩ = [[]] := Text.pieces_of_not_mem List.not_mem_nil
    rw [← List.singleton_append, ← List.append_assoc] at hstart
    rw [landing_of_ne_nil (by simp), find, start_of_append (by simp) hstart, ok_bind,
      Path.segments_append, hslash]
    exact walk_slash_eq_ok_iff.2 ⟨hwalk, hfolder⟩
  · rw [Path.segments_append, hname.segments] at hsegments
    obtain ⟨rfl, rfl⟩ := eq_of_snoc_eq hsegments hslashes hname.1
    refine ⟨rfl, ?_⟩
    rw [landing_of_ne_nil hne, find, start_of_append hne hstart]
    exact hwalk

/-- **A file with a plain name is written into its folder**, and no other file. -/
theorem wrote_of_write_plain {bytes : ByteArray} (hname : Path.IsPlain name)
    (h : tree.write (folder / ⟨name⟩) bytes = .ok after) :
    ∃ steps, tree.landing folder = .ok (.inside steps) ∧
      Wrote (folder / ⟨name⟩) (.inside (steps ++ [name])) bytes tree after := by
  obtain ⟨steps, last, hends, hwrote⟩ := wrote_of_write h
  obtain ⟨rfl, hlanding⟩ := hends.landing_eq hname
  exact ⟨steps, hlanding, hwrote⟩

end FileTree

end Pressroom

import Pressroom.Files.Path
import Pressroom.Proofs.Text.Pieces

/-!
Clean paths. A clean path has no segment that stays and none that goes up, and a path without such
segments is clean already: cleaning comes to a normal form. Where a path leads is said by the names
that are left on the way from the root; cleaning keeps them as long as each segment that goes up
finds a name in front of it. Otherwise it may take away what is no name: the root itself, or the
empty segment between two slashes.
-/

namespace Pressroom

namespace Path

open Text

/-! ### Settled segments -/

section Settle

variable {kept rest : List Segment}

@[simp] lemma settle_nil (kept : List Segment) : settle kept [] = kept.reverse := rfl

@[simp] lemma settle_here : settle kept (here :: rest) = settle kept rest := by
  rw [settle, if_pos rfl]

@[simp] lemma settle_up : settle kept (up :: rest) = settle kept.tail rest := by
  rw [settle, if_neg (by decide), if_pos rfl]

lemma settle_down {s : Segment} (hhere : s ≠ here) (hup : s ≠ up) :
    settle kept (s :: rest) = settle (s :: kept) rest := by
  rw [settle, if_neg hhere, if_neg hup]

lemma segment_cases (s : Segment) : s = here ∨ s = up ∨ (s ≠ here ∧ s ≠ up) := by
  by_cases hhere : s = here
  · exact .inl hhere
  · by_cases hup : s = up
    · exact .inr (.inl hup)
    · exact .inr (.inr ⟨hhere, hup⟩)

lemma mem_settle {s : Segment} (h : s ∈ settle kept rest) :
    s ∈ kept ∨ (s ∈ rest ∧ s ≠ here ∧ s ≠ up) := by
  induction rest generalizing kept with
  | nil => exact .inl (List.mem_reverse.1 h)
  | cons next rest ih =>
    rcases segment_cases next with rfl | rfl | ⟨hhere, hup⟩
    · rw [settle_here] at h
      exact (ih h).imp_right fun hs => ⟨List.mem_cons_of_mem _ hs.1, hs.2⟩
    · rw [settle_up] at h
      exact (ih h).imp List.mem_of_mem_tail fun hs => ⟨List.mem_cons_of_mem _ hs.1, hs.2⟩
    · rw [settle_down hhere hup] at h
      rcases ih h with hs | hs
      · rcases List.mem_cons.1 hs with rfl | hs
        · exact .inr ⟨List.mem_cons_self, hhere, hup⟩
        · exact .inl hs
      · exact .inr ⟨List.mem_cons_of_mem _ hs.1, hs.2⟩

lemma settle_of_goes_down (h : ∀ s ∈ rest, s ≠ here ∧ s ≠ up) :
    settle kept rest = kept.reverse ++ rest := by
  induction rest generalizing kept with
  | nil => rw [settle_nil, List.append_nil]
  | cons s rest ih =>
    obtain ⟨⟨hhere, hup⟩, hrest⟩ := List.forall_mem_cons.1 h
    rw [settle_down hhere hup, ih hrest, List.reverse_cons, List.append_assoc,
      List.singleton_append]

end Settle

/-! ### The segments of clean paths -/

lemma not_mem_of_mem_segments {path : Path} {s : Segment} (h : s ∈ path.segments) : '/' ∉ s :=
  not_mem_of_mem_pieces h

lemma segments_append (a b : List Char) :
    segments ⟨a ++ '/' :: b⟩ = segments ⟨a⟩ ++ segments ⟨b⟩ :=
  pieces_append a b

lemma segments_clean (path : Path) :
    (path.clean.segments = settle [] path.segments ∧ settle [] path.segments ≠ []) ∨
      (path.clean.segments = [[]] ∧ settle [] path.segments = []) := by
  by_cases h : settle [] path.segments = []
  · refine .inr ⟨?_, h⟩
    rw [clean, h]
    exact pieces_of_not_mem (by simp [ofSegments, join])
  · refine .inl ⟨pieces_join h fun s hs => ?_, h⟩
    rcases mem_settle hs with hs | hs
    · cases hs
    · exact not_mem_of_mem_segments hs.1

/-- **No segment of a clean path stays or goes up.** -/
theorem goes_down_of_mem_clean {path : Path} {s : Segment} (h : s ∈ path.clean.segments) :
    s ≠ here ∧ s ≠ up := by
  rcases segments_clean path with ⟨hclean, -⟩ | ⟨hclean, -⟩
  · rw [hclean] at h
    rcases mem_settle h with hs | hs
    · cases hs
    · exact hs.2
  · rw [hclean, List.mem_singleton] at h
    subst h
    decide

lemma ofSegments_segments (path : Path) : ofSegments path.segments = path :=
  congrArg Path.mk (join_pieces (by simp) path.text)

lemma clean_of_goes_down {path : Path} (h : ∀ s ∈ path.segments, s ≠ here ∧ s ≠ up) :
    path.clean = path := by
  rw [clean, settle_of_goes_down h]
  exact ofSegments_segments path

/-- **Cleaning comes to a normal form.** A clean path is cleaned no further, none of its segments
stays or goes up, and cleaning leaves just those paths as they are that have no such segment. -/
theorem clean_normal_form (path : Path) :
    path.clean.clean = path.clean ∧
      (∀ s ∈ path.clean.segments, s ≠ here ∧ s ≠ up) ∧
      (path.clean = path ↔ ∀ s ∈ path.segments, s ≠ here ∧ s ≠ up) := by
  refine ⟨clean_of_goes_down fun s hs => goes_down_of_mem_clean hs,
    fun s hs => goes_down_of_mem_clean hs, fun hclean s hs => ?_, clean_of_goes_down⟩
  rw [← hclean] at hs
  exact goes_down_of_mem_clean hs

/-! ### Where a path leads -/

def names (path : Path) : List Segment :=
  path.segments.filter (· ≠ [])

/-- The names on the way from the root after one more segment. At the root there is no way up. -/
def follow (way : List Segment) (s : Segment) : List Segment :=
  if s = [] ∨ s = here then way
  else if s = up then way.dropLast
  else way ++ [s]

/-- The names on the way from the root to where a path leads. -/
def location (path : Path) : List Segment :=
  path.segments.foldl follow []

/-- Each segment that goes up has a name in front of it that is still there. -/
def UpsFindNames (kept segments : List Segment) : Prop :=
  ∀ before, before ++ [up] <+: segments → ∃ name ∈ (settle kept before).getLast?, name ≠ []

section Ups

variable {kept rest : List Segment}

lemma UpsFindNames.here (h : UpsFindNames kept (here :: rest)) : UpsFindNames kept rest := by
  intro before hbefore
  have := h (Path.here :: before) (by simpa using hbefore)
  rwa [settle_here] at this

lemma UpsFindNames.up (h : UpsFindNames kept (up :: rest)) :
    (∃ name kept', kept = name :: kept' ∧ name ≠ []) ∧ UpsFindNames kept.tail rest := by
  constructor
  · obtain ⟨name, hname, hne⟩ := h [] (by simp)
    rw [settle_nil, List.getLast?_reverse] at hname
    obtain ⟨kept', rfl⟩ := List.head?_eq_some_iff.1 hname
    exact ⟨name, kept', rfl, hne⟩
  · intro before hbefore
    have := h (Path.up :: before) (by simpa using hbefore)
    rwa [settle_up] at this

lemma UpsFindNames.down {s : Segment} (hhere : s ≠ Path.here) (hup : s ≠ Path.up)
    (h : UpsFindNames kept (s :: rest)) : UpsFindNames (s :: kept) rest := by
  intro before hbefore
  have := h (s :: before) (by simpa using hbefore)
  rwa [settle_down hhere hup] at this

lemma filter_settle (h : UpsFindNames kept rest) :
    (settle kept rest).filter (· ≠ []) = rest.foldl follow (kept.reverse.filter (· ≠ [])) := by
  induction rest generalizing kept with
  | nil => rfl
  | cons s rest ih =>
    rw [List.foldl_cons]
    rcases segment_cases s with rfl | rfl | ⟨hhere, hup⟩
    · rw [settle_here, ih h.here]
      simp [follow]
    · obtain ⟨⟨name, kept', rfl, hname⟩, hrest⟩ := h.up
      have hback : follow (((name :: kept').reverse).filter (· ≠ [])) up =
          kept'.reverse.filter (· ≠ []) := by
        simp [follow, hname, up, here, List.filter_append]
      rw [settle_up, ih hrest, hback, List.tail_cons]
    · rw [settle_down hhere hup, ih (h.down hhere hup), List.reverse_cons, List.filter_append]
      by_cases hs : s = []
      · simp [follow, hs]
      · simp [follow, hs, hhere, hup]

lemma head_settle (h : UpsFindNames kept rest) (hroot : kept.getLast? = some []) :
    (settle kept rest).head? = some [] := by
  induction rest generalizing kept with
  | nil => rwa [settle_nil, List.head?_reverse]
  | cons s rest ih =>
    rcases segment_cases s with rfl | rfl | ⟨hhere, hup⟩
    · rw [settle_here]
      exact ih h.here hroot
    · obtain ⟨⟨name, kept', rfl, hname⟩, hrest⟩ := h.up
      rw [settle_up]
      refine ih hrest ?_
      rw [List.getLast?_cons] at hroot
      cases hlast : kept'.getLast? with
      | none => simp [hlast, hname] at hroot
      | some root => simpa [hlast] using hroot
    · rw [settle_down hhere hup]
      refine ih (h.down hhere hup) ?_
      rw [List.getLast?_cons, hroot]
      rfl

end Ups

lemma segments_of_isAbsolute {path : Path} (h : path.isAbsolute = true) :
    ∃ rest, path.segments = [] :: rest := by
  obtain ⟨rest, hrest⟩ := List.head?_eq_some_iff.1 (beq_iff_eq.1 h)
  refine ⟨pieces ['/'] rest, ?_⟩
  rw [segments, hrest]
  exact pieces_first List.not_mem_nil rest

/-- **Cleaning keeps where an absolute path leads**, if each segment that goes up finds a name. The
clean path is absolute, or there is nothing left of it but the root, which then is no longer
written. -/
theorem clean_keeps_location {path : Path} (habsolute : path.isAbsolute = true)
    (hups : UpsFindNames [] path.segments) :
    path.clean.names = path.location ∧
      (path.clean.isAbsolute = true ∨ (path.location = [] ∧ path.clean.text = [])) := by
  obtain ⟨rest, hrest⟩ := segments_of_isAbsolute habsolute
  have hdown : settle [] path.segments = settle [[]] rest := by
    rw [hrest, settle_down (by decide) (by decide)]
  have hroot : (settle [] path.segments).head? = some [] := by
    rw [hdown]
    rw [hrest] at hups
    exact head_settle (hups.down (by decide) (by decide)) rfl
  have hnames : path.clean.names = path.location := by
    rcases segments_clean path with ⟨hclean, -⟩ | ⟨-, hnil⟩
    · rw [names, hclean, filter_settle hups]
      rfl
    · rw [hnil] at hroot
      cases hroot
  obtain ⟨left, hleft⟩ := List.head?_eq_some_iff.1 hroot
  refine ⟨hnames, ?_⟩
  by_cases hnone : left = []
  · subst hnone
    have htext : path.clean.text = [] := by rw [clean, hleft]; rfl
    refine .inr ⟨?_, htext⟩
    rw [← hnames, names, segments, htext, pieces_of_not_mem List.not_mem_nil]
    rfl
  · refine .inl ?_
    rw [isAbsolute, clean, hleft, ofSegments, join_cons hnone]
    rfl

/-- A path that goes down, up and down again, with a slash too many. -/
def roundabout : Path :=
  .ofString "/srv/app/./public/../public//img/a.png"

/-- Each segment of the roundabout that goes up finds a name. -/
theorem clean_keeps_location_roundabout :
    roundabout.clean.names = ["srv", "app", "public", "img", "a.png"].map String.toList ∧
      roundabout.clean.isAbsolute = true := by
  have hall : ∀ before ∈ roundabout.segments.inits, before ++ [up] <+: roundabout.segments →
      ∃ name ∈ (settle [] before).getLast?, name ≠ [] := by decide +kernel
  have hups : UpsFindNames [] roundabout.segments := fun before hbefore =>
    hall before ((List.mem_inits _ _).2 ((List.prefix_append _ _).trans hbefore)) hbefore
  obtain ⟨hnames, habsolute⟩ := clean_keeps_location (by decide +kernel) hups
  refine ⟨hnames.trans (by decide +kernel), habsolute.resolve_right ?_⟩
  decide +kernel

/-- At the root, going up takes the root itself away, so that the path is no longer absolute. Behind
two slashes it takes the empty segment between them and leaves the name. -/
theorem clean_loses_location :
    (isAbsolute (.ofString "/../a") = true ∧ clean (.ofString "/../a") = .ofString "a" ∧
      isAbsolute (.ofString "a") = false) ∧
    (isAbsolute (.ofString "/a//../b") = true ∧ clean (.ofString "/a//../b") = .ofString "/a/b" ∧
      names (.ofString "/a/b") = [['a'], ['b']] ∧ location (.ofString "/a//../b") = [['b']]) := by
  decide +kernel

end Path

end Pressroom

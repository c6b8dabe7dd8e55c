import Pressroom.Proofs.Render.Counter

/-!
Content, entry by entry. An entry is an array, a node that names a section, or neither. The nodes
that do have an order, from the front to the back and through the arrays as they come (`leaves`). An
array can be taken out of its brackets, and an entry that is neither can be left out: both leave
these nodes and their order as they are (`leavesAll_reshapes`).
-/

namespace Pressroom.Render

open Markup

variable (sections : Sections)

/-- A node whose type is the name of a section. -/
def Renderable (content : Value) : Prop :=
  content.isObject = true ∧
    ∃ type, content.field? "type" = some (.str type) ∧ sections.contains type = true

/-- The call that renders a node, if its type is the name of a section. -/
def nodeCall? : Value → Option Call
  | .obj fields =>
    ((((Value.obj fields).field? "type").bind Value.str?).bind sections.get?).map fun markup =>
      .render markup (.node (.obj fields))
  | _ => none

/-- The call that an entry of a content array comes to. -/
def entryCall? : Value → Option Call
  | .arr items => some (.process (.arr items))
  | content => nodeCall? sections content

mutual

/-- The calls that render the nodes in content, in the order in which these stand there. -/
def leaves : Value → List Call
  | .arr entries => leavesAll entries
  | content => (nodeCall? sections content).toList

/-- The calls that render the nodes in the entries of an array. -/
def leavesAll : List Value → List Call
  | [] => []
  | entry :: entries => leaves entry ++ leavesAll entries

end

/-- Somewhere inside an array with these entries. -/
inductive Inside (content : Value) : List Value → Prop where
  | here {entries : List Value} (h : content ∈ entries) : Inside content entries
  | deeper {items entries : List Value} (h : .arr items ∈ entries)
      (hinside : Inside content items) : Inside content entries

/-- There is a node to render in every array inside the array, however deep. -/
def Filled (entries : List Value) : Prop :=
  ∀ items, Inside (.arr items) entries → ∃ node, Inside node items ∧ Renderable sections node

/-- An array is taken out of its brackets, or an entry is left out that is neither an array nor a
node to render: among the entries, or in an array inside. -/
inductive Reshapes : List Value → List Value → Prop where
  | splice (before items after : List Value) :
    Reshapes (before ++ .arr items :: after) (before ++ (items ++ after))
  | drop (before : List Value) {content : Value} (after : List Value)
    (harray : ∀ items, content ≠ .arr items) (hnode : ¬ Renderable sections content) :
    Reshapes (before ++ content :: after) (before ++ after)
  | inside (before : List Value) {items items' : List Value} (after : List Value)
    (h : Reshapes items items') :
    Reshapes (before ++ .arr items :: after) (before ++ .arr items' :: after)

variable {sections}

/-! ### Entries -/

lemma nodeCall?_isSome_iff {content : Value} :
    (nodeCall? sections content).isSome = true ↔ Renderable sections content := by
  cases content with
  | obj fields =>
    rw [nodeCall?, Option.isSome_map, Renderable]
    cases (Value.obj fields).field? "type" with
    | none => simp
    | some type => cases type <;> simp [Value.str?, Value.isObject, Sections.contains]
  | _ => simp [nodeCall?, Renderable, Value.isObject]

lemma entryCall?_eq_none_iff {content : Value} :
    entryCall? sections content = none ↔
      (∀ items, content ≠ .arr items) ∧ ¬ Renderable sections content := by
  rw [← nodeCall?_isSome_iff]
  cases content <;> simp [entryCall?]

/-! ### Nodes in their order -/

lemma leavesAll_eq (entries : List Value) :
    leavesAll sections entries = entries.flatMap (leaves sections) := by
  induction entries with
  | nil => rw [leavesAll]; rfl
  | cons entry entries ih => rw [leavesAll, ih, List.flatMap_cons]

lemma leaves_of_none {content : Value} (h : entryCall? sections content = none) :
    leaves sections content = [] := by
  cases content with
  | arr items => cases h
  | _ =>
    simp only [entryCall?] at h
    simp only [leaves, h, Option.toList_none]

lemma leaves_of_renderable {content : Value} (h : Renderable sections content) :
    leaves sections content ≠ [] := by
  obtain ⟨call, hcall⟩ := Option.isSome_iff_exists.1 (nodeCall?_isSome_iff.2 h)
  cases content with
  | arr items => cases hcall
  | _ => simp [leaves, hcall]

lemma leavesAll_ne_nil_iff {entries : List Value} :
    leavesAll sections entries ≠ [] ↔ ∃ entry ∈ entries, leaves sections entry ≠ [] := by
  rw [leavesAll_eq, ne_eq, List.flatMap_eq_nil_iff]
  push Not
  rfl

lemma entriesSize_lt {items entries : List Value} (h : .arr items ∈ entries) :
    entriesSize items < entriesSize entries := by
  have hlt : contentSize (.arr items) < contentSize (.arr entries) := contentSize_lt h
  rw [contentSize, contentSize] at hlt
  exact Nat.lt_of_succ_lt_succ hlt

lemma leavesAll_of_inside {content : Value} {entries : List Value} (h : Inside content entries)
    (hcontent : Renderable sections content) : leavesAll sections entries ≠ [] := by
  induction h with
  | here h => exact leavesAll_ne_nil_iff.2 ⟨content, h, leaves_of_renderable hcontent⟩
  | deeper h _ ih => exact leavesAll_ne_nil_iff.2 ⟨_, h, by rw [leaves]; exact ih⟩

lemma exists_inside {entries : List Value} (h : leavesAll sections entries ≠ []) :
    ∃ node, Inside node entries ∧ Renderable sections node := by
  -- by how many entries there are, those of arrays included
  obtain ⟨entry, hmem, hentry⟩ := leavesAll_ne_nil_iff.1 h
  cases hkind : entryCall? sections entry with
  | none => exact absurd (leaves_of_none hkind) hentry
  | some call =>
    cases entry with
    | arr items =>
      rw [leaves] at hentry
      have hless : entriesSize items < entriesSize entries := entriesSize_lt hmem
      obtain ⟨node, hinside, hnode⟩ := exists_inside hentry
      exact ⟨node, .deeper hmem hinside, hnode⟩
    | _ => exact ⟨_, .here hmem, nodeCall?_isSome_iff.1 (Option.isSome_of_mem hkind)⟩
termination_by entriesSize entries

lemma filled_iff {entries : List Value} :
    Filled sections entries ↔ ∀ items, .arr items ∈ entries →
      leavesAll sections items ≠ [] ∧ Filled sections items := by
  constructor
  · intro h items hmem
    obtain ⟨node, hinside, hnode⟩ := h items (.here hmem)
    exact ⟨leavesAll_of_inside hinside hnode, fun items' h' => h items' (.deeper hmem h')⟩
  · intro h items hinside
    cases hinside with
    | here hmem => exact exists_inside (h items hmem).1
    | deeper hmem hinside => exact (h _ hmem).2 items hinside

/-! ### Other shapes -/

variable {entries entries' : List Value}

/-- Taking out of brackets and leaving out keep the nodes, and their order. -/
lemma leavesAll_reshapes (h : Reshapes sections entries entries') :
    leavesAll sections entries' = leavesAll sections entries := by
  induction h with
  | splice before items after =>
    simp only [leavesAll_eq, List.flatMap_append, List.flatMap_cons, leaves]
  | drop before after harray hnode =>
    simp only [leavesAll_eq, List.flatMap_append, List.flatMap_cons,
      leaves_of_none (entryCall?_eq_none_iff.2 ⟨harray, hnode⟩), List.nil_append]
  | inside before after h ih =>
    simp only [leavesAll_eq, List.flatMap_append, List.flatMap_cons, leaves] at ih ⊢
    rw [ih]

lemma filled_reshapes (h : Reshapes sections entries entries') (hfilled : Filled sections entries) :
    Filled sections entries' := by
  induction h with
  | splice before items after =>
    rw [filled_iff] at hfilled ⊢
    intro items' hmem
    have hitems : Filled sections items := (hfilled items (by simp)).2
    rw [List.mem_append, List.mem_append] at hmem
    rcases hmem with hmem | hmem | hmem
    · exact hfilled items' (List.mem_append_left _ hmem)
    · exact filled_iff.1 hitems items' hmem
    · exact hfilled items' (List.mem_append_right _ (List.mem_cons_of_mem _ hmem))
  | drop before after =>
    rw [filled_iff] at hfilled ⊢
    intro items' hmem
    rcases List.mem_append.1 hmem with hmem | hmem
    · exact hfilled items' (List.mem_append_left _ hmem)
    · exact hfilled items' (List.mem_append_right _ (List.mem_cons_of_mem _ hmem))
  | @inside before items items' after h ih =>
    rw [filled_iff] at hfilled ⊢
    intro x hmem
    obtain ⟨hne, hitems⟩ := hfilled items (by simp)
    rw [List.mem_append, List.mem_cons] at hmem
    rcases hmem with hmem | ⟨⟨⟩⟩ | hmem
    · exact hfilled x (List.mem_append_left _ hmem)
    · exact ⟨by rwa [leavesAll_reshapes h], ih hitems⟩
    · exact hfilled x (List.mem_append_right _ (List.mem_cons_of_mem _ hmem))

end Pressroom.Render

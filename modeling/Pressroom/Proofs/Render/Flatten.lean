import Mathlib.Logic.Relation
import Pressroom.Proofs.Render.Content
import Pressroom.Proofs.Render.Session

/-!
Content trees on the page, one line for each entry. An array among the entries is one of them,
whatever is inside. If there is a node to render in every array, this does not show: the nodes come
one per line, in the order in which they stand in the tree. So it makes no difference which of them
stand in brackets, nor what else stands between them.
-/

namespace Pressroom.Render

open Markup Walk

variable {σ : Type} (sections : Sections) (oracle : Oracle σ)

/-- A call comes to the texts of other calls, one per line, and leaves the oracle and the counter as
they do. -/
def Lines (call : Call) (calls : List Call) : Prop :=
  ∀ s depth, ∃ output outputs s', run sections oracle call (s, depth) = some (output, s', depth) ∧
    session sections oracle calls (s, depth) = some (outputs, s', depth) ∧
    output.text = Text.join ['\n'] (outputs.map (·.text))

/-- Two calls come to one text, and leave the oracle and the counter in the same way. -/
def SameText (call call' : Call) : Prop :=
  ∀ s depth, ∃ output output' s', run sections oracle call (s, depth) = some (output, s', depth) ∧
    run sections oracle call' (s, depth) = some (output', s', depth) ∧ output.text = output'.text

variable {sections oracle}

lemma Lines.sameText {call call' : Call} {calls : List Call} (h : Lines sections oracle call calls)
    (h' : Lines sections oracle call' calls) : SameText sections oracle call call' := by
  intro s depth
  obtain ⟨output, outputs, s₁, hrun, hsession, htext⟩ := h s depth
  obtain ⟨output', outputs', s₂, hrun', hsession', htext'⟩ := h' s depth
  rw [hsession] at hsession'
  cases hsession'
  exact ⟨output, output', s₁, hrun, hrun', htext.trans htext'.symm⟩

lemma lines_self (call : Call) : Lines sections oracle call [call] := by
  intro s depth
  obtain ⟨output, s', -, hrun, -⟩ := exists_steps sections oracle call s depth
  exact ⟨output, [output], s', hrun, session_cons_eq hrun rfl, (Text.join_singleton _ _).symm⟩

/-! ### Entries -/

section Entries

variable (self : Call → Walk σ Output) {content : Value}

lemma entry_of_call {call : Call} (h : entryCall? sections content = some call) :
    Walk.entry sections self content = (do return .ofOutput (← self call)) := by
  cases content with
  | arr items => cases h; rfl
  | obj fields =>
    simp only [entryCall?, nodeCall?, Walk.entry] at h ⊢
    cases htype : (((Value.obj fields).field? "type").bind Value.str?).bind sections.get? with
    | none => rw [htype] at h; cases h
    | some markup => rw [htype] at h; cases h; rfl
  | _ => cases h

lemma entry_of_none (h : entryCall? sections content = none) :
    ∃ problem, Walk.entry sections self content = return .skipped problem := by
  cases content with
  | arr items => cases h
  | obj fields =>
    simp only [entryCall?, nodeCall?, Walk.entry, Option.map_eq_none_iff] at h ⊢
    rw [h]
    exact ⟨_, rfl⟩
  | _ => exact ⟨_, rfl⟩

end Entries

lemma entries_texts (entries : List Value) (s : σ) (depth : Nat) :
    ∃ es outputs s', entries.mapM (Walk.entry sections (run sections oracle)) (s, depth) =
        some (es, s', depth) ∧
      session sections oracle (entries.filterMap (entryCall? sections)) (s, depth) =
        some (outputs, s', depth) ∧
      es.filterMap (·.text?) = outputs.map (·.text) := by
  induction entries generalizing s with
  | nil => exact ⟨[], [], s, rfl, rfl, rfl⟩
  | cons entry entries ih =>
    rw [List.mapM_cons]
    cases hcall : entryCall? sections entry with
    | none =>
      obtain ⟨problem, hentry⟩ := entry_of_none (run sections oracle) hcall
      obtain ⟨es, outputs, s', hentries, hsession, htexts⟩ := ih s
      refine ⟨.skipped problem :: es, outputs, s', ?_, ?_, htexts⟩
      · rw [hentry, pure_bind, Walk.bind_eq hentries]
        rfl
      · rw [List.filterMap_cons_none hcall]
        exact hsession
    | some call =>
      obtain ⟨output, s₁, -, hrun, -⟩ := exists_steps sections oracle call s depth
      obtain ⟨es, outputs, s₂, hentries, hsession, htexts⟩ := ih s₁
      refine ⟨.ofOutput output :: es, output :: outputs, s₂, ?_, ?_, ?_⟩
      · rw [entry_of_call _ hcall, bind_assoc, Walk.bind_eq hrun, pure_bind, Walk.bind_eq hentries]
        rfl
      · rw [List.filterMap_cons_some hcall]
        exact session_cons_eq hrun hsession
      · exact congrArg (output.text :: ·) htexts

lemma lines_entries (entries : List Value) :
    Lines sections oracle (.process (.arr entries)) (entries.filterMap (entryCall? sections)) := by
  intro s depth
  obtain ⟨es, outputs, s', hentries, hsession, htexts⟩ := entries_texts entries s depth
  refine ⟨joinEntries es, outputs, s', ?_, hsession, congrArg (Text.join ['\n']) htexts⟩
  rw [solves_run, perform, Walk.bind_eq hentries]
  rfl

/-! ### Nodes -/

variable (sections oracle) in
/-- There are nodes in an array, and the array comes to them. -/
def Flat (items : List Value) : Prop :=
  Lines sections oracle (.process (.arr items)) (leavesAll sections items) ∧
    leavesAll sections items ≠ []

lemma lines_leaves {entry : Value} {call : Call} (hcall : entryCall? sections entry = some call)
    (harray : ∀ items, entry = .arr items → Flat sections oracle items) :
    Lines sections oracle call (leaves sections entry) ∧ leaves sections entry ≠ [] := by
  cases entry with
  | arr items =>
    cases hcall
    rw [leaves]
    exact harray items rfl
  | _ =>
    simp only [entryCall?] at hcall
    simp only [leaves, hcall, Option.toList_some]
    exact ⟨lines_self call, List.cons_ne_nil _ _⟩

lemma entries_rows {entries : List Value}
    (harrays : ∀ items, .arr items ∈ entries → Flat sections oracle items) (s : σ) (depth : Nat) :
    ∃ (outputs : List Output) (rows : List (List Output)) (s' : σ),
      session sections oracle (entries.filterMap (entryCall? sections)) (s, depth) =
        some (outputs, s', depth) ∧
      session sections oracle (leavesAll sections entries) (s, depth) =
        some (rows.flatten, s', depth) ∧
      outputs.map (·.text) = rows.map (fun row => Text.join ['\n'] (row.map (·.text))) ∧
      ∀ row ∈ rows, row ≠ [] := by
  induction entries generalizing s with
  | nil => exact ⟨[], [], s, rfl, by rw [leavesAll]; rfl, rfl, by simp⟩
  | cons entry entries ih =>
    have ih := ih fun items hmem => harrays items (List.mem_cons_of_mem _ hmem)
    rw [leavesAll]
    cases hcall : entryCall? sections entry with
    | none =>
      rw [List.filterMap_cons_none hcall, leaves_of_none hcall]
      exact ih s
    | some call =>
      rw [List.filterMap_cons_some hcall]
      obtain ⟨hlines, hne⟩ :=
        lines_leaves hcall fun items h => harrays items (h ▸ List.mem_cons_self)
      obtain ⟨output, row, s₁, hrun, hrow, htext⟩ := hlines s depth
      obtain ⟨row', s₁', hrow', hlength⟩ := session_ends (leaves sections entry) s depth
      rw [hrow] at hrow'
      cases hrow'
      obtain ⟨outputs, rows, s₂, hsession, hleaves, htexts, hrows⟩ := ih s₁
      refine ⟨output :: outputs, row :: rows, s₂, session_cons_eq hrun hsession,
        session_append_eq hrow hleaves, ?_, ?_⟩
      · rw [List.map_cons, List.map_cons, htext, htexts]
      · rw [List.forall_mem_cons]
        refine ⟨fun hnil => hne ?_, hrows⟩
        rwa [hnil, List.length_nil, eq_comm, List.length_eq_zero_iff] at hlength

lemma lines_leavesAll {entries : List Value} (hfilled : Filled sections entries) :
    Lines sections oracle (.process (.arr entries)) (leavesAll sections entries) := by
  -- by how many entries there are, those of arrays included
  have harrays : ∀ items, .arr items ∈ entries → Flat sections oracle items := by
    intro items hmem
    obtain ⟨hne, hitems⟩ := filled_iff.1 hfilled items hmem
    have hless : entriesSize items < entriesSize entries := entriesSize_lt hmem
    exact ⟨lines_leavesAll hitems, hne⟩
  intro s depth
  obtain ⟨output, outputs, s₁, hrun, hsession, htext⟩ := lines_entries entries s depth
  obtain ⟨outputs', rows, s₂, hsession', hleaves, htexts, hrows⟩ := entries_rows harrays s depth
  rw [hsession] at hsession'
  cases hsession'
  refine ⟨output, rows.flatten, s₁, hrun, hleaves, ?_⟩
  rw [htext, htexts, List.map_flatten, ← Text.join_map_join, List.map_map]
  · rfl
  · intro texts hmem
    obtain ⟨row, hrow, rfl⟩ := List.mem_map.1 hmem
    rw [ne_eq, List.map_eq_nil_iff]
    exact hrows row hrow
termination_by entriesSize entries

lemma sameText_of_reshapes {entries entries' : List Value} (hfilled : Filled sections entries)
    (h : Relation.ReflTransGen (Reshapes sections) entries entries') :
    SameText sections oracle (.process (.arr entries)) (.process (.arr entries')) := by
  have hkept : Filled sections entries' ∧
      leavesAll sections entries' = leavesAll sections entries := by
    induction h with
    | refl => exact ⟨hfilled, rfl⟩
    | tail _ hlast ih => exact ⟨filled_reshapes hlast ih.1, (leavesAll_reshapes hlast).trans ih.2⟩
  have hlines : Lines sections oracle (.process (.arr entries')) (leavesAll sections entries) :=
    hkept.2 ▸ lines_leavesAll hkept.1
  exact (lines_leavesAll hfilled).sameText hlines

/-! ### On a press -/

/-- The texts of calls on a press, one per line. -/
def pressLines (press : Press) (calls : List Call) : List Char :=
  Text.join ['\n'] (calls.map fun call =>
    (answer press.sections inclusionLimit call press.evaluator).text)

lemma Lines.process_text {evaluator : Evaluator} {content : Value} {calls : List Call}
    (h : Lines sections (.ofEvaluator evaluator) (.process content) calls) :
    (Press.process ⟨sections, evaluator⟩ content).text =
      pressLines ⟨sections, evaluator⟩ calls := by
  obtain ⟨output, outputs, s', hrun, hsession, htext⟩ := h () 0
  obtain ⟨s'', hrun'⟩ := run_of_like sections (like_ofEvaluator evaluator) (.process content) () 0
  rw [hrun] at hrun'
  rw [session_ofEvaluator] at hsession
  cases hrun'
  cases hsession
  rw [List.map_map] at htext
  exact htext

lemma SameText.process_text {evaluator : Evaluator} {content content' : Value}
    (h : SameText sections (.ofEvaluator evaluator) (.process content) (.process content')) :
    (Press.process ⟨sections, evaluator⟩ content).text =
      (Press.process ⟨sections, evaluator⟩ content').text := by
  obtain ⟨output, output', s', hrun, hrun', htext⟩ := h () 0
  obtain ⟨s₁, heq⟩ := run_of_like sections (like_ofEvaluator evaluator) (.process content) () 0
  obtain ⟨s₂, heq'⟩ := run_of_like sections (like_ofEvaluator evaluator) (.process content') () 0
  rw [hrun] at heq
  rw [hrun'] at heq'
  cases heq
  cases heq'
  exact htext

/-- **Content trees flatten.** What an array comes to is its entries, one per line: the nodes that
name a section, and the arrays, each of which is one line even if nothing is in it. If there is such
a node in every array inside, it is the nodes alone, in their order, one per line; then arrays can
be taken out of their brackets, and entries of the other kinds can be left out, without a
difference. -/
theorem process_flattens {σ : Type} (sections : Sections) (oracle : Oracle σ)
    (entries : List Value) :
    (Lines sections oracle (.process (.arr entries)) (entries.filterMap (entryCall? sections)) ∧
      (Filled sections entries →
        Lines sections oracle (.process (.arr entries)) (leavesAll sections entries) ∧
        ∀ entries', Relation.ReflTransGen (Reshapes sections) entries entries' →
          SameText sections oracle (.process (.arr entries)) (.process (.arr entries')))) ∧
    ∀ evaluator, let press : Press := ⟨sections, evaluator⟩
      (press.process (.arr entries)).text =
        pressLines press (entries.filterMap (entryCall? sections)) ∧
      (Filled sections entries →
        (press.process (.arr entries)).text = pressLines press (leavesAll sections entries) ∧
        ∀ entries', Relation.ReflTransGen (Reshapes sections) entries entries' →
          (press.process (.arr entries)).text = (press.process (.arr entries')).text) := by
  refine ⟨⟨lines_entries entries, fun hfilled => ?_⟩, fun evaluator => ⟨?_, fun hfilled => ?_⟩⟩
  · exact ⟨lines_leavesAll hfilled, fun entries' h => sameText_of_reshapes hfilled h⟩
  · exact (lines_entries entries).process_text
  · exact ⟨(lines_leavesAll hfilled).process_text,
      fun entries' h => (sameText_of_reshapes hfilled h).process_text⟩

/-- One section, for paragraphs. -/
def paragraphs : Sections := ⟨[("p", "<p>\x7b\x7bt\x7d\x7d</p>".toList)]⟩

def paragraph (text : String) : Value := .obj [("type", .str "p"), ("t", .str text)]

lemma renderable_paragraph (text : String) : Renderable paragraphs (paragraph text) :=
  ⟨rfl, "p", rfl, rfl⟩

/-- Three paragraphs, the last two of them in brackets together with what is none. -/
theorem process_flattens_paragraphs :
    Filled paragraphs [paragraph "1", .arr [.null, .arr [paragraph "2"], paragraph "3"]] ∧
    Relation.ReflTransGen (Reshapes paragraphs)
      [paragraph "1", .arr [.null, .arr [paragraph "2"], paragraph "3"]]
      [paragraph "1", paragraph "2", paragraph "3"] ∧
    (Press.process ⟨paragraphs, .standard⟩
        (.arr [paragraph "1", .arr [.null, .arr [paragraph "2"], paragraph "3"]])).text =
      "<p>1</p>\n<p>2</p>\n<p>3</p>".toList := by
  have hfilled : Filled paragraphs
      [paragraph "1", .arr [.null, .arr [paragraph "2"], paragraph "3"]] := by
    rw [filled_iff]
    intro items hitems
    obtain rfl : items = [.null, .arr [paragraph "2"], paragraph "3"] := by
      simpa [paragraph] using hitems
    refine ⟨leavesAll_of_inside (.here (by simp)) (renderable_paragraph "3"), ?_⟩
    rw [filled_iff]
    intro items hitems
    obtain rfl : items = [paragraph "2"] := by simpa [paragraph] using hitems
    refine ⟨leavesAll_of_inside (.here (by simp)) (renderable_paragraph "2"), ?_⟩
    rw [filled_iff]
    simp [paragraph]
  have hreshapes : Relation.ReflTransGen (Reshapes paragraphs)
      [paragraph "1", .arr [.null, .arr [paragraph "2"], paragraph "3"]]
      [paragraph "1", paragraph "2", paragraph "3"] := by
    have hsplice : Reshapes paragraphs
        [paragraph "1", .arr [.null, .arr [paragraph "2"], paragraph "3"]]
        [paragraph "1", .null, .arr [paragraph "2"], paragraph "3"] :=
      .splice [paragraph "1"] [.null, .arr [paragraph "2"], paragraph "3"] []
    have hdrop : Reshapes paragraphs
        [paragraph "1", .null, .arr [paragraph "2"], paragraph "3"]
        [paragraph "1", .arr [paragraph "2"], paragraph "3"] :=
      .drop [paragraph "1"] [.arr [paragraph "2"], paragraph "3"] (by simp)
        (by simp [Renderable, Value.isObject])
    have hsplice' : Reshapes paragraphs
        [paragraph "1", .arr [paragraph "2"], paragraph "3"]
        [paragraph "1", paragraph "2", paragraph "3"] :=
      .splice [paragraph "1"] [paragraph "2"] [paragraph "3"]
    exact .tail (.tail (.single hsplice) hdrop) hsplice'
  refine ⟨hfilled, hreshapes, ?_⟩
  obtain ⟨-, hreshaped⟩ :=
    ((process_flattens paragraphs (.ofEvaluator .standard) _).2 .standard).2 hfilled
  rw [hreshaped _ hreshapes]
  decide +kernel

end Pressroom.Render

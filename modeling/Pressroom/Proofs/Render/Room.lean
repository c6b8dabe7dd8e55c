import Pressroom.Proofs.Render.Ending

/-!
Pages with more room for inclusions. Where no inclusion is reported as too deep, more room makes no
difference: that is shown for the tree of a markup, whatever content comes to, then for content,
whatever markup comes to, and for both together by induction on the room. Main statement: a page
that leaves no inclusion out is the same with more room (`answer_of_le`).
-/

namespace Pressroom.Render

open Markup (Node Sections)

/-- No inclusion has been left out. -/
def Clean (events : List Event) : Prop :=
  ∀ source, .reported (.inclusionTooDeep source) ∉ events

lemma clean_append {events events' : List Event} :
    Clean (events ++ events') ↔ Clean events ∧ Clean events' := by
  simp only [Clean, List.mem_append, not_or, forall_and]

lemma Clean.tail {event : Event} {events : List Event} (h : Clean (event :: events)) :
    Clean events :=
  fun source hmem => h source (List.mem_cons_of_mem _ hmem)

lemma clean_flatMap {α : Type} {as : List α} {f : α → List Event} :
    Clean (as.flatMap f) ↔ ∀ a ∈ as, Clean (f a) := by
  simp only [Clean, List.mem_flatMap, not_exists, not_and]
  exact ⟨fun h a ha source => h source a ha, fun h source a ha => h a ha source⟩

/-! ### Markup -/

section Markup

variable {evaluator : Evaluator} {process? process?' : Option (Value → Output)}

/-- The second way to process content does what the first does, where that leaves nothing out. -/
def Wider (process? process?' : Option (Value → Output)) : Prop :=
  ∀ process ∈ process?, ∃ process' ∈ process?', ∀ content, Clean (process content).events →
    process' content = process content

lemma inclusion_wider (h : Wider process? process?') {source : List Char} {scope : Scope}
    (hclean : Clean (inclusion evaluator process? source scope).events) :
    inclusion evaluator process?' source scope = inclusion evaluator process? source scope := by
  cases process? with
  | none => exact absurd (List.mem_singleton_self _) (hclean source)
  | some process =>
    obtain ⟨process', rfl, hprocess⟩ := h process rfl
    simp only [inclusion] at hclean ⊢
    cases houtcome : evaluator.evaluate source scope with
    | error e => rfl
    | ok value =>
      rw [houtcome] at hclean
      dsimp only
      rw [hprocess (asTree value) hclean.tail]

lemma rounds_wider {round round' : Value → Nat → Output}
    (h : ∀ item position, Clean (round item position).events →
      round' item position = round item position)
    (position : Nat) (items : List Value) (hclean : Clean (rounds round position items).events) :
    rounds round' position items = rounds round position items := by
  induction items generalizing position with
  | nil => rfl
  | cons item items ih =>
    obtain ⟨hitem, hitems⟩ := clean_append.1 hclean
    rw [rounds, rounds, h item position hitem, ih (position + 1) hitems]

mutual

lemma nodes_wider (h : Wider process? process?') : (ns : List Node) → (scope : Scope) →
    Clean (nodes evaluator process? ns scope).events →
      nodes evaluator process?' ns scope = nodes evaluator process? ns scope
  | [], scope => fun _ => by rw [nodes, nodes]
  | n :: ns, scope => fun hclean => by
    rw [nodes] at hclean
    obtain ⟨hn, hns⟩ := clean_append.1 hclean
    rw [nodes, nodes, node_wider h n scope hn, nodes_wider h ns scope hns]

lemma node_wider (h : Wider process? process?') : (n : Node) → (scope : Scope) →
    Clean (node evaluator process? n scope).events →
      node evaluator process?' n scope = node evaluator process? n scope
  | .text t, scope => fun _ => by rw [node, node]
  | .expression source, scope => fun _ => by rw [node, node]
  | .style selector spread, scope => fun _ => by rw [node, node]
  | .inclusion source, scope => fun hclean => by
    rw [node] at hclean
    rw [node, node, inclusion_wider h hclean]
  | .loop element index source body, scope => fun hclean => by
    rw [node] at hclean
    rw [node, node]
    cases houtcome : evaluator.evaluate source scope with
    | error e => rfl
    | ok value =>
      rw [houtcome] at hclean
      cases value with
      | arr items =>
        dsimp only
        rw [rounds_wider (fun item position => nodes_wider h body _) 0 items hclean.tail]
      | _ => rfl
  | .conditional branches none, scope => fun hclean => by
    rw [node] at hclean
    rw [node, node]
    exact branch_wider h branches _ _ scope (fun _ => rfl) hclean
  | .conditional branches (some body), scope => fun hclean => by
    rw [node] at hclean
    rw [node, node]
    exact branch_wider h branches _ _ scope (nodes_wider h body scope) hclean

lemma branch_wider (h : Wider process? process?') : (branches : List (List Char × List Node)) →
    (otherwise otherwise' : Unit → Output) → (scope : Scope) →
    (Clean (otherwise ()).events → otherwise' () = otherwise ()) →
    Clean (branch evaluator process? otherwise branches scope).events →
      branch evaluator process?' otherwise' branches scope =
        branch evaluator process? otherwise branches scope
  | [], otherwise, otherwise', scope => fun hotherwise hclean => by
    rw [branch] at hclean
    rw [branch, branch, hotherwise hclean]
  | (condition, body) :: branches, otherwise, otherwise', scope => fun hotherwise hclean => by
    rw [branch] at hclean
    rw [branch, branch]
    cases houtcome : evaluator.test condition scope with
    | error e => rfl
    | ok holds =>
      rw [houtcome] at hclean
      cases holds with
      | true =>
        dsimp only
        rw [nodes_wider h body scope hclean.tail]
      | false =>
        dsimp only
        rw [branch_wider h branches otherwise otherwise' scope hotherwise hclean.tail]

end

end Markup

/-! ### Content -/

section Content

variable {sections : Sections} {render render' : List Char → Scope → Output}

lemma process_wider (h : ∀ markup scope, Clean (render markup scope).events →
      render' markup scope = render markup scope) {content : Value}
    (hclean : Clean (process sections render content).events) :
    process sections render' content = process sections render content := by
  -- by how many entries there are, those of arrays included
  cases content with
  | arr entries =>
    rw [process] at hclean
    rw [process, process, processAll_eq, processAll_eq]
    refine congrArg joinEntries (List.map_congr_left fun entry hmem => ?_)
    rw [joinEntries, processAll_eq, List.flatMap_map] at hclean
    have hentry : Clean (pageEntry sections render entry).events :=
      clean_flatMap.1 hclean entry hmem
    cases entry with
    | arr items =>
      have hless : contentSize (.arr items) < contentSize (.arr entries) := contentSize_lt hmem
      rw [pageEntry, pageEntry, process_wider h hentry]
    | obj fields =>
      simp only [pageEntry, contentNode] at hentry ⊢
      cases hmarkup : (((Value.obj fields).field? "type").bind Value.str?).bind sections.get? with
      | none => rfl
      | some markup =>
        rw [hmarkup] at hentry
        dsimp only
        rw [h markup _ hentry]
    | _ => rfl
  | _ => rfl
termination_by contentSize content

end Content

/-! ### Both together -/

lemma renderWithin_wider (press : Press) {room room' : Nat} (hroom : room ≤ room')
    (markup : List Char) (scope : Scope)
    (hclean : Clean (press.renderWithin room markup scope).events) :
    press.renderWithin room' markup scope = press.renderWithin room markup scope := by
  -- by induction on the room
  induction room generalizing room' markup scope with
  | zero =>
    have hwider : Wider none (press.processor room') := fun _ hprocess => by cases hprocess
    rw [← nodes_eq_renderWithin]
    exact nodes_wider hwider _ _ hclean
  | succ room ih =>
    obtain ⟨room', rfl⟩ : ∃ n, room' = n + 1 := ⟨room' - 1, by omega⟩
    have hwider : Wider (some (process press.sections (press.renderWithin room)))
        (some (process press.sections (press.renderWithin room'))) := by
      rintro _ ⟨⟩
      exact ⟨_, rfl, fun content hcontent =>
        process_wider (ih (Nat.le_of_succ_le_succ hroom)) hcontent⟩
    exact nodes_wider hwider _ _ hclean

/-- A page that leaves no inclusion out is the same with more room. -/
lemma answer_of_le {sections : Sections} {evaluator : Evaluator} {room room' : Nat}
    (hroom : room ≤ room') (call : Call)
    (hclean : Clean (answer sections room call evaluator).events) :
    answer sections room' call evaluator = answer sections room call evaluator := by
  cases call with
  | render markup scope => exact renderWithin_wider ⟨sections, evaluator⟩ hroom markup scope hclean
  | process content =>
    exact process_wider (renderWithin_wider ⟨sections, evaluator⟩ hroom) hclean

end Pressroom.Render

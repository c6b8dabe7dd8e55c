import Pressroom.Proofs.Render.Stepwise

/-!
The counter and what it counts. In a machine the inclusions around a task lie on the stack, one
frame for each, among the rows of the directives, rounds and entries that it belongs to. The counter
is the number of these inclusions, and it keeps to the bound: this holds at the beginning of a call,
and every step keeps it (`counted_step`). So the counter, which the bound is compared with, could be
read off the stack.
-/

namespace Pressroom.Render

open Markup

def Frame.isInclusion : Frame → Bool
  | .inclusion _ => true
  | .row .. => false

/-- How many inclusions a stack is made of, the rows left out. -/
def inclusions (frames : List Frame) : Nat :=
  frames.countP Frame.isInclusion

@[simp] lemma inclusions_row (separator : List Char) (texts : List (List Char)) (tasks : List Task)
    (frames : List Frame) :
    inclusions (.row separator texts tasks :: frames) = inclusions frames :=
  List.countP_cons_of_neg (by simp [Frame.isInclusion])

@[simp] lemma inclusions_inclusion (depth : Nat) (frames : List Frame) :
    inclusions (.inclusion depth :: frames) = inclusions frames + 1 :=
  List.countP_cons_of_pos rfl

/-- Every inclusion on a stack puts the counter back to the number of the inclusions around it. -/
def Seated : List Frame → Prop
  | [] => True
  | .row _ _ _ :: frames => Seated frames
  | .inclusion depth :: frames => depth = inclusions frames ∧ Seated frames

namespace Machine

variable {σ : Type} {sections : Sections} {oracle : Oracle σ} {limit? : Option Nat}
  {m m' : Machine σ}

/-- How many inclusions there are around what a machine is at. -/
def enclosing (m : Machine σ) : Nat := inclusions m.frames

/-- The counter counts the inclusions, now and when the machine is back in front of them, and keeps
to the bound. -/
structure Counted (limit? : Option Nat) (m : Machine σ) : Prop where
  counter_eq : m.counter = m.enclosing
  seated : Seated m.frames
  bounded : ∀ limit ∈ limit?, m.counter ≤ limit

lemma counted_start (call : Call) (s : σ) : Counted limit? (start call s 0) :=
  ⟨rfl, trivial, fun _ _ => Nat.zero_le _⟩

lemma full_eq_false_iff : m.full limit? = false ↔ ∀ limit ∈ limit?, m.counter < limit := by
  cases limit? with
  | none => simp [full]
  | some limit => simp [full]

lemma inclusion_of_enter {full : Bool} {task : Task} {content : Value}
    (h : m.chosen oracle (act sections full task) = .enter content) :
    full = false ∧ ∃ scope source, task = .directive scope (.inclusion source) := by
  cases task with
  | call call =>
    cases call with
    | render markup scope => cases h
    | process content => cases content <;> cases h
  | entry content =>
    cases content with
    | obj fields =>
      simp only [act, chosen, entryMove] at h
      split at h <;> cases h
    | _ => cases h
  | directive scope d =>
    cases d with
    | text t => cases h
    | expression source => cases h
    | style selector spread => cases selector <;> cases h
    | inclusion source =>
      cases full with
      | false => exact ⟨rfl, scope, source, rfl⟩
      | true => cases h
    | loop element index source body =>
      simp only [act, directiveAct, chosen] at h
      cases houtcome : (oracle.evaluate source scope m.memory).1 with
      | error e => rw [houtcome] at h; cases h
      | ok value => rw [houtcome] at h; cases value <;> cases h
    | conditional branches otherwise =>
      cases branches with
      | nil => cases otherwise <;> cases h
      | cons b branches =>
        simp only [act, directiveAct, chosen] at h
        cases houtcome : (oracle.test b.condition scope m.memory).1 with
        | error e => rw [houtcome] at h; cases h
        | ok holds => rw [houtcome] at h; cases holds <;> cases h

@[simp] lemma frames_consult (act : Act) : (m.consult oracle act).frames = m.frames := by
  cases act <;> rfl

@[simp] lemma counter_consult (act : Act) : (m.consult oracle act).counter = m.counter := by
  cases act <;> rfl

lemma Counted.consult (h : Counted limit? m) (act : Act) :
    Counted limit? (m.consult oracle act) := by
  obtain ⟨hcounter, hseated, hbounded⟩ := h
  refine ⟨?_, ?_, ?_⟩
  · rw [counter_consult, enclosing, frames_consult]
    exact hcounter
  · rw [frames_consult]
    exact hseated
  · rw [counter_consult]
    exact hbounded

lemma Counted.make (h : Counted limit? m) {move : Move}
    (hroom : ∀ content, move = .enter content → m.full limit? = false) :
    Counted limit? (m.make move) := by
  obtain ⟨hcounter, hseated, hbounded⟩ := h
  cases move with
  | give entry => exact ⟨hcounter, hseated, hbounded⟩
  | turn task => exact ⟨hcounter, hseated, hbounded⟩
  | row separator tasks =>
    refine ⟨?_, hseated, hbounded⟩
    show m.counter = inclusions (.row separator [] tasks :: m.frames)
    rw [inclusions_row]
    exact hcounter
  | enter content =>
    refine ⟨?_, ⟨hcounter, hseated⟩, full_eq_false_iff.1 (hroom content rfl)⟩
    show m.counter + 1 = inclusions (.inclusion m.counter :: m.frames)
    rw [inclusions_inclusion, hcounter, enclosing]

lemma Counted.resume (h : Counted limit? m) {text? : Option (List Char)}
    (hresume : m.resume text? m.frames = some m') : Counted limit? m' := by
  obtain ⟨hcounter, hseated, hbounded⟩ := h
  rw [enclosing] at hcounter
  cases hframes : m.frames with
  | nil => rw [hframes] at hresume; cases hresume
  | cons frame frames =>
    rw [hframes] at hresume hcounter hseated
    cases frame with
    | row separator texts tasks =>
      rw [inclusions_row] at hcounter
      cases tasks with
      | nil =>
        cases hresume
        exact ⟨hcounter, hseated, hbounded⟩
      | cons task tasks =>
        cases hresume
        refine ⟨?_, hseated, hbounded⟩
        rw [enclosing, inclusions_row]
        exact hcounter
    | inclusion depth =>
      cases hresume
      rw [inclusions_inclusion] at hcounter
      obtain ⟨hdepth, hseated⟩ := hseated
      refine ⟨hdepth, hseated, fun limit hlimit => ?_⟩
      have hle : m.counter ≤ limit := hbounded limit hlimit
      show depth ≤ limit
      omega

/-- Every step keeps the counter in line with the stack, and under the bound. -/
lemma counted_step (h : Counted limit? m) (hstep : step sections oracle limit? m = some m') :
    Counted limit? m' := by
  rcases step_cases hstep with ⟨task, -, rfl⟩ | ⟨text?, -, hresume⟩
  · refine (h.consult _).make fun content hmove => ?_
    have hfull : m.full limit? = false := (inclusion_of_enter hmove).1
    rw [full, counter_consult]
    exact hfull
  · exact h.resume hresume

lemma counted_of_steps {call : Call} {s : σ} {visited : List (Machine σ)}
    (h : Steps (step sections oracle limit?) (start call s 0) visited m') :
    (∀ m ∈ visited, Counted limit? m) ∧ Counted limit? m' :=
  h.invariant (fun _ _ => counted_step) (counted_start call s)

end Machine

end Pressroom.Render

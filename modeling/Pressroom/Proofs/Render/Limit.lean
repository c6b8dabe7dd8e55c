import Pressroom.Proofs.Render.Nesting
import Pressroom.Proofs.Render.Room

/-!
The bound for inclusions. It is looked at in front of an inclusion and nowhere else, and what it is
compared with is the number of the inclusions around this one. With room left the inclusion is put
to the oracle and its content is processed; without, it is reported and nothing else happens. Main
statement: this is so at every inclusion of every call, and a call in which no inclusion is left out
goes the way that it would go without a bound.
-/

namespace Pressroom.Render

open Markup

namespace Machine

variable {σ : Type} (sections : Sections) (oracle : Oracle σ) {limit? : Option Nat}
  {m m' : Machine σ}

/-! ### Where the bound is looked at -/

/-- An inclusion is what a machine is at. -/
def AtInclusion (m : Machine σ) (scope : Scope) (source : List Char) : Prop :=
  m.focus = .task (.directive scope (.inclusion source))

variable {sections oracle}

lemma act_eq {task : Task} (full full' : Bool)
    (h : ∀ scope source, task ≠ .directive scope (.inclusion source)) :
    act sections full task = act sections full' task := by
  cases task with
  | call call =>
    cases call with
    | render markup scope => rfl
    | process content => cases content <;> rfl
  | entry content => rfl
  | directive scope d =>
    cases d with
    | inclusion source => exact absurd rfl (h scope source)
    | style selector spread => cases selector <;> rfl
    | conditional branches otherwise =>
      cases branches with
      | nil => cases otherwise <;> rfl
      | cons b branches => rfl
    | _ => rfl

lemma step_eq_of_room
    (h : ∀ scope source, m.AtInclusion scope source → m.full limit? = false) :
    step sections oracle limit? m = step sections oracle none m := by
  cases hfocus : m.focus with
  | given text? => rw [step, step, hfocus]
  | task task =>
    rw [step_task hfocus, step_task hfocus]
    by_cases htask : ∃ scope source, task = .directive scope (.inclusion source)
    · obtain ⟨scope, source, rfl⟩ := htask
      rw [h scope source hfocus]
      rfl
    · push Not at htask
      rw [act_eq (m.full limit?) (m.full none) htask]

/-! ### What comes of an inclusion -/

section Inclusion

variable (sections oracle)

/-- The inclusion is left out: it comes to an empty text and a report. The oracle is not asked. -/
def LeftOut (m : Machine σ) (source : List Char) : Prop :=
  step sections oracle (some inclusionLimit) m =
    some { m with
      focus := .given (some [])
      events := m.events ++ [.reported (.inclusionTooDeep source)] }

/-- What an inclusion comes to behind its expression: the content, processed one inclusion further
in, or a report. -/
def Included (source : List Char) (s : σ) (depth : Nat) (s' : σ) (output : Output) :
    Except Expr.EvalError Value → Prop
  | .ok value => run sections oracle (.process (asTree value)) (s, depth + 1) =
      some (output, s', depth + 1)
  | .error e => output = .ofProblem (.inclusionFailed source e) ∧ s' = s

/-- The inclusion is carried out: its expression is put to the oracle, and in these steps the
machine comes to give what comes of that, with the stack and the counter as they were. -/
def CarriedOut (m : Machine σ) (scope : Scope) (source : List Char) (inside : List (Machine σ)) :
    Prop :=
  ∃ output s',
    Included sections oracle source (oracle.evaluate source scope m.memory).2 m.counter s' output
      (oracle.evaluate source scope m.memory).1 ∧
    Steps (step sections oracle (some inclusionLimit)) m inside
      { m with
        focus := .given (some output.text)
        memory := s'
        events := m.events ++
          .evaluated source (oracle.evaluate source scope m.memory).1 :: output.events }

end Inclusion

variable {scope : Scope} {source : List Char}

lemma leftOut_of_full (h : m.AtInclusion scope source)
    (hfull : m.full (some inclusionLimit) = true) : m.LeftOut sections oracle source := by
  rw [LeftOut, step_task h, hfull]
  rfl

lemma step_inclusion (h : m.AtInclusion scope source)
    (hroom : m.full (some inclusionLimit) = false) :
    step sections oracle (some inclusionLimit) m =
      some ((m.asked (oracle.evaluate source scope) (.evaluated source)).make
        (inclusionMove source (oracle.evaluate source scope m.memory).1)) := by
  rw [step_task h, hroom]
  rfl

lemma exists_carriedOut (h : m.AtInclusion scope source)
    (hroom : m.full (some inclusionLimit) = false) :
    ∃ inside, m.CarriedOut sections oracle scope source inside := by
  have hstep : step sections oracle (some inclusionLimit) m = _ := step_inclusion h hroom
  simp only [asked] at hstep
  simp only [CarriedOut]
  generalize oracle.evaluate source scope m.memory = answer at hstep ⊢
  obtain ⟨outcome, s₁⟩ := answer
  cases outcome with
  | error e =>
    refine ⟨[m], .ofProblem (.inclusionFailed source e), s₁, ⟨rfl, rfl⟩, .single ?_⟩
    rw [hstep, inclusionMove, Move.show, make, List.append_assoc]
    rfl
  | ok value =>
    have hplays : PlaysTask sections oracle (m.counter + 1) Entry.ofOutput
        (.call (.process (asTree value))) (run sections oracle (.process (asTree value))) :=
      run_plays _ _
    obtain ⟨content, s', visited, hrun, hsteps⟩ :=
      hplays (.inclusion m.counter :: m.frames) s₁ (m.events ++ [.evaluated source (.ok value)])
    refine ⟨m :: (visited ++ [_]), content, s', hrun, .cons hstep (hsteps.append (.single ?_))⟩
    rw [List.append_assoc]
    rfl

lemma carriedOut_of_room {b : Machine σ} {visited : List (Machine σ)} {a : Machine σ}
    (hsteps : Steps (step sections oracle (some inclusionLimit)) a visited b)
    (hb : step sections oracle (some inclusionLimit) b = none) (hm : m ∈ visited)
    (h : m.AtInclusion scope source) (hroom : m.full (some inclusionLimit) = false) :
    ∃ inside, inside <:+: visited ∧ m.CarriedOut sections oracle scope source inside := by
  obtain ⟨inside, output, s', hincluded, hinside⟩ := exists_carriedOut h hroom
  obtain ⟨before, after, rfl, -, hafter⟩ := hsteps.of_mem hm
  obtain ⟨rest, rfl, -⟩ := hafter.split hb hinside
  exact ⟨inside, ⟨before, rest, List.append_assoc ..⟩, output, s', hincluded, hinside⟩

/-! ### Calls that leave nothing out -/

lemma full_eq_false_of_clean {a b : Machine σ} {visited : List (Machine σ)}
    (hsteps : Steps (step sections oracle limit?) a visited b)
    (hclean : Clean b.events) (hm : m ∈ visited)
    (h : m.AtInclusion scope source) : m.full limit? = false := by
  by_contra hfull
  rw [Bool.not_eq_false] at hfull
  have hnews : .reported (.inclusionTooDeep source) ∈ m.news sections oracle limit? := by
    rw [news, h]
    dsimp only
    rw [hfull]
    exact List.mem_singleton_self _
  refine hclean source ?_
  rw [events_of_steps hsteps]
  exact List.mem_append_right _ (List.mem_flatMap.2 ⟨m, hm, hnews⟩)

/-- A call that leaves no inclusion out goes the same way without a bound. -/
lemma steps_unlimited {a b : Machine σ} {visited : List (Machine σ)}
    (hsteps : Steps (step sections oracle limit?) a visited b)
    (hclean : Clean b.events) : Steps (step sections oracle none) a visited b :=
  hsteps.congr fun _ hm => step_eq_of_room fun _ _ => full_eq_false_of_clean hsteps hclean hm

end Machine

open Machine

/-- **The bound cuts off what is too deep, and nothing else.** On the way of a call the counter is
the number of the inclusions around what the machine is at. An inclusion with less of them around it
than the bound allows is carried out; one with as many is left out. A call that leaves no inclusion
out goes, question by question and event by event, the way to the output that it goes without a
bound; and on a press, more room makes no difference to it. -/
theorem limit_cuts {σ : Type} (sections : Sections) (oracle : Oracle σ) (call : Call) (s : σ) :
    ∃ output s' visited,
      run sections oracle call (s, 0) = some (output, s', 0) ∧
      Means oracle (answer sections inclusionLimit call) output ∧
      Steps (step sections oracle (some inclusionLimit)) (start call s 0) visited
        (finish output s' 0) ∧
      (∀ m ∈ visited, m.counter = m.enclosing ∧ m.enclosing ≤ inclusionLimit) ∧
      (∀ m ∈ visited, ∀ scope source, m.AtInclusion scope source →
        (m.enclosing < inclusionLimit →
          ∃ inside, inside <:+: visited ∧ m.CarriedOut sections oracle scope source inside) ∧
        (m.enclosing = inclusionLimit → m.LeftOut sections oracle source)) ∧
      (Clean output.events →
        Steps (step sections oracle none) (start call s 0) visited (finish output s' 0) ∧
        ∀ room, inclusionLimit ≤ room → Means oracle (answer sections room call) output) := by
  obtain ⟨output, s', visited, hrun, hmeans, hsteps⟩ := exists_steps sections oracle call s 0
  have hcounted : ∀ m ∈ visited, Counted (some inclusionLimit) m := (counted_of_steps hsteps).1
  refine ⟨output, s', visited, hrun, hmeans, hsteps, fun m hm => ?_, fun m hm scope source h =>
    ⟨fun hroom => ?_, fun hfull => ?_⟩, fun hclean => ⟨steps_unlimited hsteps hclean,
      fun room hroom evaluator hlike => ?_⟩⟩
  · obtain ⟨hcounter, -, hbounded⟩ := hcounted m hm
    exact ⟨hcounter, hcounter ▸ hbounded inclusionLimit rfl⟩
  · have hcounter : m.counter = m.enclosing := (hcounted m hm).counter_eq
    refine carriedOut_of_room hsteps (step_finish ..) hm h (full_eq_false_iff.2 ?_)
    rintro limit ⟨⟩
    omega
  · have hcounter : m.counter = m.enclosing := (hcounted m hm).counter_eq
    refine leftOut_of_full h ?_
    rw [full, Option.any_some, decide_eq_true_iff]
    omega
  · have houtput : output = answer sections inclusionLimit call evaluator := hmeans evaluator hlike
    rw [houtput] at hclean ⊢
    exact (answer_of_le hroom call hclean).symm

-- A section that includes itself is asked for as often as the bound allows, and then reported.
set_option maxRecDepth 20000 in
example :
    let output := Press.process ⟨⟨[("x", "%%section[$]%%".toList)]⟩, .standard⟩
      (.arr [.obj [("type", .str "x")]])
    output.events.length = inclusionLimit + 1 ∧ output.records.length = 1 := by
  decide +kernel

end Pressroom.Render

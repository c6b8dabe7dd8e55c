import Pressroom.Proofs.Render.Nesting

/-!
Calls on one renderer. They share a counter and an oracle, and each begins where the one before it
has left both. Where the answers of the oracle depend on the question alone, a call comes to the
same output behind whatever calls.
-/

namespace Pressroom.Render

open Markup Machine

variable {σ : Type}

/-- Calls on one renderer, one after the other. -/
def session (sections : Sections) (oracle : Oracle σ) (calls : List Call) :
    Walk σ (List Output) :=
  calls.mapM (run sections oracle)

section Calls

variable {sections : Sections} {oracle : Oracle σ}

lemma session_cons (call : Call) (calls : List Call) :
    session sections oracle (call :: calls) = (do
      let output ← run sections oracle call
      let outputs ← session sections oracle calls
      return output :: outputs) :=
  List.mapM_cons

lemma session_cons_eq {call : Call} {calls : List Call} {output : Output} {outputs : List Output}
    {state state₁ state₂ : σ × Nat} (hrun : run sections oracle call state = some (output, state₁))
    (hsession : session sections oracle calls state₁ = some (outputs, state₂)) :
    session sections oracle (call :: calls) state = some (output :: outputs, state₂) := by
  rw [session_cons, Walk.bind_eq hrun, Walk.bind_eq hsession]
  rfl

lemma session_append_eq {calls calls' : List Call} {outputs outputs' : List Output}
    {state state₁ state₂ : σ × Nat}
    (h : session sections oracle calls state = some (outputs, state₁))
    (h' : session sections oracle calls' state₁ = some (outputs', state₂)) :
    session sections oracle (calls ++ calls') state = some (outputs ++ outputs', state₂) := by
  rw [session] at h h' ⊢
  rw [List.mapM_append, Walk.bind_eq h, Walk.bind_eq h']
  rfl

lemma session_ends (calls : List Call) (s : σ) (depth : Nat) :
    ∃ outputs s', session sections oracle calls (s, depth) = some (outputs, s', depth) ∧
      outputs.length = calls.length := by
  induction calls generalizing s with
  | nil => exact ⟨[], s, rfl, rfl⟩
  | cons call calls ih =>
    obtain ⟨output, s₁, -, hrun, -⟩ := exists_steps sections oracle call s depth
    obtain ⟨outputs, s₂, hsession, hlength⟩ := ih s₁
    exact ⟨output :: outputs, s₂, session_cons_eq hrun hsession, congrArg (· + 1) hlength⟩

end Calls

variable (sections : Sections) {oracle : Oracle σ} {evaluator : Evaluator}

lemma run_of_like (hlike : oracle.Like evaluator) (call : Call) (s : σ) (depth : Nat) :
    ∃ s', run sections oracle call (s, depth) =
      some (answer sections (inclusionLimit - depth) call evaluator, s', depth) := by
  obtain ⟨output, s', -, hrun, hmeans, -⟩ := exists_steps sections oracle call s depth
  rw [hmeans evaluator hlike] at hrun
  exact ⟨s', hrun⟩

lemma session_of_like (hlike : oracle.Like evaluator) (calls : List Call) (s : σ) (depth : Nat) :
    ∃ s', session sections oracle calls (s, depth) =
      some (calls.map (answer sections (inclusionLimit - depth) · evaluator), s', depth) := by
  -- by induction on the calls: each of them leaves the counter as it was
  induction calls generalizing s with
  | nil => exact ⟨s, rfl⟩
  | cons call calls ih =>
    obtain ⟨s₁, hrun⟩ := run_of_like sections hlike call s depth
    obtain ⟨s₂, hsession⟩ := ih s₁
    exact ⟨s₂, session_cons_eq hrun hsession⟩

lemma like_ofEvaluator (evaluator : Evaluator) : (Oracle.ofEvaluator evaluator).Like evaluator :=
  fun _ _ _ => ⟨rfl, rfl⟩

lemma session_ofEvaluator (evaluator : Evaluator) (calls : List Call) (depth : Nat) :
    session sections (.ofEvaluator evaluator) calls ((), depth) =
      some (calls.map (answer sections (inclusionLimit - depth) · evaluator), (), depth) := by
  obtain ⟨s', h⟩ := session_of_like sections (like_ofEvaluator evaluator) calls () depth
  exact h

lemma exists_steps_behind (hlike : oracle.Like evaluator)
    (before : List Call) (call : Call) (s : σ) :
    ∃ outputs s₁ output s₂ visited,
      session sections oracle before (s, 0) = some (outputs, s₁, 0) ∧
      run sections oracle call (s₁, 0) = some (output, s₂, 0) ∧
      Steps (step sections oracle (some inclusionLimit)) (start call s₁ 0) visited
        (finish output s₂ 0) ∧
      (∀ m ∈ visited, m.counter ≤ inclusionLimit) ∧
      (∀ s₀, ∃ s₀', run sections oracle call (s₀, 0) = some (output, s₀', 0)) ∧
      output = answer sections inclusionLimit call evaluator := by
  obtain ⟨s₁, hbefore⟩ := session_of_like sections hlike before s 0
  obtain ⟨output, s₂, visited, hrun, hmeans, hsteps⟩ := exists_steps sections oracle call s₁ 0
  have houtput : output = answer sections inclusionLimit call evaluator := hmeans evaluator hlike
  refine ⟨_, s₁, output, s₂, visited, hbefore, hrun, hsteps, fun m hm => ?_, fun s₀ => ?_, houtput⟩
  · exact ((counted_of_steps hsteps).1 m hm).bounded inclusionLimit rfl
  · rw [houtput]
    exact run_of_like sections hlike call s₀ 0

end Pressroom.Render

import Pressroom.Proofs.Render.Ending
import Pressroom.Proofs.Render.Machine
import Pressroom.Proofs.Text.Join

/-!
Machines make what calls make. A task and the walk that does the same have one end (`Plays`): the
machine gives what the walk comes to, the counter and the stack are as they were, and the events of
the walk have been added. This is shown for each move, from there for each task, and for calls by
induction on what is in front of them (`run_plays`). Main statement: a machine that begins with a
call gets to the end of it, with the output of the call (`exists_steps`).
-/

namespace Pressroom.Render

open Markup Walk Machine

variable {σ : Type} {sections : Sections} {oracle : Oracle σ}

/-! ### Tasks and walks -/

lemma Walk.bind_eq {α β : Type} {m : Walk σ α} {f : α → Walk σ β} {a : α} {state state' : σ × Nat}
    (h : m state = some (a, state')) : (m >>= f) state = f a state' := by
  show (m state).bind _ = _
  rw [h]
  rfl

section Plays

variable (sections oracle)

/-- A machine that begins like this, with whatever lies on its stack, comes behind what it is at,
with what the walk comes to. -/
def Plays {α : Type} (depth : Nat) (view : α → Entry)
    (begin : List Frame → σ → List Event → Machine σ) (m : Walk σ α) : Prop :=
  ∀ frames s events, ∃ a s' visited, m (s, depth) = some (a, s', depth) ∧
    Steps (step sections oracle (some inclusionLimit)) (begin frames s events) visited
      ⟨.given (view a).text?, frames, depth, s', events ++ (view a).events⟩

/-- A machine with the task in front of it. -/
def PlaysTask {α : Type} (depth : Nat) (view : α → Entry) (task : Task) : Walk σ α → Prop :=
  Plays sections oracle depth view fun frames s events => ⟨.task task, frames, depth, s, events⟩

/-- A machine that makes the move. -/
def PlaysMove {α : Type} (depth : Nat) (view : α → Entry) (move : Move) : Walk σ α → Prop :=
  Plays sections oracle depth view fun frames s events =>
    Machine.make ⟨.given none, frames, depth, s, events⟩ move

end Plays

variable {α β : Type} {depth : Nat} {view : α → Entry}

lemma Plays.map {begin : List Frame → σ → List Event → Machine σ} {m : Walk σ α} {view' : β → Entry}
    {f : α → β} (h : Plays sections oracle depth view begin m) (hf : ∀ a, view' (f a) = view a) :
    Plays sections oracle depth view' begin (do return f (← m)) := by
  intro frames s events
  obtain ⟨a, s', visited, hm, hsteps⟩ := h frames s events
  refine ⟨f a, s', visited, Walk.bind_eq hm, ?_⟩
  rw [hf]
  exact hsteps

lemma Plays.of_eq {begin : List Frame → σ → List Event → Machine σ} {m m' : Walk σ α}
    (hm : ∀ s, m (s, depth) = m' (s, depth)) (h : Plays sections oracle depth view begin m') :
    Plays sections oracle depth view begin m := by
  intro frames s events
  rw [hm]
  exact h frames s events

/-! ### Moves -/

lemma playsMove_give (view : α → Entry) (a : α) :
    PlaysMove sections oracle depth view (.give (view a)) (pure a) :=
  fun _ s _ => ⟨a, s, [], rfl, .nil _⟩

lemma playsMove_show (output : Output) :
    PlaysMove sections oracle depth Entry.ofOutput (.show output) (pure output) :=
  playsMove_give _ output

lemma playsMove_turn {task : Task} {m : Walk σ α}
    (h : PlaysTask sections oracle depth view task m) :
    PlaysMove sections oracle depth view (.turn task) m :=
  h

/-- What a row of tasks comes to. -/
def rowEntry (separator : List Char) (entries : List Entry) : Entry :=
  ⟨some (Text.join separator (entries.filterMap (·.text?))), entries.flatMap (·.events)⟩

lemma row_steps {separator : List Char} {task : β → Task} {walk : β → Walk σ α} {xs : List β}
    (h : ∀ x ∈ xs, PlaysTask sections oracle depth view (task x) (walk x)) (frames : List Frame)
    (s : σ) (events : List Event) (texts : List (List Char)) (text? : Option (List Char)) :
    ∃ as s' visited, xs.mapM walk (s, depth) = some (as, s', depth) ∧
      Steps (step sections oracle (some inclusionLimit))
        ⟨.given text?, .row separator texts (xs.map task) :: frames, depth, s, events⟩ visited
        ⟨.given (some (Text.join separator
            (texts ++ text?.toList ++ (as.map view).filterMap (·.text?)))),
          frames, depth, s', events ++ (as.map view).flatMap (·.events)⟩ := by
  -- by induction on the tasks that are left, whatever texts there are
  induction xs generalizing s events texts text? with
  | nil => exact ⟨[], s, _, rfl, .single (by simp [step, resume])⟩
  | cons x xs ih =>
    obtain ⟨a, s₁, visited₁, hwalk, hfirst⟩ :=
      h x List.mem_cons_self (.row separator (texts ++ text?.toList) (xs.map task) :: frames) s
        events
    obtain ⟨as, s₂, visited₂, hwalks, hrest⟩ :=
      ih (fun y hy => h y (List.mem_cons_of_mem _ hy)) s₁ (events ++ (view a).events)
        (texts ++ text?.toList) (view a).text?
    refine ⟨a :: as, s₂, _ :: (visited₁ ++ visited₂), ?_, .cons rfl (hfirst.append ?_)⟩
    · rw [List.mapM_cons, Walk.bind_eq hwalk, Walk.bind_eq hwalks]
      rfl
    · have htexts : (texts ++ text?.toList) ++ (view a).text?.toList ++
          (as.map view).filterMap (·.text?) =
            texts ++ text?.toList ++ ((a :: as).map view).filterMap (·.text?) := by
        cases hview : (view a).text? <;> simp [hview]
      have hevents : events ++ (view a).events ++ (as.map view).flatMap (·.events) =
          events ++ ((a :: as).map view).flatMap (·.events) := by simp
      rw [← htexts, ← hevents]
      exact hrest

lemma concat_eq (outputs : List Output) :
    Output.concat outputs = ⟨(outputs.map (·.text)).flatten, outputs.flatMap (·.events)⟩ := by
  induction outputs with
  | nil => rfl
  | cons output outputs ih =>
    show output ++ Output.concat outputs = _
    rw [ih]
    rfl

lemma ofOutput_concat (outputs : List Output) :
    Entry.ofOutput (.concat outputs) = rowEntry [] (outputs.map Entry.ofOutput) := by
  have htexts : (outputs.map Entry.ofOutput).filterMap (·.text?) = outputs.map (·.text) := by
    rw [List.filterMap_map]
    exact congrFun List.filterMap_eq_map outputs
  rw [concat_eq, rowEntry, htexts, Text.join_empty, List.flatMap_map]
  rfl

lemma ofOutput_joinEntries (entries : List Entry) :
    Entry.ofOutput (joinEntries entries) = rowEntry ['\n'] (entries.map id) := by
  rw [List.map_id]
  rfl

lemma playsMove_row {separator : List Char} {task : β → Task} {walk : β → Walk σ α} {xs : List β}
    (h : ∀ x ∈ xs, PlaysTask sections oracle depth view (task x) (walk x)) :
    PlaysMove sections oracle depth (fun as => rowEntry separator (as.map view))
      (.row separator (xs.map task)) (xs.mapM walk) := by
  intro frames s events
  obtain ⟨as, s', visited, hwalks, hsteps⟩ := row_steps h frames s events [] none
  exact ⟨as, s', visited, hwalks, hsteps⟩

lemma playsMove_enter {content : Value} {m : Walk σ Output}
    (h : PlaysTask sections oracle (depth + 1) Entry.ofOutput (.call (.process content)) m) :
    PlaysMove sections oracle depth Entry.ofOutput (.enter content)
      (do setCounter (depth + 1); let output ← m; setCounter depth; return output) := by
  intro frames s events
  obtain ⟨output, s', visited, hm, hsteps⟩ := h (.inclusion depth :: frames) s events
  refine ⟨output, s', _, ?_, hsteps.append (.single rfl)⟩
  have hmoved : setCounter (depth + 1) (s, depth) = some ((), s, depth + 1) := rfl
  rw [Walk.bind_eq hmoved, Walk.bind_eq hm]
  rfl

/-! ### Acts -/

/-- Whether there is no room at a position of the counter. -/
abbrev fullAt (depth : Nat) : Bool := decide (inclusionLimit ≤ depth)

lemma playsTask_of_move {task : Task} (move : Move) {m : Walk σ α}
    (hact : act sections (fullAt depth) task = .move move)
    (h : PlaysMove sections oracle depth view move m) :
    PlaysTask sections oracle depth view task m := by
  intro frames s events
  obtain ⟨a, s', visited, hm, hsteps⟩ := h frames s events
  refine ⟨a, s', _, hm, .cons ?_ hsteps⟩
  show some (execute oracle _ (act sections (fullAt depth) task)) = _
  rw [hact]
  cases move <;> rfl

lemma after_steps {γ : Type} (answer : σ → γ × σ) (event : γ → Event) {next : γ → Move}
    {walk : γ → Walk σ Output}
    (h : ∀ outcome, PlaysMove sections oracle depth Entry.ofOutput (next outcome) (walk outcome))
    (frames : List Frame) (s : σ) (events : List Event) :
    ∃ output s' visited, consulted answer event walk (s, depth) = some (output, s', depth) ∧
      Steps (step sections oracle (some inclusionLimit))
        ((Machine.asked ⟨.given none, frames, depth, s, events⟩ answer event).make
          (next (answer s).1)) visited
        ⟨.given (some output.text), frames, depth, s', events ++ output.events⟩ := by
  obtain ⟨output, s', visited, hwalk, hsteps⟩ :=
    h (answer s).1 frames (answer s).2 (events ++ [event (answer s).1])
  refine ⟨.after (event (answer s).1) output, s', visited, ?_, ?_⟩
  · have hasked : ask answer (s, depth) = some ((answer s).1, (answer s).2, depth) := rfl
    rw [consulted, Walk.bind_eq hasked, Walk.bind_eq hwalk]
    rfl
  · have hevents : events ++ (Output.after (event (answer s).1) output).events =
        events ++ [event (answer s).1] ++ output.events := by simp [Output.after]
    rw [hevents]
    exact hsteps

lemma playsTask_of_evaluate {task : Task} {source : List Char} {scope : Scope}
    (next : Except Expr.EvalError Value → Move) {walk : Except Expr.EvalError Value → Walk σ Output}
    (hact : act sections (fullAt depth) task = .evaluate source scope next)
    (h : ∀ outcome, PlaysMove sections oracle depth Entry.ofOutput (next outcome) (walk outcome)) :
    PlaysTask sections oracle depth Entry.ofOutput task (evaluated oracle source scope walk) := by
  intro frames s events
  obtain ⟨output, s', visited, hwalk, hsteps⟩ :=
    after_steps (oracle.evaluate source scope) (.evaluated source) h frames s events
  refine ⟨output, s', _, hwalk, .cons ?_ hsteps⟩
  show some (execute oracle _ (act sections (fullAt depth) task)) = _
  rw [hact]
  show some (make _ (next _)) = some (make _ (next _))
  cases next (oracle.evaluate source scope s).1 <;> rfl

lemma playsTask_of_test {task : Task} {source : List Char} {scope : Scope}
    (next : Except Expr.EvalError Bool → Move) {walk : Except Expr.EvalError Bool → Walk σ Output}
    (hact : act sections (fullAt depth) task = .test source scope next)
    (h : ∀ outcome, PlaysMove sections oracle depth Entry.ofOutput (next outcome) (walk outcome)) :
    PlaysTask sections oracle depth Entry.ofOutput task (tested oracle source scope walk) := by
  intro frames s events
  obtain ⟨output, s', visited, hwalk, hsteps⟩ :=
    after_steps (oracle.test source scope) (.tested source) h frames s events
  refine ⟨output, s', _, hwalk, .cons ?_ hsteps⟩
  show some (execute oracle _ (act sections (fullAt depth) task)) = _
  rw [hact]
  show some (make _ (next _)) = some (make _ (next _))
  cases next (oracle.test source scope s).1 <;> rfl

/-! ### One call -/

section Call

variable {self : Call → Walk σ Output} {call : Call}

/-- Machines play the calls with less in front of them than this one. -/
def PlaysBelow (sections : Sections) (oracle : Oracle σ) (self : Call → Walk σ Output) (depth : Nat)
    (call : Call) : Prop :=
  ∀ call' depth', call'.measure depth' < call.measure depth →
    PlaysTask sections oracle depth' Entry.ofOutput (.call call') (self call')

section Markup

variable {markup : List Char} {scope₀ : Scope}
  (hself : PlaysBelow sections oracle self depth (.render markup scope₀))

include hself

lemma inclusion_plays (source : List Char) (scope : Scope) :
    PlaysTask sections oracle depth Entry.ofOutput (.directive scope (.inclusion source))
      (Walk.inclusion oracle self source scope) := by
  by_cases hfull : inclusionLimit ≤ depth
  · refine Plays.of_eq (fun s => congrFun (if_pos hfull) (s, depth))
      (playsTask_of_move (.show (.ofProblem (.inclusionTooDeep source))) ?_ (playsMove_show _))
    simp only [act, directiveAct, fullAt, hfull, decide_true, if_true]
  · refine Plays.of_eq (fun s => congrFun (if_neg hfull) (s, depth))
      (playsTask_of_evaluate (inclusionMove source) ?_ fun outcome => ?_)
    · simp only [act, directiveAct, fullAt, hfull, decide_false, Bool.false_eq_true, if_false]
    · cases outcome with
      | error e => exact playsMove_show _
      | ok value =>
        exact playsMove_enter
          (hself _ _ (Call.measure_process_lt (Nat.lt_of_not_le hfull) _ markup scope₀))

lemma loop_plays (element : String) (index : Option String) (source : List Char) {body : List Char}
    (hbody : body.length < markup.length) (scope : Scope) :
    PlaysTask sections oracle depth Entry.ofOutput
      (.directive scope (.loop element index source body))
      (Walk.loop oracle self element index source body scope) := by
  refine playsTask_of_evaluate (loopMove element index source body scope) rfl
    fun outcome => ?_
  cases outcome with
  | error e => exact playsMove_show _
  | ok value =>
    cases value with
    | arr items =>
      exact Plays.map (playsMove_row fun x _ =>
        hself _ _ (Call.measure_render_lt depth hbody (.frame element x.1 index x.2 scope) scope₀))
          ofOutput_concat
    | _ => exact playsMove_show _

lemma conditional_plays {otherwise : Option (List Char)}
    (hotherwise : ∀ body ∈ otherwise, body.length < markup.length) {branches : List Branch}
    (hbranches : ∀ b ∈ branches, b.body.length < markup.length) (scope : Scope) :
    PlaysTask sections oracle depth Entry.ofOutput
      (.directive scope (.conditional branches otherwise))
      (choice oracle self otherwise scope branches) := by
  have hbody {body : List Char} (h : body.length < markup.length) :
      PlaysTask sections oracle depth Entry.ofOutput (.call (.render body scope))
        (self (.render body scope)) :=
    hself _ _ (Call.measure_render_lt depth h scope scope₀)
  induction branches with
  | nil =>
    cases otherwise with
    | none => exact playsTask_of_move _ rfl (playsMove_show _)
    | some body => exact playsTask_of_move _ rfl (playsMove_turn (hbody (hotherwise body rfl)))
  | cons b branches ih =>
    refine playsTask_of_test (branchMove scope b.body branches otherwise) rfl
      fun outcome => ?_
    cases outcome with
    | error e => exact playsMove_show _
    | ok holds =>
      cases holds with
      | true => exact playsMove_turn (hbody (hbranches b List.mem_cons_self))
      | false =>
        exact playsMove_turn (ih fun b' hb' => hbranches b' (List.mem_cons_of_mem _ hb'))

lemma directive_plays {d : Directive} (hd : d ∈ directives markup) (scope : Scope) :
    PlaysTask sections oracle depth Entry.ofOutput (.directive scope d)
      (Walk.directive oracle self scope d) := by
  cases d with
  | text t => exact playsTask_of_move _ rfl (playsMove_show _)
  | expression source => exact playsTask_of_evaluate _ rfl fun outcome => playsMove_show _
  | style selector spread =>
    cases selector with
    | none => exact playsTask_of_move _ rfl (playsMove_show _)
    | some source => exact playsTask_of_evaluate _ rfl fun outcome => playsMove_show _
  | inclusion source => exact inclusion_plays hself source scope
  | loop element index source body =>
    exact loop_plays hself element index source (length_body_lt hd List.mem_cons_self) scope
  | conditional branches otherwise =>
    exact conditional_plays hself
      (fun body hb => length_body_lt hd (List.mem_append_right _ (by simpa using hb)))
      (fun b hb => length_body_lt hd (List.mem_append_left _ (List.mem_map_of_mem hb))) scope

end Markup

lemma entry_plays {entries : List Value}
    (hself : PlaysBelow sections oracle self depth (.process (.arr entries)))
    {entry : Value} (h : entry ∈ entries) :
    PlaysTask sections oracle depth id (.entry entry) (Walk.entry sections self entry) := by
  refine playsTask_of_move (entryMove sections entry) rfl ?_
  cases entry with
  | arr items =>
    exact (playsMove_turn (hself _ _ (Call.measure_entry_lt depth h))).map fun _ => rfl
  | obj fields =>
    simp only [Walk.entry, entryMove]
    cases (((Value.obj fields).field? "type").bind Value.str?).bind sections.get? with
    | none => exact playsMove_give id _
    | some markup =>
      exact (playsMove_turn (hself _ _ (Call.measure_section_lt depth markup _ _))).map
        fun _ => rfl
  | _ => exact playsMove_give id _

lemma perform_plays (hself : PlaysBelow sections oracle self depth call) :
    PlaysTask sections oracle depth Entry.ofOutput (.call call)
      (perform sections oracle self call) := by
  -- a call is made of calls with less in front of them
  cases call with
  | render markup scope =>
    exact playsTask_of_move _ rfl
      ((playsMove_row fun d hd => directive_plays hself hd scope).map ofOutput_concat)
  | process content =>
    cases content with
    | arr entries =>
      exact playsTask_of_move _ rfl
        ((playsMove_row fun entry h => entry_plays hself h).map ofOutput_joinEntries)
    | _ => exact playsTask_of_move _ rfl (playsMove_show _)

end Call

/-! ### All calls -/

lemma run_plays (call : Call) (depth : Nat) :
    PlaysTask sections oracle depth Entry.ofOutput (.call call) (run sections oracle call) := by
  -- by what is in front of a call
  have hbelow : PlaysBelow sections oracle (run sections oracle) depth call :=
    fun call' depth' _ => run_plays call' depth'
  have hperform : run sections oracle call = perform sections oracle (run sections oracle) call :=
    funext (solves_run call)
  rw [hperform]
  exact perform_plays hbelow
termination_by call.measure depth
decreasing_by assumption

/-- A machine that begins with a call gets to the end of it, with the output of the call. If the
answers of the oracle are those of an evaluator, that is the page. -/
lemma exists_steps (sections : Sections) (oracle : Oracle σ) (call : Call) (s : σ) (depth : Nat) :
    ∃ output s' visited, run sections oracle call (s, depth) = some (output, s', depth) ∧
      Means oracle (answer sections (inclusionLimit - depth) call) output ∧
      Steps (step sections oracle (some inclusionLimit)) (start call s depth) visited
        (finish output s' depth) := by
  have hplays : PlaysTask sections oracle depth Entry.ofOutput (.call call)
      (run sections oracle call) := run_plays call depth
  have hagree : Agree depth (run sections oracle call) (run sections oracle call)
      (Means oracle (answer sections (inclusionLimit - depth) call)) := run_agree call depth
  obtain ⟨output, s', visited, hrun, hsteps⟩ := hplays [] s []
  obtain ⟨output', s'', hrun', -, hmeans⟩ := hagree s
  rw [hrun] at hrun'
  cases hrun'
  exact ⟨output, s', visited, hrun, hmeans, hsteps⟩

end Pressroom.Render

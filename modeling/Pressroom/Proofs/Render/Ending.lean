import Pressroom.Proofs.Render.Counter
import Pressroom.Proofs.Render.Slices

/-!
Pages come to an end. One call keeps to calls with less in front of them, whatever these do
(`perform_agree`), so no call is refused, by induction on what is in front of it (`run_agree`). Main
statement: calls come to an end from every position of the counter, whatever the oracle remembers,
and what they make is the page.
-/

namespace Pressroom.Render

open Markup Walk

/-! ### Walks that come to an end -/

/-- From this position of the counter on both walks come to an end, and to the same one: with an
answer of a kind, and with the counter as it was. -/
def Agree {σ α : Type} (depth : Nat) (m m' : Walk σ α) (kind : α → Prop) : Prop :=
  ∀ s, ∃ a s', m (s, depth) = some (a, s', depth) ∧ m' (s, depth) = some (a, s', depth) ∧ kind a

namespace Agree

variable {σ α β : Type} {depth : Nat} {m m' : Walk σ α} {P : α → Prop} {Q : β → Prop}

lemma pure {a : α} (h : P a) : Agree depth (pure a : Walk σ α) (pure a) P :=
  fun s => ⟨a, s, rfl, rfl, h⟩

lemma ask (answer : σ → α × σ) :
    Agree depth (ask answer) (ask answer) fun a => ∃ s, a = (answer s).1 :=
  fun s => ⟨_, _, rfl, rfl, s, rfl⟩

lemma bind (hm : Agree depth m m' P) {f f' : α → Walk σ β}
    (hf : ∀ a, P a → Agree depth (f a) (f' a) Q) : Agree depth (m >>= f) (m' >>= f') Q := by
  intro s
  obtain ⟨a, s', h, h', ha⟩ := hm s
  obtain ⟨b, s'', hb, hb', hQ⟩ := hf a ha s'
  refine ⟨b, s'', ?_, ?_, hQ⟩
  · show (m (s, depth)).bind (fun x => f x.1 x.2) = _
    rw [h]
    exact hb
  · show (m' (s, depth)).bind (fun x => f' x.1 x.2) = _
    rw [h']
    exact hb'

lemma moved (h : Agree (depth + 1) m m' P) :
    Agree depth (do setCounter (depth + 1); let a ← m; setCounter depth; return a)
      (do setCounter (depth + 1); let a ← m'; setCounter depth; return a) P := by
  intro s
  obtain ⟨a, s', h, h', ha⟩ := h s
  refine ⟨a, s', ?_, ?_, ha⟩
  · show (m (s, depth + 1)).bind _ = _
    rw [h]
    rfl
  · show (m' (s, depth + 1)).bind _ = _
    rw [h']
    rfl

lemma mapM {f f' : β → Walk σ α} {R : β → α → Prop} {xs : List β}
    (h : ∀ x ∈ xs, Agree depth (f x) (f' x) (R x)) :
    Agree depth (xs.mapM f) (xs.mapM f') (List.Forall₂ R xs) := by
  induction xs with
  | nil =>
    rw [List.mapM_nil, List.mapM_nil]
    exact pure .nil
  | cons x xs ih =>
    rw [List.mapM_cons, List.mapM_cons]
    refine (h x List.mem_cons_self).bind fun a ha => ?_
    refine (ih fun y hy => h y (List.mem_cons_of_mem _ hy)).bind fun as has => ?_
    exact pure (.cons ha has)

end Agree

/-! ### What calls mean -/

/-- The oracle answers like an evaluator, whatever it remembers. -/
def Oracle.Like {σ : Type} (oracle : Oracle σ) (evaluator : Evaluator) : Prop :=
  ∀ source scope s, (oracle.evaluate source scope s).1 = evaluator.evaluate source scope ∧
    (oracle.test source scope s).1 = evaluator.test source scope

/-- The answer is the one to expect of every evaluator that the oracle is like. -/
def Means {σ α : Type} (oracle : Oracle σ) (expected : Evaluator → α) (a : α) : Prop :=
  ∀ evaluator, oracle.Like evaluator → a = expected evaluator

/-- What a press makes of a call, with so many inclusions allowed inside each other. -/
def answer (sections : Sections) (room : Nat) (call : Call) (evaluator : Evaluator) : Output :=
  match call with
  | .render markup scope => Press.renderWithin ⟨sections, evaluator⟩ room markup scope
  | .process content => Press.processWithin ⟨sections, evaluator⟩ room content

lemma means_forall₂ {σ α β : Type} {oracle : Oracle σ} {f : β → Evaluator → α} {xs : List β}
    {as : List α} (h : List.Forall₂ (fun x => Means oracle (f x)) xs as) :
    Means oracle (fun evaluator => xs.map (f · evaluator)) as := by
  intro evaluator hlike
  induction h with
  | nil => rfl
  | cons hx _ ih => exact congrArg₂ List.cons (hx evaluator hlike) ih

lemma rounds_eq (round : Value → Nat → Output) (position : Nat) (items : List Value) :
    rounds round position items =
      .concat ((items.zipIdx position).map fun x => round x.1 x.2) := by
  induction items generalizing position with
  | nil => rfl
  | cons item items ih => rw [rounds, ih, List.zipIdx_cons]; rfl

/-- An entry of a content array on the page. -/
def pageEntry (sections : Sections) (render : List Char → Scope → Output) : Value → Entry
  | .arr entries => .ofOutput (process sections render (.arr entries))
  | .obj fields => contentNode sections render (.obj fields)
  | other => .skipped (.notANode other)

lemma processAll_eq (sections : Sections) (render : List Char → Scope → Output)
    (entries : List Value) :
    processAll sections render entries = entries.map (pageEntry sections render) := by
  induction entries with
  | nil => rw [processAll]; rfl
  | cons entry entries ih =>
    cases entry <;> simp only [processAll, ih, List.map_cons, pageEntry]

lemma nodes_eq_renderWithin (press : Press) (room : Nat) (markup : List Char) (scope : Scope) :
    nodes press.evaluator (press.processor room) (Node.ofMarkup markup) scope =
      press.renderWithin room markup scope := by
  cases room <;> rfl

/-! ### One call -/

/-- What content comes to at a position of the counter, if there is room for it. -/
def processorAt (sections : Sections) (depth : Nat) (evaluator : Evaluator) :
    Option (Value → Output) :=
  Press.processor ⟨sections, evaluator⟩ (inclusionLimit - depth)

lemma processorAt_of_le {sections : Sections} {depth : Nat} (h : inclusionLimit ≤ depth) :
    processorAt sections depth = fun _ => none := by
  funext evaluator
  rw [processorAt, Nat.sub_eq_zero_of_le h]
  rfl

lemma processorAt_of_lt {sections : Sections} {depth : Nat} (h : depth < inclusionLimit) :
    processorAt sections depth = fun evaluator => some fun content =>
      answer sections (inclusionLimit - (depth + 1)) (.process content) evaluator := by
  have hroom : inclusionLimit - depth = inclusionLimit - (depth + 1) + 1 := by omega
  funext evaluator
  rw [processorAt, hroom]
  rfl

/-- What an inclusion comes to, by what its expression comes to. -/
def included (sections : Sections) (room : Nat) (source : List Char)
    (outcome : Except Expr.EvalError Value) (evaluator : Evaluator) : Output :=
  match outcome with
  | .ok value => answer sections room (.process (asTree value)) evaluator
  | .error e => .ofProblem (.inclusionFailed source e)

/-- What a loop comes to, by what its expression comes to and what a round is. -/
def repeated (source : List Char) (round : Evaluator → Value → Nat → Output)
    (outcome : Except Expr.EvalError Value) (evaluator : Evaluator) : Output :=
  match outcome with
  | .ok (.arr items) => rounds (round evaluator) 0 items
  | .ok other => .ofProblem (.loopNotAnArray source other)
  | .error e => .ofProblem (.loopFailed source e)

/-- What a branch comes to, by what its condition comes to and what stands behind it. -/
def chosen (body rest : Evaluator → Output) (outcome : Except Expr.EvalError Bool)
    (evaluator : Evaluator) : Output :=
  match outcome with
  | .ok true => body evaluator
  | .ok false => rest evaluator
  | .error e => .ofProblem (.conditionFailed e)

lemma node_conditional_cons (evaluator : Evaluator)
    (process? : Evaluator → Option (Value → Output)) (b : Branch) (branches : List Branch)
    (otherwise : Option (List Char)) (scope : Scope) :
    node evaluator (process? evaluator) (Node.ofDirective (.conditional (b :: branches) otherwise))
        scope =
      .after (.tested b.condition (evaluator.test b.condition scope))
        (chosen
          (fun evaluator => nodes evaluator (process? evaluator) (Node.ofMarkup b.body) scope)
          (fun evaluator => node evaluator (process? evaluator)
            (Node.ofDirective (.conditional branches otherwise)) scope)
          (evaluator.test b.condition scope) evaluator) := by
  cases otherwise <;> rfl

/-- Calls with less in front of them than this one come to an end, and to the same one, with what is
to be expected. -/
def SettledBelow {σ : Type} (sections : Sections) (oracle : Oracle σ)
    (self self' : Call → Walk σ Output) (depth : Nat) (call : Call) : Prop :=
  ∀ call' depth', call'.measure depth' < call.measure depth →
    Agree depth' (self call') (self' call')
      (Means oracle (answer sections (inclusionLimit - depth') call'))

section Step

variable {σ : Type} {sections : Sections} {oracle : Oracle σ} {depth : Nat}
  {self self' : Call → Walk σ Output}

lemma counter_agree : Agree depth (counter : Walk σ Nat) counter (depth = ·) :=
  fun s => ⟨depth, s, rfl, rfl, rfl⟩

lemma consulted_agree {α : Type} {answer : σ → α × σ} {event : α → Event}
    {next next' : α → Walk σ Output} (asked : Evaluator → α) (expected : α → Evaluator → Output)
    (hanswer : ∀ s evaluator, oracle.Like evaluator → (answer s).1 = asked evaluator)
    (h : ∀ outcome, Agree depth (next outcome) (next' outcome) (Means oracle (expected outcome))) :
    Agree depth (consulted answer event next) (consulted answer event next')
      (Means oracle fun evaluator =>
        .after (event (asked evaluator)) (expected (asked evaluator) evaluator)) := by
  refine (Agree.ask _).bind ?_
  rintro _ ⟨s, rfl⟩
  refine (h _).bind fun out hout => .pure fun evaluator hlike => ?_
  rw [hout evaluator hlike, hanswer s evaluator hlike]

lemma evaluated_agree {source : List Char} {scope : Scope}
    {next next' : Except Expr.EvalError Value → Walk σ Output}
    (expected : Except Expr.EvalError Value → Evaluator → Output)
    (h : ∀ outcome, Agree depth (next outcome) (next' outcome) (Means oracle (expected outcome))) :
    Agree depth (evaluated oracle source scope next) (evaluated oracle source scope next')
      (Means oracle fun evaluator =>
        .after (.evaluated source (evaluator.evaluate source scope))
          (expected (evaluator.evaluate source scope) evaluator)) :=
  consulted_agree _ expected (fun s _ hlike => (hlike source scope s).1) h

lemma tested_agree {source : List Char} {scope : Scope}
    {next next' : Except Expr.EvalError Bool → Walk σ Output}
    (expected : Except Expr.EvalError Bool → Evaluator → Output)
    (h : ∀ outcome, Agree depth (next outcome) (next' outcome) (Means oracle (expected outcome))) :
    Agree depth (tested oracle source scope next) (tested oracle source scope next')
      (Means oracle fun evaluator =>
        .after (.tested source (evaluator.test source scope))
          (expected (evaluator.test source scope) evaluator)) :=
  consulted_agree _ expected (fun s _ hlike => (hlike source scope s).2) h

section Markup

variable {markup : List Char} {scope₀ : Scope}
  (hself : SettledBelow sections oracle self self' depth (.render markup scope₀))

include hself

lemma render_agree {body : List Char} (hbody : body.length < markup.length) (scope : Scope) :
    Agree depth (self (.render body scope)) (self' (.render body scope))
      (Means oracle fun evaluator =>
        nodes evaluator (processorAt sections depth evaluator) (Node.ofMarkup body) scope) := by
  intro s
  obtain ⟨out, s', h, h', hout⟩ := hself _ _ (Call.measure_render_lt depth hbody scope scope₀) s
  refine ⟨out, s', h, h', fun evaluator hlike => ?_⟩
  rw [hout evaluator hlike, answer, ← nodes_eq_renderWithin]
  rfl

lemma inclusion_agree (source : List Char) (scope : Scope) :
    Agree depth (Walk.inclusion oracle self source scope)
      (Walk.inclusion oracle self' source scope)
      (Means oracle fun evaluator =>
        Render.inclusion evaluator (processorAt sections depth evaluator) source scope) := by
  refine counter_agree.bind ?_
  rintro _ rfl
  by_cases hdepth : inclusionLimit ≤ depth
  · rw [if_pos hdepth, if_pos hdepth, processorAt_of_le hdepth]
    exact .pure fun _ _ => rfl
  · rw [if_neg hdepth, if_neg hdepth, processorAt_of_lt (Nat.lt_of_not_le hdepth)]
    refine evaluated_agree (included sections (inclusionLimit - (depth + 1)) source)
      fun outcome => ?_
    cases outcome with
    | error e => exact .pure fun _ _ => rfl
    | ok value =>
      exact (hself _ _ (Call.measure_process_lt (Nat.lt_of_not_le hdepth) _ markup scope₀)).moved

lemma loop_agree (element : String) (index : Option String) (source : List Char) {body : List Char}
    (hbody : body.length < markup.length) (scope : Scope) :
    Agree depth (Walk.loop oracle self element index source body scope)
      (Walk.loop oracle self' element index source body scope)
      (Means oracle fun evaluator => node evaluator (processorAt sections depth evaluator)
        (Node.ofDirective (.loop element index source body)) scope) := by
  simp only [Node.ofDirective, node]
  refine evaluated_agree (repeated source fun evaluator item position =>
    nodes evaluator (processorAt sections depth evaluator) (Node.ofMarkup body)
      (.frame element item index position scope)) fun outcome => ?_
  cases outcome with
  | error e => exact .pure fun _ _ => rfl
  | ok value =>
    cases value with
    | arr items =>
      refine (Agree.mapM fun x _ => render_agree hself hbody
        (.frame element x.1 index x.2 scope)).bind fun outs houts => .pure fun evaluator hlike => ?_
      rw [means_forall₂ houts evaluator hlike, repeated, rounds_eq]
    | _ => exact .pure fun _ _ => rfl

lemma choice_agree {otherwise : Option (List Char)}
    (hotherwise : ∀ body ∈ otherwise, body.length < markup.length) {branches : List Branch}
    (hbranches : ∀ b ∈ branches, b.body.length < markup.length) (scope : Scope) :
    Agree depth (choice oracle self otherwise scope branches)
      (choice oracle self' otherwise scope branches)
      (Means oracle fun evaluator => node evaluator (processorAt sections depth evaluator)
        (Node.ofDirective (.conditional branches otherwise)) scope) := by
  induction branches with
  | nil =>
    cases otherwise with
    | none => exact .pure fun _ _ => rfl
    | some body => exact render_agree hself (hotherwise body rfl) scope
  | cons b branches ih =>
    simp only [node_conditional_cons _ (processorAt sections depth)]
    refine tested_agree (chosen _ _) fun outcome => ?_
    cases outcome with
    | error e => exact .pure fun _ _ => rfl
    | ok holds =>
      cases holds with
      | true => exact render_agree hself (hbranches b List.mem_cons_self) scope
      | false => exact ih fun b' hb' => hbranches b' (List.mem_cons_of_mem _ hb')

lemma directive_agree {d : Directive} (hd : d ∈ directives markup) (scope : Scope) :
    Agree depth (Walk.directive oracle self scope d) (Walk.directive oracle self' scope d)
      (Means oracle fun evaluator =>
        node evaluator (processorAt sections depth evaluator) (Node.ofDirective d) scope) := by
  cases d with
  | text t => exact .pure fun _ _ => rfl
  | expression source =>
    exact evaluated_agree (fun outcome _ => shown source outcome)
      fun outcome => .pure fun _ _ => rfl
  | style selector spread =>
    cases selector with
    | none => exact .pure fun _ _ => rfl
    | some source =>
      exact evaluated_agree (fun outcome _ => declarations (some source) spread outcome)
        fun outcome => .pure fun _ _ => rfl
  | inclusion source => exact inclusion_agree hself source scope
  | loop element index source body =>
    exact loop_agree hself element index source (length_body_lt hd List.mem_cons_self) scope
  | conditional branches otherwise =>
    exact choice_agree hself
      (fun body hb => length_body_lt hd (List.mem_append_right _ (by simpa using hb)))
      (fun b hb => length_body_lt hd (List.mem_append_left _ (List.mem_map_of_mem hb))) scope

end Markup

lemma entry_agree {entries : List Value}
    (hself : SettledBelow sections oracle self self' depth (.process (.arr entries)))
    {entry : Value} (h : entry ∈ entries) :
    Agree depth (Walk.entry sections self entry) (Walk.entry sections self' entry)
      (Means oracle fun evaluator => pageEntry sections
        (Press.renderWithin ⟨sections, evaluator⟩ (inclusionLimit - depth)) entry) := by
  cases entry with
  | arr items =>
    exact (hself _ _ (Call.measure_entry_lt depth h)).bind fun out hout => .pure
      fun evaluator hlike => congrArg Entry.ofOutput (hout evaluator hlike)
  | obj fields =>
    simp only [Walk.entry, pageEntry, contentNode]
    cases (((Value.obj fields).field? "type").bind Value.str?).bind sections.get? with
    | none => exact .pure fun _ _ => rfl
    | some markup =>
      exact (hself _ _ (Call.measure_section_lt depth markup _ _)).bind fun out hout => .pure
        fun evaluator hlike => congrArg Entry.ofOutput (hout evaluator hlike)
  | _ => exact .pure fun _ _ => rfl

lemma perform_agree {call : Call} (hself : SettledBelow sections oracle self self' depth call) :
    Agree depth (perform sections oracle self call) (perform sections oracle self' call)
      (Means oracle (answer sections (inclusionLimit - depth) call)) := by
  -- a call is made of calls with less in front of them
  cases call with
  | render markup scope =>
    refine (Agree.mapM fun d hd => directive_agree hself hd scope).bind
      fun outs houts => .pure fun evaluator hlike => ?_
    exact (congrArg Output.concat (means_forall₂ houts evaluator hlike)).trans
      (Press.renderWithin_eq ⟨sections, evaluator⟩ _ markup scope).symm
  | process content =>
    cases content with
    | arr entries =>
      refine (Agree.mapM fun entry h => entry_agree hself h).bind
        fun outs houts => .pure fun evaluator hlike => ?_
      exact (congrArg joinEntries (means_forall₂ houts evaluator hlike)).trans
        (congrArg joinEntries (processAll_eq sections _ entries).symm)
    | _ => exact .pure fun _ _ => rfl

end Step

/-! ### All calls -/

section Run

variable {σ : Type} (sections : Sections) (oracle : Oracle σ)

/-- The calls do what they are made of. -/
def Solves (self : Call → Walk σ Output) : Prop :=
  ∀ call state, self call state = perform sections oracle self call state

variable {sections oracle} {self : Call → Walk σ Output} {call : Call} {depth : Nat}

lemma perform_eq_run_of_settled
    (hbelow : SettledBelow sections oracle (run sections oracle) (run sections oracle) depth call)
    (hself : ∀ call' state', call'.measure state'.2 < call.measure depth →
      self call' state' = run sections oracle call' state') (s : σ) :
    perform sections oracle self call (s, depth) = run sections oracle call (s, depth) := by
  let guarded (call' : Call) : Walk σ Output := fun state' =>
    if _ : call'.measure state'.2 < call.measure depth then run sections oracle call' state'
    else none
  have hguarded : SettledBelow sections oracle self guarded depth call := by
    intro call' depth' hless s
    obtain ⟨out, s', h, -, hout⟩ := hbelow call' depth' hless s
    exact ⟨out, s', (hself call' (s, depth') hless).trans h, (dif_pos hless).trans h, hout⟩
  obtain ⟨out, s', h, h', -⟩ := perform_agree hguarded s
  rw [run]
  exact h.trans h'.symm

lemma run_agree (call : Call) (depth : Nat) :
    Agree depth (run sections oracle call) (run sections oracle call)
      (Means oracle (answer sections (inclusionLimit - depth) call)) := by
  -- by what is in front of a call
  have hbelow : SettledBelow sections oracle (run sections oracle) (run sections oracle) depth
      call := fun call' depth' _ => run_agree call' depth'
  intro s
  obtain ⟨out, s', h, -, hout⟩ := perform_agree hbelow s
  rw [perform_eq_run_of_settled hbelow (fun _ _ _ => rfl)] at h
  exact ⟨out, s', h, h, hout⟩
termination_by call.measure depth
decreasing_by assumption

lemma perform_eq_run {state : σ × Nat}
    (hself : ∀ call' state', call'.measure state'.2 < call.measure state.2 →
      self call' state' = run sections oracle call' state') :
    perform sections oracle self call state = run sections oracle call state :=
  perform_eq_run_of_settled (fun call' depth' _ => run_agree call' depth') hself _

lemma solves_run : Solves sections oracle (run sections oracle) :=
  fun _ _ => (perform_eq_run fun _ _ _ => rfl).symm

lemma Solves.eq_run (h : Solves sections oracle self) (call : Call) (state : σ × Nat) :
    self call state = run sections oracle call state := by
  rw [h, perform_eq_run fun call' state' _ => h.eq_run call' state']
termination_by call.measure state.2
decreasing_by assumption

end Run

/-- Calls come to an end, from every position of the counter and with every oracle, and leave the
counter as it was. What a call does is decided by calls with less in front of them, so that calls
that do what they are made of can do nothing else. If the oracle remembers nothing, what they make
is what a press makes. -/
theorem run_ends {σ : Type} (sections : Sections) (oracle : Oracle σ) :
    (∀ call s depth, ∃ out s', run sections oracle call (s, depth) = some (out, s', depth)) ∧
    (∀ self call state,
      (∀ call' state', call'.measure state'.2 < call.measure state.2 →
        self call' state' = run sections oracle call' state') →
      perform sections oracle self call state = run sections oracle call state) ∧
    (∀ self, Solves sections oracle self ↔ self = run sections oracle) ∧
    ∀ evaluator call depth, run sections (.ofEvaluator evaluator) call ((), depth) =
      some (answer sections (inclusionLimit - depth) call evaluator, (), depth) := by
  refine ⟨fun call s depth => ?_, fun self call state => perform_eq_run, fun self => ⟨?_, ?_⟩,
    fun evaluator call depth => ?_⟩
  · obtain ⟨out, s', h, -⟩ := run_agree call depth s
    exact ⟨out, s', h⟩
  · exact fun h => funext fun call => funext (h.eq_run call)
  · rintro rfl
    exact solves_run
  · obtain ⟨out, s', h, -, hout⟩ := run_agree call depth ()
    rw [h, hout evaluator fun _ _ _ => ⟨rfl, rfl⟩]

end Pressroom.Render

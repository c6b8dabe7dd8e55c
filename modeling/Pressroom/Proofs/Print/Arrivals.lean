import Pressroom.Proofs.Print.Sessions

/-!
Sessions that are dead when they arrive. A desk looks whether the session it has is alive before it
hands it out again, and does not look at one that was started just now. Main statement: over whole
runs the session that is handed out is alive, unless the first launcher that does not fail has
started one that is dead; such a session is handed out and kept like any other, and no launcher
behind is tried. So what is handed out is alive in all runs if and only if no launcher that comes to
be the first to succeed ever starts a dead session.
-/

namespace Pressroom.Desk

variable {W σ : Type}

/-! ### Starting with the first that succeeds -/

/-- The first launcher that does not fail starts a session, behind so many that fail. The worlds are
the one before the first of them and the one in which the session has just arrived. -/
inductive FirstStarted : List (Launcher (StateM W) σ) → W → ℕ → σ → W → Prop where
  | here {launcher : Launcher (StateM W) σ} {launchers : List (Launcher (StateM W) σ)} {w w' : W}
      {session : σ} (h : launcher.launch w = (.ok session, w')) :
      FirstStarted (launcher :: launchers) w 0 session w'
  | next {launcher : Launcher (StateM W) σ} {launchers : List (Launcher (StateM W) σ)}
      {w between w' : W} {fault : PrintFault} {failed : ℕ} {session : σ}
      (h : launcher.launch w = (.error fault, between))
      (hrest : FirstStarted launchers between failed session w') :
      FirstStarted (launcher :: launchers) w (failed + 1) session w'

section FirstStarted

variable {launchers : List (Launcher (StateM W) σ)} {w w' : W} {failed : ℕ} {session : σ}

lemma FirstStarted.unique (h : FirstStarted launchers w failed session w') {failed' : ℕ}
    {session' : σ} {w'' : W} (h' : FirstStarted launchers w failed' session' w'') :
    failed' = failed ∧ session' = session ∧ w'' = w' := by
  induction h generalizing failed' with
  | here h =>
    cases h' with
    | here h' =>
      cases h.symm.trans h'
      exact ⟨rfl, rfl, rfl⟩
    | next h' => cases h.symm.trans h'
  | next h _ ih =>
    cases h' with
    | here h' => cases h.symm.trans h'
    | next h' hrest' =>
      cases h.symm.trans h'
      obtain ⟨rfl, hsession, hw⟩ := ih hrest'
      exact ⟨rfl, hsession, hw⟩

lemma FirstStarted.start_watchedFrom (h : FirstStarted launchers w failed session w')
    (position : ℕ) (fault : PrintFault) (before : List (Attempt σ)) :
    ∃ attempts records, attempts.length = failed + 1 ∧
      (start fault (watchedFrom position launchers)).run (w, before) =
        (⟨.ok session, records⟩, (w', before ++ attempts)) := by
  induction h generalizing position fault before with
  | here h => exact ⟨[_], [], rfl, start_of_ok _ _ (watched_launch position before h)⟩
  | @next launcher launchers w between w' told failed session h hrest ih =>
    obtain ⟨attempts, records, hlength, hrun⟩ :=
      ih (position + 1) told (before ++ [⟨position, .error told⟩])
    refine ⟨⟨position, .error told⟩ :: attempts, launchRecord launcher.name told :: records,
      congrArg (· + 1) hlength, ?_⟩
    rw [watchedFrom, start_of_error _ _ (watched_launch position before h), hrun, List.append_assoc]
    rfl

lemma exists_firstStarted {fault : PrintFault}
    (h : ((start fault launchers).run w).1.value = .ok session) :
    ∃ failed w', FirstStarted launchers w failed session w' := by
  induction launchers generalizing w fault with
  | nil => cases h
  | cons launcher launchers ih =>
    rcases hlaunch : launcher.launch w with ⟨outcome, between⟩
    cases outcome with
    | ok started =>
      rw [start_of_ok _ _ hlaunch] at h
      cases h
      exact ⟨0, between, .here hlaunch⟩
    | error told =>
      rw [start_of_error _ _ hlaunch] at h
      obtain ⟨failed, w', hrest⟩ := ih h
      exact ⟨failed + 1, w', .next hlaunch hrest⟩

end FirstStarted

/-! ### Handing out -/

/-- A shop in which sessions are alive or dead as the world has it, so that to look at one changes
nothing. -/
def Shop.ofSight (launchers : List (Launcher (StateM W) σ)) (alive : σ → W → Bool)
    (print : σ → Printer (StateM W)) : Shop W σ where
  launchers
  isAlive session := fun w => (alive session w, w)
  print

/-- No living session is at hand. -/
def Vacant (alive : σ → W → Bool) (desk : Desk σ) (w : W) : Prop :=
  ∀ session, desk.session? = some session → alive session w = false

/-- How a session comes to be handed out, from the world in which it is asked for to the one in
which it is: it is at hand and is found alive; or none that lives is at hand and it is the first
that is started, the launchers behind being left alone. -/
inductive HandedOut (launchers : List (Launcher (StateM W) σ)) (alive : σ → W → Bool)
    (desk : Desk σ) (session : σ) : W → List (Attempt σ) → W → Prop where
  | again {w : W} (hdesk : desk.session? = some session) (halive : alive session w = true) :
      HandedOut launchers alive desk session w [] w
  | started {w w' : W} {failed : ℕ} {attempts : List (Attempt σ)} (hvacant : desk.Vacant alive w)
      (hfirst : FirstStarted launchers w failed session w')
      (hlength : attempts.length = failed + 1) :
      HandedOut launchers alive desk session w attempts w'

/-- No living session is at hand, and the first that is started is dead when it arrives. -/
def DeadOnArrival (launchers : List (Launcher (StateM W) σ)) (alive : σ → W → Bool)
    (desk : Desk σ) (session : σ) (w : W) : Prop :=
  desk.Vacant alive w ∧
    ∃ failed w', FirstStarted launchers w failed session w' ∧ alive session w' = false

/-- The world in which an answer is given, before anything is printed. -/
def Entry.moment (shop : Shop W σ) (entry : Entry W σ) : W :=
  (shop.step .acquire entry.desk entry.world).worldAfter

/-! ### Single events -/

section Step

variable {shop : Shop W σ} {event : Event W} {desk : Desk σ} {session : σ} {w : W}

lemma acquires_of_answer {answer : Except PrintFault σ}
    (h : (shop.step event desk w).answer = some answer) : event.acquires = true := by
  cases event with
  | acquire | print => rfl
  | release | meanwhile => cases h

lemma step_of_acquires (h : event.acquires = true) (shop : Shop W σ) (desk : Desk σ) (w : W) :
    (shop.step event desk w).answer = (shop.step .acquire desk w).answer ∧
      (shop.step event desk w).attempts = (shop.step .acquire desk w).attempts ∧
      (shop.step event desk w).desk = desk ∧ (shop.step event desk w).world = w := by
  cases event with
  | acquire => exact ⟨rfl, rfl, rfl, rfl⟩
  | print page options =>
    simp only [Shop.step]
    split <;> exact ⟨rfl, rfl, rfl, rfl⟩
  | release | meanwhile => cases h

lemma step_acquire_of_heard (h : desk.heard shop.isAlive w = some session) :
    shop.step .acquire desk w =
      ⟨.acquire, desk, w, [], some (.ok session), none, desk, desk.checked shop.isAlive w⟩ := by
  have hrun : (desk.acquireWatched shop.launchers shop.isAlive).run (w, []) =
      (.quiet (.ok session, desk), (desk.checked shop.isAlive w, [])) := by
    rw [acquireWatched, acquire_of_live _ ((heard_unnoticed []).trans h), checked_unnoticed]
  simp only [Shop.step, hrun]
  rfl

lemma step_acquire_of_unheard (h : desk.heard shop.isAlive w = none) :
    let started := (start .noLaunchers (watchedFrom 0 shop.launchers)).run
      (desk.checked shop.isAlive w, [])
    shop.step .acquire desk w = ⟨.acquire, desk, w, started.2.2, some started.1.value, none,
      ⟨started.1.value.toOption⟩, started.2.1⟩ := by
  have hrun : (desk.acquire (watchedFrom 0 shop.launchers) fun session =>
      unnoticed (shop.isAlive session)).run (w, []) = _ :=
    acquire_of_none _ ((heard_unnoticed []).trans h)
  rw [checked_unnoticed] at hrun
  simp only [Shop.step, acquireWatched, hrun]

lemma step_acquire_of_firstStarted (shop : Shop W σ) {w' : W} {failed : ℕ}
    (h : desk.heard shop.isAlive w = none)
    (hfirst : FirstStarted shop.launchers (desk.checked shop.isAlive w) failed session w') :
    ∃ attempts, attempts.length = failed + 1 ∧ shop.step .acquire desk w =
      ⟨.acquire, desk, w, attempts, some (.ok session), none, ⟨some session⟩, w'⟩ := by
  obtain ⟨attempts, records, hlength, hrun⟩ := hfirst.start_watchedFrom 0 .noLaunchers []
  refine ⟨attempts, hlength, ?_⟩
  rw [step_acquire_of_unheard h, hrun]
  rfl

lemma firstStarted_of_answer (h : desk.heard shop.isAlive w = none)
    (hanswer : (shop.step .acquire desk w).answer = some (.ok session)) :
    ∃ failed w', FirstStarted shop.launchers (desk.checked shop.isAlive w) failed session w' := by
  obtain ⟨attempts, hrun, -⟩ :=
    start_watchedFrom shop.launchers 0 .noLaunchers (desk.checked shop.isAlive w) []
  rw [step_acquire_of_unheard h, hrun] at hanswer
  exact exists_firstStarted (Option.some.inj hanswer)

end Step

/-! ### Runs -/

section Sight

variable {launchers : List (Launcher (StateM W) σ)} {alive : σ → W → Bool}
  {print : σ → Printer (StateM W)} {desk : Desk σ} {session : σ} {w : W}

lemma checked_ofSight : desk.checked (Shop.ofSight launchers alive print).isAlive w = w := by
  rw [checked]
  cases desk.session? <;> rfl

lemma vacant_of_unheard (h : desk.heard (Shop.ofSight launchers alive print).isAlive w = none) :
    desk.Vacant alive w := by
  intro session hdesk
  by_contra halive
  have hheard : desk.heard (Shop.ofSight launchers alive print).isAlive w = some session :=
    Option.filter_eq_some_iff.2 ⟨hdesk, eq_true_of_ne_false halive⟩
  exact Option.some_ne_none session (hheard.symm.trans h)

lemma step_handedOut {event : Event W}
    (h : ((Shop.ofSight launchers alive print).step event desk w).answer = some (.ok session)) :
    HandedOut launchers alive desk session w
      ((Shop.ofSight launchers alive print).step event desk w).attempts
      ((Shop.ofSight launchers alive print).step .acquire desk w).worldAfter := by
  -- by the two ways in which a session comes to the desk
  obtain ⟨hanswer, hattempts, -, -⟩ :=
    step_of_acquires (acquires_of_answer h) (Shop.ofSight launchers alive print) desk w
  rw [hanswer] at h
  rw [hattempts]
  cases hheard : desk.heard (Shop.ofSight launchers alive print).isAlive w with
  | some other =>
    obtain ⟨hdesk, halive⟩ := Option.filter_eq_some_iff.1 hheard
    rw [step_acquire_of_heard hheard, checked_ofSight] at h ⊢
    cases h
    exact .again hdesk halive
  | none =>
    obtain ⟨failed, w', hfirst⟩ := firstStarted_of_answer hheard h
    obtain ⟨attempts, hlength, hstep⟩ := step_acquire_of_firstStarted _ hheard hfirst
    rw [hstep]
    rw [checked_ofSight] at hfirst
    exact .started (vacant_of_unheard hheard) hfirst hlength

lemma HandedOut.alive_iff {attempts : List (Attempt σ)} {w' : W}
    (h : HandedOut launchers alive desk session w attempts w') :
    alive session w' = true ↔ ¬ DeadOnArrival launchers alive desk session w := by
  cases h with
  | again hdesk halive =>
    refine iff_of_true halive fun hdead => ?_
    exact Bool.false_ne_true ((hdead.1 session hdesk).symm.trans halive)
  | started hvacant hfirst =>
    constructor
    · rintro halive ⟨-, failed', w'', hfirst', hdead⟩
      obtain ⟨-, -, rfl⟩ := hfirst.unique hfirst'
      exact Bool.false_ne_true (hdead.symm.trans halive)
    · intro hnot
      by_contra hdead
      exact hnot ⟨hvacant, _, _, hfirst, Bool.eq_false_iff.2 hdead⟩

lemma exists_step_of_mem {shop : Shop W σ} {events : List (Event W)} {entry : Entry W σ}
    (h : entry ∈ shop.run events desk w) : ∃ event desk w, entry = shop.step event desk w := by
  induction events generalizing desk w with
  | nil => cases h
  | cons event events ih =>
    rcases List.mem_cons.1 h with rfl | h
    · exact ⟨event, desk, w, rfl⟩
    · exact ih h

/-- Whatever happened before, a session is handed out in one of the two ways, and is kept. -/
lemma handedOut_of_mem_run {events : List (Event W)} {entry : Entry W σ}
    (h : entry ∈ (Shop.ofSight launchers alive print).run events desk w)
    (hanswer : entry.answer = some (.ok session)) :
    HandedOut launchers alive entry.desk session entry.world entry.attempts
        (entry.moment (Shop.ofSight launchers alive print)) ∧
      entry.deskAfter = ⟨some session⟩ := by
  obtain ⟨event, desk, w, rfl⟩ := exists_step_of_mem h
  obtain ⟨-, -, hdesk, hworld⟩ :=
    step_of_acquires (acquires_of_answer hanswer) (Shop.ofSight launchers alive print) desk w
  refine ⟨?_, ((step_sound _ event desk w).active session hanswer).1⟩
  rw [Entry.moment, hdesk, hworld]
  exact step_handedOut hanswer

end Sight

/-- **Who is handed out alive.** In every run, a session that is handed out is at hand and alive or
the first that is started, and it is kept; it is alive just then unless it was dead when it arrived.
So all sessions that are handed out in all runs are alive if and only if the first one that the
launchers start is alive when it arrives, in whatever world they are tried. -/
theorem run_hands_out_living_iff (launchers : List (Launcher (StateM W) σ)) (alive : σ → W → Bool)
    (print : σ → Printer (StateM W)) :
    (∀ events w, ∀ entry ∈ (Shop.ofSight launchers alive print).run events idle w, ∀ session,
      entry.answer = some (.ok session) →
        HandedOut launchers alive entry.desk session entry.world entry.attempts
          (entry.moment (Shop.ofSight launchers alive print)) ∧
        entry.deskAfter = ⟨some session⟩ ∧
        (alive session (entry.moment (Shop.ofSight launchers alive print)) = true ↔
          ¬ DeadOnArrival launchers alive entry.desk session entry.world)) ∧
    ((∀ events w, ∀ entry ∈ (Shop.ofSight launchers alive print).run events idle w, ∀ session,
      entry.answer = some (.ok session) →
        alive session (entry.moment (Shop.ofSight launchers alive print)) = true) ↔
      ∀ w failed session w', FirstStarted launchers w failed session w' →
        alive session w' = true) := by
  refine ⟨fun events w entry hentry session hanswer => ?_, ?_, ?_⟩
  · obtain ⟨hhanded, hafter⟩ := handedOut_of_mem_run hentry hanswer
    exact ⟨hhanded, hafter, hhanded.alive_iff⟩
  · -- a run that asks once is enough to find a session that is dead when it arrives
    intro hall w failed session w' hfirst
    have hfirst' : FirstStarted launchers
        ((idle : Desk σ).checked (Shop.ofSight launchers alive print).isAlive w) failed session w' :=
      hfirst
    obtain ⟨attempts, -, hstep⟩ :=
      step_acquire_of_firstStarted (Shop.ofSight launchers alive print) rfl hfirst'
    have halive := hall [.acquire] w _ List.mem_cons_self session (by rw [hstep])
    rwa [Entry.moment, step_desk, hstep, hstep] at halive
  · intro hliving events w entry hentry session hanswer
    obtain ⟨hhanded, -⟩ := handedOut_of_mem_run hentry hanswer
    rw [hhanded.alive_iff]
    rintro ⟨-, failed, w', hfirst, hdead⟩
    exact Bool.false_ne_true (hdead.symm.trans (hliving _ failed session w' hfirst))

/-- A launcher that always starts a session, which is told by whether it is alive. -/
def steadyLauncher (name : String) (alive : Bool) : Launcher (StateM Unit) Bool where
  name
  launch := fun w => (.ok alive, w)

/-- A dead session is handed out though the next launcher would start a living one, which is not
tried. -/
theorem run_hands_out_dead :
    ((Shop.ofSight [steadyLauncher "first" false, steadyLauncher "second" true]
      (fun session _ => session) fun _ _ _ => pure (.error .noLaunchers)).run [.acquire] idle ()).map
        (fun entry => (entry.answer, entry.attempts.map (·.launcher))) =
      [(some (.ok false), [0])] :=
  rfl

end Pressroom.Desk

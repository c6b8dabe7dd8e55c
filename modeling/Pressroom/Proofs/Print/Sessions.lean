import Mathlib.Data.List.Basic
import Mathlib.Data.List.Range
import Pressroom.Print.Desk
import Pressroom.Proofs.Watch

/-!
The sessions of a desk over whole runs. A run is a row of events: sessions are asked for, pages are
printed, the desk gives its session up, and in between the world goes on, in which sessions die.
A launcher may start a session once and fail the next time, so what launchers do is watched, attempt
by attempt. Main statement: attempts are made where no living session is at hand, one launcher after
the other up to the first that succeeds, and a session that was handed out is handed out again for
as long as it lives and is not given up.
-/

namespace Pressroom.Desk

/-! ### Watched launchers -/

structure Attempt (σ : Type) where
  /-- The position of the launcher in the list. -/
  launcher : Nat
  outcome : Except PrintFault σ

def Attempt.fault? {σ : Type} (attempt : Attempt σ) : Option PrintFault :=
  match attempt.outcome with
  | .ok _ => none
  | .error fault => some fault

variable {W σ : Type}

def watched (position : Nat) (launcher : Launcher (StateM W) σ) :
    Launcher (Watch W (Attempt σ)) σ where
  name := launcher.name
  launch := noted (fun outcome => [⟨position, outcome⟩]) launcher.launch

/-- The launchers of a list, watched from a position on. -/
def watchedFrom (position : Nat) :
    List (Launcher (StateM W) σ) → List (Launcher (Watch W (Attempt σ)) σ)
  | [] => []
  | launcher :: launchers => watched position launcher :: watchedFrom (position + 1) launchers

/-! ### Attempts in turn -/

/-- The fault of the last attempt, or another one where there is no attempt that failed last. -/
def lastFault (fault : PrintFault) (attempts : List (Attempt σ)) : PrintFault :=
  (attempts.getLast?.bind Attempt.fault?).getD fault

/-- Attempts that go through `count` launchers in their order, from one at a position on, and stop
at the first session; and the answer that comes of them, with a fault for no launchers at all. -/
structure InTurn (position count : Nat) (fault : PrintFault) (attempts : List (Attempt σ))
    (answer : Except PrintFault σ) : Prop where
  order : attempts.map (·.launcher) = List.range' position attempts.length
  length_le : attempts.length ≤ count
  stops : ∀ attempt ∈ attempts.dropLast, attempt.fault?.isSome
  ok_iff : ∀ session,
    answer = .ok session ↔ attempts.getLast?.map (·.outcome) = some (.ok session)
  error_iff : ∀ told, answer = .error told ↔
    attempts.length = count ∧ (∀ attempt ∈ attempts, attempt.fault?.isSome) ∧
      told = lastFault fault attempts

lemma inTurn_nil (position : Nat) (fault : PrintFault) :
    InTurn (σ := σ) position 0 fault [] (.error fault) where
  order := rfl
  length_le := Nat.le_refl 0
  stops := by simp
  ok_iff := by simp
  error_iff := fun told => by
    simp only [Except.error.injEq, List.length_nil, List.not_mem_nil, false_implies, implies_true,
      true_and]
    exact eq_comm

lemma inTurn_ok (position count : Nat) (fault : PrintFault) (session : σ) :
    InTurn position (count + 1) fault [⟨position, .ok session⟩] (.ok session) where
  order := rfl
  length_le := Nat.succ_le_succ (Nat.zero_le count)
  stops := by simp
  ok_iff := by simp
  error_iff := by simp [Attempt.fault?]

lemma lastFault_cons (position : Nat) (fault told : PrintFault) (attempts : List (Attempt σ))
    (h : ∀ attempt ∈ attempts, attempt.fault?.isSome) :
    lastFault fault (⟨position, .error told⟩ :: attempts) = lastFault told attempts := by
  rcases attempts.eq_nil_or_concat' with rfl | ⟨before, last, rfl⟩
  · rfl
  · obtain ⟨f, hf⟩ := Option.isSome_iff_exists.1 (h last (by simp))
    rw [lastFault, lastFault, ← List.cons_append, List.getLast?_concat, List.getLast?_concat,
      Option.bind_some, hf, Option.getD_some, Option.getD_some]

lemma InTurn.cons {position count : Nat} {fault told : PrintFault} {attempts : List (Attempt σ)}
    {answer : Except PrintFault σ} (h : InTurn (position + 1) count told attempts answer) :
    InTurn position (count + 1) fault (⟨position, .error told⟩ :: attempts) answer where
  order := by
    rw [List.map_cons, h.order, List.length_cons, List.range'_succ]
  length_le := Nat.succ_le_succ h.length_le
  stops := by
    cases attempts with
    | nil => simp
    | cons attempt attempts =>
      intro a ha
      rcases List.mem_cons.1 ha with rfl | ha
      · rfl
      · exact h.stops a ha
  ok_iff := by
    intro session
    rw [h.ok_iff]
    cases attempts with
    | nil => simp
    | cons attempt attempts => rw [List.getLast?_cons_cons]
  error_iff := by
    intro last
    rw [h.error_iff, List.length_cons, Nat.add_right_cancel_iff]
    refine and_congr_right fun _ => ⟨?_, ?_⟩
    · rintro ⟨hall, rfl⟩
      exact ⟨List.forall_mem_cons.2 ⟨rfl, hall⟩, (lastFault_cons _ _ _ _ hall).symm⟩
    · rintro ⟨hall, rfl⟩
      have hall := (List.forall_mem_cons.1 hall).2
      exact ⟨hall, lastFault_cons _ _ _ _ hall⟩

/-- The fault for no launchers is told if there are none, and if the last one itself fails with it.
-/
lemma InTurn.noLaunchers_iff {count : Nat} {attempts : List (Attempt σ)}
    {answer : Except PrintFault σ} (h : InTurn 0 count .noLaunchers attempts answer) :
    answer = .error .noLaunchers ↔ count = 0 ∨
      attempts.length = count ∧ attempts.getLast?.bind Attempt.fault? = some .noLaunchers := by
  rw [h.error_iff]
  constructor
  · rintro ⟨hlength, hall, htold⟩
    rcases attempts.eq_nil_or_concat' with rfl | ⟨before, last, rfl⟩
    · exact .inl hlength.symm
    · obtain ⟨f, hf⟩ := Option.isSome_iff_exists.1 (hall last (by simp))
      have hlast : ((before ++ [last]).getLast?.bind Attempt.fault?) = some f := by simp [hf]
      rw [lastFault, hlast, Option.getD_some] at htold
      exact .inr ⟨hlength, htold ▸ hlast⟩
  · rintro (rfl | ⟨hlength, hlast⟩)
    · have hnil : attempts = [] := List.length_eq_zero_iff.1 (Nat.le_zero.1 h.length_le)
      subst hnil
      exact ⟨rfl, by simp, rfl⟩
    · refine ⟨hlength, fun attempt hattempt => ?_, by rw [lastFault, hlast, Option.getD_some]⟩
      obtain ⟨last, hgetLast, hfault⟩ := Option.bind_eq_some_iff.1 hlast
      rw [← List.dropLast_append_getLast? last hgetLast] at hattempt
      rcases List.mem_append.1 hattempt with hattempt | hattempt
      · exact h.stops attempt hattempt
      · rw [List.mem_singleton.1 hattempt, hfault]
        rfl

/-! ### Starting a session -/

section Start

variable {launcher : Launcher (StateM W) σ} {w w' : W}

lemma start_of_ok {session : σ} (launchers : List (Launcher (StateM W) σ)) (fault : PrintFault)
    (h : launcher.launch w = (.ok session, w')) :
    (start fault (launcher :: launchers)).run w = (.quiet (.ok session), w') := by
  rw [start, StateT.run_bind]
  change StateT.run _ _ = _ at h
  rw [h]
  rfl

lemma start_of_error {told : PrintFault} (launchers : List (Launcher (StateM W) σ))
    (fault : PrintFault) (h : launcher.launch w = (.error told, w')) :
    (start fault (launcher :: launchers)).run w =
      (⟨((start told launchers).run w').1.value,
        launchRecord launcher.name told :: ((start told launchers).run w').1.records⟩,
      ((start told launchers).run w').2) := by
  rw [start, StateT.run_bind]
  change StateT.run _ _ = _ at h
  rw [h]
  rfl

lemma watched_launch {outcome : Except PrintFault σ} (position : Nat) (before : List (Attempt σ))
    (h : launcher.launch w = (outcome, w')) :
    (watched position launcher).launch (w, before) =
      (outcome, (w', before ++ [⟨position, outcome⟩])) := by
  simp only [watched, noted, h]

end Start

lemma start_watchedFrom (launchers : List (Launcher (StateM W) σ)) (position : Nat)
    (fault : PrintFault) (w : W) (before : List (Attempt σ)) :
    ∃ attempts,
      (start fault (watchedFrom position launchers)).run (w, before) =
        (((start fault launchers).run w).1,
          ((start fault launchers).run w).2, before ++ attempts) ∧
      InTurn position launchers.length fault attempts
        ((start fault launchers).run w).1.value := by
  induction launchers generalizing position fault w before with
  | nil => exact ⟨[], by rw [List.append_nil]; rfl, inTurn_nil position fault⟩
  | cons launcher launchers ih =>
    rcases hlaunch : launcher.launch w with ⟨outcome, w'⟩
    have hwatched := watched_launch position before hlaunch
    rw [watchedFrom]
    cases outcome with
    | ok session =>
      refine ⟨[⟨position, .ok session⟩], ?_, ?_⟩
      · rw [start_of_ok _ _ hlaunch, start_of_ok _ _ hwatched]
      · rw [start_of_ok _ _ hlaunch]
        exact inTurn_ok position launchers.length fault session
    | error told =>
      obtain ⟨attempts, hrun, hturn⟩ :=
        ih (position + 1) told w' (before ++ [⟨position, .error told⟩])
      refine ⟨⟨position, .error told⟩ :: attempts, ?_, ?_⟩
      · rw [start_of_error _ _ hlaunch, start_of_error _ _ hwatched, hrun, List.append_assoc]
        rfl
      · rw [start_of_error _ _ hlaunch]
        exact hturn.cons

/-! ### Asking for a session -/

section Acquire

variable {isAlive : σ → StateM W Bool} {desk : Desk σ} {w : W}

/-- The session at hand, if it is found alive. -/
def heard (isAlive : σ → StateM W Bool) (desk : Desk σ) (w : W) : Option σ :=
  desk.session?.filter fun session => ((isAlive session).run w).1

/-- The world when the session at hand, if there is one, has been asked. -/
def checked (isAlive : σ → StateM W Bool) (desk : Desk σ) (w : W) : W :=
  desk.session?.elim w fun session => ((isAlive session).run w).2

lemma alive?_run (isAlive : σ → StateM W Bool) (desk : Desk σ) (w : W) :
    (desk.alive? isAlive).run w = (desk.heard isAlive w, desk.checked isAlive w) := by
  rw [alive?, heard, checked]
  cases desk.session? with
  | none => rfl
  | some session =>
    dsimp only [Option.filter, Option.elim]
    rw [StateT.run_bind]
    rfl

lemma acquire_of_live {session : σ} (launchers : List (Launcher (StateM W) σ))
    (h : desk.heard isAlive w = some session) :
    (desk.acquire launchers isAlive).run w =
      (.quiet (.ok session, desk), desk.checked isAlive w) := by
  rw [acquire, StateT.run_bind, alive?_run, h]
  rfl

lemma acquire_of_none (launchers : List (Launcher (StateM W) σ))
    (h : desk.heard isAlive w = none) :
    (desk.acquire launchers isAlive).run w =
      let started := (start .noLaunchers launchers).run (desk.checked isAlive w)
      (⟨(started.1.value, ⟨started.1.value.toOption⟩), started.1.records⟩, started.2) := by
  rw [acquire, StateT.run_bind, alive?_run, h]
  rfl

/-- Asking for a session, with all attempts being watched. -/
def acquireWatched (launchers : List (Launcher (StateM W) σ)) (isAlive : σ → StateM W Bool)
    (desk : Desk σ) : Watch W (Attempt σ) (Logged (Except PrintFault σ × Desk σ)) :=
  desk.acquire (watchedFrom 0 launchers) fun session => unnoticed (isAlive session)

lemma heard_unnoticed (before : List (Attempt σ)) :
    desk.heard (fun session => unnoticed (isAlive session)) (w, before) = desk.heard isAlive w :=
  rfl

lemma checked_unnoticed (before : List (Attempt σ)) :
    desk.checked (fun session => unnoticed (isAlive session)) (w, before) =
      (desk.checked isAlive w, before) := by
  rw [checked, checked]
  cases desk.session? <;> rfl

/-- What comes of asking for a session. -/
structure Answered (launchers : List (Launcher (StateM W) σ)) (isAlive : σ → StateM W Bool)
    (desk : Desk σ) (w : W) (attempts : List (Attempt σ)) (answer : Except PrintFault σ)
    (after : Desk σ) : Prop where
  of_some : ∀ session, desk.heard isAlive w = some session →
    attempts = [] ∧ answer = .ok session ∧ after = desk
  of_none : desk.heard isAlive w = none → InTurn 0 launchers.length .noLaunchers attempts answer
  after_eq : after = ⟨answer.toOption⟩

lemma acquireWatched_run (launchers : List (Launcher (StateM W) σ)) (isAlive : σ → StateM W Bool)
    (desk : Desk σ) (w : W) :
    ∃ attempts answer after records w',
      (desk.acquireWatched launchers isAlive).run (w, []) =
        (⟨(answer, after), records⟩, w', attempts) ∧
      (desk.acquire launchers isAlive).run w = (⟨(answer, after), records⟩, w') ∧
      Answered launchers isAlive desk w attempts answer after := by
  cases h : desk.heard isAlive w with
  | some session =>
    have hsession : desk.session? = some session := (Option.filter_eq_some_iff.1 h).1
    refine ⟨[], .ok session, desk, [], desk.checked isAlive w, ?_, acquire_of_live launchers h, ?_⟩
    · rw [acquireWatched, acquire_of_live _ ((heard_unnoticed []).trans h), checked_unnoticed]
      rfl
    · refine ⟨?_, fun hnone => absurd (h.symm.trans hnone) (Option.some_ne_none session), ?_⟩
      · rintro other hother
        cases h.symm.trans hother
        exact ⟨rfl, rfl, rfl⟩
      · cases desk
        exact congrArg Desk.mk hsession
  | none =>
    obtain ⟨attempts, hrun, hturn⟩ :=
      start_watchedFrom launchers 0 .noLaunchers (desk.checked isAlive w) []
    refine ⟨attempts, _, _, _, _, ?_, acquire_of_none launchers h, ?_⟩
    · rw [acquireWatched, acquire_of_none _ ((heard_unnoticed []).trans h), checked_unnoticed,
        hrun, List.nil_append]
    · exact ⟨fun session hsession => absurd (h.symm.trans hsession).symm (Option.some_ne_none _),
        fun _ => hturn, rfl⟩

end Acquire

/-! ### Events -/

/-- What a desk works with. -/
structure Shop (W σ : Type) where
  launchers : List (Launcher (StateM W) σ)
  isAlive : σ → StateM W Bool
  print : σ → Printer (StateM W)

/-- What happens to a desk. -/
inductive Event (W : Type) where
  /-- A session is asked for. -/
  | acquire
  /-- A session is asked for, and a page is printed with it. -/
  | print (page : List Char) (options : PrintOptions)
  | release
  /-- The world goes on. Sessions may die by that. -/
  | meanwhile (change : W → W)

/-- Whether a session is asked for. -/
def Event.acquires : Event W → Bool
  | acquire | print _ _ => true
  | release | meanwhile _ => false

/-- An event, what it found, what came of it and what it left. -/
structure Entry (W σ : Type) where
  event : Event W
  desk : Desk σ
  world : W
  attempts : List (Attempt σ)
  /-- The session that was handed out or the fault, if a session was asked for. -/
  answer : Option (Except PrintFault σ)
  /-- What a session made of a page, if there were both. -/
  printed : Option (Except PrintFault ByteArray)
  deskAfter : Desk σ
  worldAfter : W

namespace Shop

variable (shop : Shop W σ)

def step (event : Event W) (desk : Desk σ) (w : W) : Entry W σ :=
  let acquired := (desk.acquireWatched shop.launchers shop.isAlive).run (w, [])
  let (answer, deskAfter) := acquired.1.value
  let (world, attempts) := acquired.2
  match event with
  | .acquire => ⟨event, desk, w, attempts, some answer, none, deskAfter, world⟩
  | .print page options =>
    match answer with
    | .error _ => ⟨event, desk, w, attempts, some answer, none, deskAfter, world⟩
    | .ok session =>
      let (printed, world) := (shop.print session page options).run world
      ⟨event, desk, w, attempts, some answer, some printed, deskAfter, world⟩
  | .release => ⟨event, desk, w, [], none, none, desk.release, w⟩
  | .meanwhile change => ⟨event, desk, w, [], none, none, desk, change w⟩

def run : List (Event W) → Desk σ → W → List (Entry W σ)
  | [], _, _ => []
  | event :: events, desk, w =>
    shop.step event desk w ::
      run events (shop.step event desk w).deskAfter (shop.step event desk w).worldAfter

end Shop

/-- What holds of a single event. -/
structure Entry.Sound (shop : Shop W σ) (entry : Entry W σ) : Prop where
  /-- Attempts are made only where a session is asked for and none that lives is at hand. -/
  attempts_only : entry.attempts ≠ [] →
    entry.event.acquires ∧ entry.desk.heard shop.isAlive entry.world = none
  /-- They go through the launchers in turn, and the answer comes of them. -/
  in_turn : entry.event.acquires → entry.desk.heard shop.isAlive entry.world = none →
    ∃ answer, entry.answer = some answer ∧
      InTurn 0 shop.launchers.length .noLaunchers entry.attempts answer ∧
      (answer = .error .noLaunchers ↔ shop.launchers = [] ∨
        entry.attempts.length = shop.launchers.length ∧
          entry.attempts.getLast?.bind Attempt.fault? = some .noLaunchers)
  /-- A living session is handed out as it is. -/
  reuse : entry.event.acquires → ∀ session,
    entry.desk.heard shop.isAlive entry.world = some session →
      entry.answer = some (.ok session) ∧ entry.deskAfter = entry.desk
  /-- The desk keeps the session that it hands out. -/
  active : ∀ session, entry.answer = some (.ok session) →
    entry.deskAfter = ⟨some session⟩ ∧ entry.deskAfter.isActive
  /-- Where there is none to hand out, it keeps none. -/
  inactive : ∀ fault, entry.answer = some (.error fault) → entry.deskAfter.isActive = false
  /-- What does not ask for a session gets no answer, and only giving it up changes the desk. -/
  unasked : entry.event.acquires = false → entry.answer = none ∧
    (entry.event ≠ .release → entry.deskAfter = entry.desk)
  released : entry.event = .release → entry.deskAfter = idle
  /-- Printing, well or not, leaves the desk as it was when the session was handed out. -/
  printed : ∀ outcome, entry.printed = some outcome →
    entry.deskAfter = (shop.step .acquire entry.desk entry.world).deskAfter ∧
      ∃ session, entry.answer = some (.ok session) ∧ entry.deskAfter = ⟨some session⟩
  /-- Launchers that are not watched come to the same. -/
  plain : ∀ answer, entry.answer = some answer →
    ((entry.desk.acquire shop.launchers shop.isAlive).run entry.world).1.value =
      (answer, entry.deskAfter)

/-! ### Runs -/

section Runs

variable {shop : Shop W σ} {entry : Entry W σ}

lemma sound_of_answered {event : Event W} {desk : Desk σ} {w w' : W}
    {attempts : List (Attempt σ)} {answer : Except PrintFault σ} {after : Desk σ}
    {printed : Option (Except PrintFault ByteArray)}
    (h : Answered shop.launchers shop.isAlive desk w attempts answer after)
    (hplain : ((desk.acquire shop.launchers shop.isAlive).run w).1.value = (answer, after))
    (hacquire : (shop.step .acquire desk w).deskAfter = after)
    (hevent : event.acquires = true)
    (hprinted : printed.isSome → ∃ session, answer = .ok session) :
    Entry.Sound shop ⟨event, desk, w, attempts, some answer, printed, after, w'⟩ where
  attempts_only hne := by
    refine ⟨hevent, Option.eq_none_iff_forall_ne_some.2 fun session hsession => hne ?_⟩
    exact (h.of_some session hsession).1
  in_turn _ hnone := by
    have hturn := h.of_none hnone
    exact ⟨answer, rfl, hturn, hturn.noLaunchers_iff.trans (or_congr_left List.length_eq_zero_iff)⟩
  reuse _ session hsession := by
    obtain ⟨-, hanswer, hafter⟩ := h.of_some session hsession
    exact ⟨congrArg some hanswer, hafter⟩
  active session hanswer := by
    cases hanswer
    rw [h.after_eq]
    exact ⟨rfl, rfl⟩
  inactive fault hanswer := by
    cases hanswer
    rw [h.after_eq]
    rfl
  unasked hasks := absurd (hasks.symm.trans hevent) Bool.false_ne_true
  released hrelease := by
    cases hrelease
    cases hevent
  printed outcome houtcome := by
    cases houtcome
    obtain ⟨session, rfl⟩ := hprinted rfl
    exact ⟨hacquire.symm, session, rfl, h.after_eq⟩
  plain other hother := by
    cases hother
    exact hplain

lemma sound_of_unasked {event : Event W} {desk after : Desk σ} {w w' : W}
    (hevent : event.acquires = false) (hsame : event ≠ .release → after = desk)
    (hreleased : event = .release → after = idle) :
    Entry.Sound shop ⟨event, desk, w, [], none, none, after, w'⟩ where
  attempts_only hne := absurd rfl hne
  in_turn hasks := absurd (hevent.symm.trans hasks) Bool.false_ne_true
  reuse hasks := absurd (hevent.symm.trans hasks) Bool.false_ne_true
  active _ hanswer := nomatch hanswer
  inactive _ hanswer := nomatch hanswer
  unasked _ := ⟨rfl, hsame⟩
  released := hreleased
  printed _ houtcome := nomatch houtcome
  plain _ hanswer := nomatch hanswer

lemma step_sound (shop : Shop W σ) (event : Event W) (desk : Desk σ) (w : W) :
    (shop.step event desk w).Sound shop := by
  obtain ⟨attempts, answer, after, records, w', hwatched, hplain, hanswered⟩ :=
    acquireWatched_run shop.launchers shop.isAlive desk w
  have hvalue : ((desk.acquire shop.launchers shop.isAlive).run w).1.value = (answer, after) :=
    congrArg (·.1.value) hplain
  have hacquire : shop.step .acquire desk w =
      ⟨.acquire, desk, w, attempts, some answer, none, after, w'⟩ := by
    simp only [Shop.step, hwatched]
  have hafter : (shop.step .acquire desk w).deskAfter = after := congrArg Entry.deskAfter hacquire
  cases event with
  | acquire =>
    rw [hacquire]
    exact sound_of_answered hanswered hvalue hafter rfl (nomatch ·)
  | print page options =>
    cases answer with
    | error fault =>
      have hprint : shop.step (.print page options) desk w =
          ⟨.print page options, desk, w, attempts, some (.error fault), none, after, w'⟩ := by
        simp only [Shop.step, hwatched]
      rw [hprint]
      exact sound_of_answered hanswered hvalue hafter rfl (nomatch ·)
    | ok session =>
      have hprint : shop.step (.print page options) desk w =
          ⟨.print page options, desk, w, attempts, some (.ok session),
            some ((shop.print session page options).run w').1, after,
            ((shop.print session page options).run w').2⟩ := by
        simp only [Shop.step, hwatched]
        rfl
      rw [hprint]
      exact sound_of_answered hanswered hvalue hafter rfl fun _ => ⟨session, rfl⟩
  | release => exact sound_of_unasked rfl (fun h => absurd rfl h) fun _ => rfl
  | meanwhile change => exact sound_of_unasked rfl (fun _ => rfl) nofun

lemma step_desk (shop : Shop W σ) (event : Event W) (desk : Desk σ) (w : W) :
    (shop.step event desk w).desk = desk := by
  cases event with
  | print page options =>
    simp only [Shop.step]
    split <;> rfl
  | _ => rfl

lemma run_sound (shop : Shop W σ) (events : List (Event W)) (desk : Desk σ) (w : W) :
    ∀ entry ∈ shop.run events desk w, entry.Sound shop := by
  induction events generalizing desk w with
  | nil => simp [Shop.run]
  | cons event events ih =>
    rw [Shop.run, List.forall_mem_cons]
    exact ⟨step_sound shop event desk w, ih _ _⟩

lemma run_behind {events : List (Event W)} {desk : Desk σ} {w : W} {before rest : List (Entry W σ)}
    (h : shop.run events desk w = before ++ entry :: rest) :
    ∃ events', rest = shop.run events' entry.deskAfter entry.worldAfter := by
  induction before generalizing events desk w with
  | nil =>
    cases events with
    | nil => cases h
    | cons event events =>
      obtain ⟨rfl, rfl⟩ := List.cons.inj h
      exact ⟨events, rfl⟩
  | cons other before ih =>
    cases events with
    | nil => cases h
    | cons event events => exact ih (List.cons.inj h).2

/-- The session stays at hand: it is not given up, and it is alive whenever one is asked for. -/
def Entry.Undisturbed (shop : Shop W σ) (session : σ) (entry : Entry W σ) : Prop :=
  entry.event ≠ .release ∧
    (entry.event.acquires → ((shop.isAlive session).run entry.world).1 = true)

/-- The session at hand is what is handed out, if one is asked for, and no launcher is tried. -/
def Entry.HandsOut (session : σ) (entry : Entry W σ) : Prop :=
  entry.deskAfter = ⟨some session⟩ ∧ entry.attempts = [] ∧
    (entry.event.acquires → entry.answer = some (.ok session))

lemma Entry.Sound.handsOut {session : σ} (h : entry.Sound shop)
    (hdesk : entry.desk = ⟨some session⟩) (hkept : entry.Undisturbed shop session) :
    entry.HandsOut session := by
  obtain ⟨hrelease, halive⟩ := hkept
  cases hasks : entry.event.acquires with
  | true =>
    have hheard : entry.desk.heard shop.isAlive entry.world = some session := by
      rw [hdesk]
      exact Option.filter_eq_some_iff.2 ⟨rfl, halive hasks⟩
    obtain ⟨hanswer, hafter⟩ := h.reuse hasks session hheard
    refine ⟨hafter.trans hdesk, ?_, fun _ => hanswer⟩
    by_contra hne
    exact Option.some_ne_none session (hheard.symm.trans (h.attempts_only hne).2)
  | false =>
    refine ⟨((h.unasked hasks).2 hrelease).trans hdesk, ?_, fun h => ?_⟩
    · by_contra hne
      exact Bool.false_ne_true (hasks.symm.trans (h.attempts_only hne).1)
    · exact absurd (hasks.symm.trans h) Bool.false_ne_true

lemma run_handsOut {session : σ} {events : List (Event W)} {w : W}
    {kept after : List (Entry W σ)} (h : shop.run events ⟨some session⟩ w = kept ++ after)
    (hkept : ∀ entry ∈ kept, entry.Undisturbed shop session) :
    ∀ entry ∈ kept, entry.HandsOut session := by
  -- by induction on the events: the desk goes from each to the next with the session at hand
  induction kept generalizing events w with
  | nil => simp
  | cons first kept ih =>
    cases events with
    | nil => cases h
    | cons event events =>
      obtain ⟨rfl, hrest⟩ := List.cons.inj h
      obtain ⟨hfirst, hkept⟩ := List.forall_mem_cons.1 hkept
      have hhands : Entry.HandsOut session (shop.step event ⟨some session⟩ w) :=
        (step_sound shop event ⟨some session⟩ w).handsOut (step_desk ..) hfirst
      rw [hhands.1] at hrest
      exact List.forall_mem_cons.2 ⟨hhands, ih hrest hkept⟩

end Runs

/-- **Sessions in whole runs.** Launchers are tried where a session is asked for and none that lives
is at hand, in turn up to the first that starts one; the desk keeps what it hands out, and keeps
nothing where nothing can be had; and what it has handed out once it hands out again, without a try,
until the session is found dead when one is asked for or is given up. That there are no launchers is
said if there are none, and if the last of them fails by saying so. -/
theorem run_sessions (shop : Shop W σ) (events : List (Event W)) (w : W) :
    (∀ entry ∈ shop.run events idle w, entry.Sound shop) ∧
    ∀ before first kept after session,
      shop.run events idle w = before ++ first :: (kept ++ after) →
      first.answer = some (.ok session) →
      (∀ entry ∈ kept, entry.Undisturbed shop session) →
      ∀ entry ∈ kept, entry.HandsOut session := by
  have hsound := run_sound shop events idle w
  refine ⟨hsound, fun before first kept after session hrun hfirst hkept => ?_⟩
  obtain ⟨events', hbehind⟩ := run_behind hrun
  have hmem : first ∈ shop.run events idle w := by rw [hrun]; simp
  rw [((hsound first hmem).active session hfirst).1] at hbehind
  exact run_handsOut hbehind.symm hkept

/-- A launcher that fails as if there were none. -/
def emptyHanded : Launcher (StateM Bool) Bool where
  name := "empty-handed"
  launch := pure (.error .noLaunchers)

/-- A launcher whose first session is dead when it arrives and whose later ones live. Sessions are
told by whether they live, worlds by whether there has been a session. -/
def lateRiser : Launcher (StateM Bool) Bool where
  name := "late-riser"
  launch := fun started => (.ok started, true)

def Shop.ofOne (launcher : Launcher (StateM Bool) Bool) : Shop Bool Bool where
  launchers := [launcher]
  isAlive session := pure session
  print _ _ _ := pure (.error (.failed "out of paper"))

/-- A launcher is there, and the answer is that there is none; and a session that was handed out is
not handed out again though nothing came in between, for it was dead from the start. -/
theorem run_sessions_astray :
    ((Shop.ofOne emptyHanded).run [.acquire] idle false).map (·.answer) =
        [some (.error .noLaunchers)] ∧
      ((Shop.ofOne lateRiser).run [.acquire, .acquire] idle false).map
          (fun entry => (entry.answer, entry.attempts.map (·.launcher))) =
        [(some (.ok false), [0]), (some (.ok true), [0])] :=
  ⟨rfl, rfl⟩

end Pressroom.Desk

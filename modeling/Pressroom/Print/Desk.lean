import Pressroom.Log
import Pressroom.Print.Printer

/-!
Printing sessions on demand. A desk has at most one session. A session that has died is dropped when
the next one is asked for, and launchers are tried in their order until one of them starts a
session.
-/

namespace Pressroom

/-- One way of starting a session. -/
structure Launcher (m : Type → Type) (σ : Type) where
  name : String
  launch : m (Except PrintFault σ)

structure Desk (σ : Type) where
  session? : Option σ
  deriving Repr, DecidableEq

namespace Desk

variable {m : Type → Type} [Monad m] {σ : Type}

def idle : Desk σ := ⟨none⟩

def isActive (desk : Desk σ) : Bool :=
  desk.session?.isSome

def launchRecord (name : String) (fault : PrintFault) : Record :=
  .warning s!"printer launcher `{name}` failed: {fault.message}"

/-- A new session from the first launcher that starts one, or the fault of the last one; `fault` is
the one so far. -/
def start (fault : PrintFault) : List (Launcher m σ) → m (Logged (Except PrintFault σ))
  | [] => return .quiet (.error fault)
  | launcher :: launchers => do
    match ← launcher.launch with
    | .ok session => return .quiet (.ok session)
    | .error fault =>
      let started ← start fault launchers
      return ⟨started.value, launchRecord launcher.name fault :: started.records⟩

def alive? (isAlive : σ → m Bool) (desk : Desk σ) : m (Option σ) := do
  match desk.session? with
  | none => return none
  | some session => return if ← isAlive session then some session else none

/-- A session, a new one if there is none that is alive, and the desk afterwards. -/
def acquire (launchers : List (Launcher m σ)) (isAlive : σ → m Bool) (desk : Desk σ) :
    m (Logged (Except PrintFault σ × Desk σ)) := do
  match ← desk.alive? isAlive with
  | some session => return .quiet (.ok session, desk)
  | none =>
    let started ← start .noLaunchers launchers
    return ⟨(started.value, ⟨started.value.toOption⟩), started.records⟩

def release (_ : Desk σ) : Desk σ := idle

end Desk

end Pressroom

/-!
Log records: what a run has to say besides its result.
-/

namespace Pressroom

inductive Level where
  | warn
  | error
  deriving Repr, DecidableEq

structure Record where
  level : Level
  message : String
  deriving Repr, DecidableEq

def Record.warning (message : String) : Record := ⟨.warn, message⟩

/-- A result and what there was to say on the way to it. -/
structure Logged (α : Type) where
  value : α
  records : List Record

namespace Logged

def quiet {α : Type} (a : α) : Logged α := ⟨a, []⟩

/-- A step that goes on from a result; its records come after those of the result. -/
def andThen {α β : Type} (a : Logged α) (step : α → Logged β) : Logged β :=
  ⟨(step a.value).value, a.records ++ (step a.value).records⟩

instance : Monad Logged where
  pure := quiet
  bind := andThen

end Logged

end Pressroom

import Harvest.Failure.Class

/-!
# The process around a crawl

What a crawl needs from the process it runs in: the time, whether it has been cancelled, a pause that
a cancellation cuts short, and a place for warnings.
-/

namespace Harvest

/-- What a crawl warns about. -/
inductive Warning where
  /-- A call failed and is tried again after a delay in milliseconds. -/
  | retrying (record : FailedTry) (consecutive delay : Nat)
  /-- An entry is left to a later pass. -/
  | deferring (id message : String)
deriving DecidableEq, Repr

/-- The process around a crawl. -/
structure Monitor (m : Type → Type) where
  now : m Moment
  isCancelled : m Bool
  /-- Waits for so many milliseconds, or until the crawl is cancelled, and tells whether it was. -/
  pause : Nat → m Bool
  warn : Warning → m Unit

/-- The same process for a caller that nobody can cancel. -/
def Monitor.uncancellable {m : Type → Type} [Monad m] (mon : Monitor m) : Monitor m :=
  { mon with
    isCancelled := pure false
    pause := fun delay => do
      let _ ← mon.pause delay
      pure false }

end Harvest

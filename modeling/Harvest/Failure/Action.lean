import Harvest.Crawl.CrawlError

/-!
# Actions that may fail

Calls to stores, sinks and files run in a monad that their owner chooses, and fail with a chain of
causes.
-/

namespace Harvest

/-- An action that may fail. -/
abbrev Action (m : Type → Type) (α : Type) := ExceptT Failure m α

namespace Action

variable {m : Type → Type} [Monad m] {α : Type}

/-- Adds context to the failure of an action. -/
def within (context : String) (act : Action m α) : Action m α :=
  ExceptT.mk (do
    match ← act.run with
    | .ok a => pure (.ok a)
    | .error f => pure (.error (f.within context)))

/-- An action that has its result already. -/
def ofResult (r : Except Failure α) : Action m α := ExceptT.mk (pure r)

end Action

end Harvest

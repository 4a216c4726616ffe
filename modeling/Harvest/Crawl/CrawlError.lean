import Harvest.Failure.Class

/-!
# What a failure does to an entry

The failure of one entry's processing, as the owner of the crawl sees it: come back later, the entry
is gone, or the crawl has to stop.
-/

namespace Harvest

/-- Failure of processing one entry, or of the crawl. -/
inductive CrawlError where
  /-- A service interruption; the entry is to be processed again within the window. -/
  | transient (operation message : String) (window : Window)
  /-- The entry is out of reach; it is handled as deleted. -/
  | absent (id reason : String)
  /-- The crawl was cancelled. -/
  | cancelled
  /-- Nothing is known about the failure. -/
  | fatal (operation : String) (source : Failure)
  /-- The job is not set up properly. -/
  | config (message : String)
deriving DecidableEq, Repr

namespace CrawlError

/-- The text of an error. -/
def display : CrawlError → String
  | transient operation message w =>
    "service interruption during " ++ operation ++ ": " ++ message ++ " (retry after " ++
      w.earliest.display ++ ", give up after " ++ w.latest.display ++ ")"
  | absent id reason => id ++ " is no longer reachable: " ++ reason
  | cancelled => "crawl cancelled"
  | fatal operation source => operation ++ " failed: " ++ source.message
  | config message => "configuration error: " ++ message

/-- The error as a chain of causes: a fatal error goes on into its source. -/
def toFailure : CrawlError → Failure
  | cancelled => .cancelled
  | fatal operation source => ⟨.plain (fatal operation source).display, source.chain⟩
  | e => .plain e.display

/-- What the failure of an operation on an entry at a moment amounts to. -/
def ofFailure (now : Moment) (operation id : String) (f : Failure) : CrawlError :=
  let s := Signature.ofFailure f
  match s.faultClass with
  | .retryable => transient operation s.display (.after now)
  | .skip => absent id s.display
  | .cancelled => cancelled
  | .fatal => fatal operation f

/-- Whether the entry should be processed again later. -/
def isRetryable : CrawlError → Bool
  | transient .. => true
  | _ => false

/-- Whether the crawl has to stop. -/
def isFatal : CrawlError → Bool
  | cancelled => true
  | fatal .. => true
  | config .. => true
  | _ => false

end CrawlError

end Harvest

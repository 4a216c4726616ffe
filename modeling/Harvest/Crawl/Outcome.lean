import Harvest.Crawl.CrawlError
import Harvest.Fingerprint
import Harvest.Version

/-!
# Outcomes

What is decided about an entry, what the receiver of a crawl is handed with its content, and the
record of each entry that was dealt with.
-/

namespace Harvest

/-- Why an entry was neither handed over nor deleted. -/
inductive SkipReason where
  /-- It is a container, whose children are to be looked at. -/
  | container (children : List String)
  /-- It has the version it had before. -/
  | unchanged
deriving DecidableEq, Repr

/-- The name of a reason in records. -/
def SkipReason.label : SkipReason → String
  | container _ => "container"
  | unchanged => "unchanged"

/-- Kinds of records. -/
inductive ActivityKind where
  | ingest
  | delete
  | skip
  | deferred
  | failed
deriving DecidableEq, Repr

namespace ActivityKind

/-- The name of a kind in records. -/
def label : ActivityKind → String
  | ingest => "ingest"
  | delete => "delete"
  | skip => "skip"
  | deferred => "deferred"
  | failed => "failed"

/-- Every kind. -/
def all : List ActivityKind := [ingest, delete, skip, deferred, failed]

end ActivityKind

/-- The decision about an entry in one pass. -/
inductive Outcome where
  | ingest (id token : String) (bytes : Nat)
  | delete (id reason : String)
  | skip (id : String) (reason : SkipReason) (token : String)
deriving DecidableEq, Repr

namespace Outcome

/-- The entry. -/
def id : Outcome → String
  | ingest id _ _ => id
  | delete id _ => id
  | skip id _ _ => id

/-- The version token to remember, if any. -/
def token? : Outcome → Option String
  | ingest _ token _ => some token
  | delete _ _ => none
  | skip _ _ token => some token

/-- The kind of record it leaves. -/
def kind : Outcome → ActivityKind
  | ingest .. => .ingest
  | delete .. => .delete
  | skip .. => .skip

/-- How many bytes were handed over. -/
def bytes : Outcome → Nat
  | ingest _ _ bytes => bytes
  | _ => 0

/-- The children to be looked at next. -/
def children : Outcome → List String
  | skip _ (.container children) _ => children
  | _ => []

end Outcome

/-- What goes with the content of an entry. -/
structure Delivery where
  id : String
  token : String
  /-- What the token holds. -/
  version : Version
  fingerprint : Option Fingerprint
deriving DecidableEq, Repr

/-- The record of an entry that was dealt with. -/
structure Activity where
  timestamp : Moment
  id : String
  kind : ActivityKind
  bytes : Nat
  error : Option String
deriving DecidableEq, Repr

/-- The record of what became of an entry. -/
def Activity.ofResult (timestamp : Moment) (id : String) : Except CrawlError Outcome → Activity
  | .ok o => ⟨timestamp, id, o.kind, o.bytes, none⟩
  | .error e => ⟨timestamp, id, if e.isRetryable then .deferred else .failed, 0, some e.display⟩

end Harvest

import Harvest.Failure.System
import Harvest.Time.Moment

/-!
# Failures

A failed call is reported as a chain of causes, outermost first: what was being attempted, and below
it what went wrong. Some causes carry a structured code; the code of a chain is the first one found
on the way down. Nothing else about a failure is kept, so a failure that has been wrapped in more
context is still classified by what lies below.
-/

namespace Harvest

/-- The structured category of a failure. -/
inductive FaultCode where
  | notFound
  | permissionDenied
  /-- The crawl was cancelled by its owner, never by the system. -/
  | cancelled
  | timedOut
  | connectionLost
  | busy
  | other
deriving DecidableEq, Repr

namespace FaultCode

/-- The name of a code in messages. -/
def label : FaultCode → String
  | notFound => "NotFound"
  | permissionDenied => "PermissionDenied"
  | cancelled => "Cancelled"
  | timedOut => "TimedOut"
  | connectionLost => "ConnectionLost"
  | busy => "Busy"
  | other => "Other"

/-- Every code. -/
def all : List FaultCode :=
  [notFound, permissionDenied, cancelled, timedOut, connectionLost, busy, other]

/-- The code of a failed system call. An interrupted call may simply be repeated. -/
def ofSystem : SystemFault → FaultCode
  | .notFound => notFound
  | .permissionDenied => permissionDenied
  | .interrupted => busy
  | .timedOut => timedOut
  | .connectionReset => connectionLost
  | .connectionAborted => connectionLost
  | .brokenPipe => connectionLost
  | .notConnected => connectionLost
  | .wouldBlock => busy
  | _ => other

/-- The code of a failed request to a storage service; what is only temporary counts as busy. -/
def ofService (fault : ServiceFault) (temporary : Bool) : FaultCode :=
  if temporary then busy
  else
    match fault with
    | .notFound => notFound
    | .permissionDenied => permissionDenied
    | .rateLimited => busy
    | _ => other

end FaultCode

/-- One element of a chain of causes. -/
inductive Cause where
  /-- A message without a code. -/
  | plain (message : String)
  /-- A failed system call. -/
  | system (fault : SystemFault) (message : String)
  /-- A failed request to a storage service. -/
  | service (fault : ServiceFault) (temporary : Bool) (message : String)
  /-- The cancellation of the crawl. -/
  | cancelled
deriving DecidableEq, Repr

namespace Cause

/-- The text of a cause. -/
def text : Cause → String
  | plain message => message
  | system _ message => message
  | service fault temporary message =>
    fault.label ++ (if temporary then " (temporary) at " else " (permanent) at ") ++
      (if message.isEmpty then "" else " => " ++ message)
  | cancelled => "crawl cancelled"

/-- The code of a cause, if it carries one. -/
def code? : Cause → Option FaultCode
  | plain _ => none
  | system fault _ => some (.ofSystem fault)
  | service fault temporary _ => some (.ofService fault temporary)
  | cancelled => some .cancelled

/-- A numbered error of the system. -/
def errno (n : Nat) : Cause := system (Errno.fault n) (Errno.message n)

end Cause

/-- A chain of causes, outermost first. -/
structure Failure where
  outermost : Cause
  below : List Cause
deriving DecidableEq, Repr

namespace Failure

/-- A failure that is nothing but a message. -/
def plain (message : String) : Failure := ⟨.plain message, []⟩

/-- A failure with a single cause. -/
def of (c : Cause) : Failure := ⟨c, []⟩

/-- A numbered error of the system. -/
def errno (n : Nat) : Failure := of (.errno n)

/-- The cancellation of the crawl. -/
def cancelled : Failure := of .cancelled

/-- The whole chain. -/
def chain (f : Failure) : List Cause := f.outermost :: f.below

/-- The failure seen from further out. -/
def within (f : Failure) (context : String) : Failure := ⟨.plain context, f.chain⟩

/-- The outermost text. -/
def message (f : Failure) : String := f.outermost.text

/-- The first code on the way down. -/
def code? (f : Failure) : Option FaultCode := f.chain.findSome? Cause.code?

end Failure

end Harvest

import Harvest.Failure
import Harvest.Text.Lowercase

/-!
# Classes of failures

Remote stores report failures through many layers. A failure is reduced to a signature (its code and
its texts) and the signature is put into one of four classes: worth another try, the entry is gone,
the crawl is cancelled, or unknown and therefore fatal. A telling code settles the class alone;
otherwise the texts are searched for known phrases, in a fixed order of preference.
-/

namespace Harvest

/-- What a failure means for the entry it befell. -/
inductive FaultClass where
  /-- Another try may succeed. -/
  | retryable
  /-- The entry is gone or out of reach. -/
  | skip
  /-- The crawl is being shut down. -/
  | cancelled
  /-- Nothing is known about the failure. -/
  | fatal
deriving DecidableEq, Repr

/-- The name of a class in records. -/
def FaultClass.label : FaultClass → String
  | retryable => "retryable"
  | skip => "skip"
  | cancelled => "cancelled"
  | fatal => "fatal"

/-- When to come back to an entry, and when to give it up. -/
structure Window where
  earliest : Moment
  latest : Moment
deriving DecidableEq, Repr

namespace Window

/-- Five minutes, in milliseconds. -/
def delay : Int := 5 * 60 * 1000

/-- Three hours, in milliseconds. -/
def span : Int := 3 * 60 * 60 * 1000

/-- The window of a failure at a moment. -/
def after (now : Moment) : Window := ⟨now + delay, now + span⟩

/-- The window, unless it reaches past the last moment that has a date. -/
def after? (now : Moment) : Option Window :=
  if (after now).latest ≤ Moment.latest then some (after now) else none

end Window

/-- What is left of a failure for judging it: its code, its outermost text, the texts below. -/
structure Signature where
  code : Option FaultCode
  message : String
  causes : List String
deriving DecidableEq, Repr

/-- Whether the text `needle` occurs in a text. -/
def occursIn (needle : List Char) : List Char → Bool
  | [] => needle.isEmpty
  | c :: cs => needle.isPrefixOf (c :: cs) || occursIn needle cs

namespace Signature

/-- The signature of a failure. -/
def ofFailure (f : Failure) : Signature := ⟨f.code?, f.message, f.below.map Cause.text⟩

/-- Phrases of failures that pass. -/
def transientPhrases : List String :=
  ["busy", "interrupted", "handle is invalid", "no longer available", "parameter is incorrect",
    "timed out", "connection reset", "temporarily unavailable", "rate limited"]

/-- Phrases of a shutdown. -/
def cancelledPhrases : List String := ["cancelled", "canceled"]

/-- Phrases of entries that are gone or out of reach. -/
def absentPhrases : List String :=
  ["cannot find", "is denied", "no such file", "not found", "does not exist"]

/-- Whether a text holds one of the phrases, whatever its case. -/
def holdsPhrase (phrases : List String) (text : String) : Bool :=
  let lower := (Text.lowercase text).toList
  phrases.any (fun p => occursIn p.toList lower)

/-- Whether any text of the signature holds one of the phrases. -/
def mentions (s : Signature) (phrases : List String) : Bool :=
  (s.message :: s.causes).any (holdsPhrase phrases)

/-- The class that a code settles, if it does. -/
def classOfCode? : Option FaultCode → Option FaultClass
  | some .cancelled => some .cancelled
  | some .timedOut => some .retryable
  | some .connectionLost => some .retryable
  | some .busy => some .retryable
  | some .notFound => some .skip
  | some .permissionDenied => some .skip
  | some .other => none
  | none => none

/-- The class that the texts speak for. -/
def classOfTexts (s : Signature) : FaultClass :=
  if s.mentions transientPhrases then .retryable
  else if s.mentions cancelledPhrases then .cancelled
  else if s.mentions absentPhrases then .skip
  else .fatal

/-- The class of a signature. -/
def faultClass (s : Signature) : FaultClass := (classOfCode? s.code).getD s.classOfTexts

/-- The class with the window of a failure at a moment; `none` if the moment is so late that its
window has no date. -/
def classifyAt? (s : Signature) (now : Moment) : Option (FaultClass × Window) :=
  (Window.after? now).map (fun w => (s.faultClass, w))

/-- The key under which two failures count as the same when tries are budgeted. -/
def key (s : Signature) : String :=
  (match s.code with
    | some c => "Some(" ++ c.label ++ ")"
    | none => "None") ++ ":" ++ Text.lowercase s.message

/-- The text of a signature: the code, if any, before the message. -/
def display (s : Signature) : String :=
  match s.code with
  | some c => "[" ++ c.label ++ "] " ++ s.message
  | none => s.message

end Signature

/-- One failed try of an operation. -/
structure FailedTry where
  operation : String
  signature : Signature
  faultClass : FaultClass
  attempt : Nat
  key : String
deriving DecidableEq, Repr

/-- The record of a failed try. -/
def FailedTry.new (operation : String) (s : Signature) (attempt : Nat) : FailedTry :=
  ⟨operation, s, s.faultClass, attempt, s.key⟩

end Harvest

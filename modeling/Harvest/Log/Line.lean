import Harvest.Log.Filter
import Harvest.Monitor

/-!
# Log lines

How a warning is written to the log.
-/

namespace Harvest

/-- The text of a warning and what goes with it. -/
def Warning.line : Warning → String
  | .retrying r consecutive delay =>
    let number (n : Nat) := String.ofList (Text.decimal n)
    " ".intercalate ["Transient failure, retrying", "operation=" ++ r.operation,
      "attempt=" ++ number r.attempt, "consecutive=" ++ number consecutive,
      "signature=" ++ r.signature.display, "classification=" ++ r.faultClass.label,
      "delay_ms=" ++ number delay]
  | .deferring id message => message ++ " id=" ++ id

/-- The line of a warning, if the filter lets warnings through. -/
def Log.Filter.line? (f : Log.Filter) (w : Warning) : Option String :=
  if f.shows Log.Filter.ownTarget .warn then some (" WARN " ++ w.line) else none

end Harvest

import Harvest.Text.Numeral

/-!
# Log levels

How much is logged, from nothing to everything. A level is written by name, in any case, or by number.
-/

namespace Harvest

/-- How much is logged: events of the level and all less verbose ones. -/
inductive LogLevel where
  | off
  | error
  | warn
  | info
  | debug
  | trace
deriving DecidableEq, Repr

namespace LogLevel

/-- The name of a level. -/
def label : LogLevel → String
  | off => "off"
  | error => "error"
  | warn => "warn"
  | info => "info"
  | debug => "debug"
  | trace => "trace"

/-- Every level; its place is its number. -/
def all : List LogLevel := [off, error, warn, info, debug, trace]

/-- The place of a level among the levels: the more is logged, the higher. -/
def rank (l : LogLevel) : Nat := all.idxOf l

/-- The level a text denotes; the empty text asks for errors alone. -/
def ofText? (cs : List Char) : Option LogLevel :=
  if cs.isEmpty then some error
  else
    match Text.natural? (UInt64.size - 1) cs with
    | some n => all[n]?
    | none => all.find? (fun l => l.label.toList == cs.map Char.toLower)

end LogLevel

end Harvest

import Harvest.Crawl.Record
import Harvest.Crawl.Sink
import Harvest.Document.Json
import Harvest.Text.ByteSize

/-!
# What readers see of a crawl

A crawl that is run by hand hands its content to nobody: it prints a line for each entry and a summary.
Lines are meant for readers, and painted if their screen can show it, or are records for programs.
-/

namespace Harvest.Command

/-- How a part of a line is painted. -/
inductive Style where
  | bold
  | dimmed
  | red
  | green
  | yellow
  | boldRed
deriving DecidableEq, Repr

/-- The code that turns a style on. -/
def Style.code : Style → String
  | bold => "1"
  | dimmed => "2"
  | red => "31"
  | green => "32"
  | yellow => "33"
  | boldRed => "1;31"

/-- What lines look like. -/
structure Console where
  painted : Bool
deriving DecidableEq, Repr

namespace Console

/-- Ends all styles. -/
def plainAgain : String := "\x1b[0m"

/-- A text in a style. Where the text itself goes back to plain, the style is turned on again. -/
def paint (c : Console) (s : Style) (text : String) : String :=
  if c.painted then
    let start := "\x1b[" ++ s.code ++ "m"
    start ++ (plainAgain ++ start).intercalate (text.splitOn plainAgain) ++ plainAgain
  else text

/-- The word for a kind of record, at the start of its line. -/
def word (c : Console) : ActivityKind → String
  | .ingest => c.paint .green "INGEST "
  | .delete => c.paint .red "DELETE "
  | .skip => c.paint .dimmed "SKIP   "
  | .deferred => c.paint .yellow "DEFER  "
  | .failed => c.paint .boldRed "FAILED "

/-- The line of an entry: what became of it, and why or how much of it there was. -/
def line (c : Console) (a : Activity) : String :=
  let start := c.word a.kind ++ " " ++ a.id
  match a.error with
  | some e => start ++ " " ++ c.paint .dimmed e
  | none =>
    if a.bytes = 0 then start else start ++ " (" ++ Text.ByteSize.text a.bytes ++ ")"

/-- A count in a style. -/
def count (c : Console) (s : Style) (n : Nat) : String := c.paint s (String.ofList (Text.decimal n))

/-- Seconds with two decimals, of so many milliseconds. -/
def seconds (elapsed : Nat) : String :=
  let hundredths := Text.ByteSize.nearest elapsed 10
  String.ofList (Text.decimal (hundredths / 100) ++ '.' :: Text.padded 10 2 (hundredths % 100))

/-- The line of an entry that is left to a later pass. -/
def deferred (c : Console) (d : Deferral) : String :=
  "    " ++ d.id ++ " " ++ c.paint .dimmed d.message ++ " (retry after " ++
    d.window.earliest.toSeconds ++ ")"

/-- The lines at the end of a pass that took so many milliseconds. -/
def summary (c : Console) (r : Report) (elapsed : Nat) : List String :=
  let plain (n : Nat) := String.ofList (Text.decimal n)
  let left :=
    if r.deferred.isEmpty then []
    else ("  Deferred:  " ++ c.count .yellow r.deferred.length) :: r.deferred.map c.deferred
  ["", c.paint .bold "Crawl pass complete",
    "  Ingested:  " ++ c.count .green r.ingested,
    "  Deleted:   " ++ c.count .red r.deleted,
    "  Skipped:   " ++ plain r.skipped,
    "  Unchanged: " ++ plain r.unchanged,
    "  Bytes:     " ++ Text.ByteSize.text r.bytes,
    "  Duration:  " ++ seconds elapsed ++ "s"] ++ left

/-- An answer of the rules. -/
def verdict (c : Console) (b : Bool) : String :=
  if b then c.paint .green "yes" else c.paint .red "no"

/-- The receiver of a crawl that is run by hand: it takes all content and prints a line an entry. -/
def sink {m : Type → Type} [Monad m] (c : Console) (json : Bool) (print : String → m Unit) : Sink m where
  ingest _ content := return (← Action.ofResult content.toResult).size
  delete _ := pure ()
  skip _ _ := pure ()
  record a := print (if json then Document.Json.compact a.toDocument else c.line a)

end Console

end Harvest.Command

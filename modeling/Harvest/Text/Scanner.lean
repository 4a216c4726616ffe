/-!
# Scanning text

Readers of a text: each takes some characters from the front and answers a value, or fails. They
compose as a monad; alternatives are chosen by looking ahead, so a reader never has to be undone.
-/

namespace Harvest.Text

/-- A reader of characters. -/
abbrev Scanner := StateT (List Char) Option

namespace Scanner

/-- Fails. -/
def fail {α : Type} : Scanner α := fun _ => none

/-- Fails unless the condition holds. -/
def require (b : Bool) : Scanner Unit := if b then pure () else fail

/-- The next character, which stays where it is. -/
def peek? : Scanner (Option Char) := return (← get).head?

/-- Takes the next character. -/
def next : Scanner Char := do
  match ← get with
  | [] => fail
  | c :: cs => do
    set cs
    pure c

/-- Takes the given character. -/
def expect (c : Char) : Scanner Unit := do require ((← next) = c)

/-- Whether the given text is next. -/
def looksAt (text : String) : Scanner Bool := return text.toList.isPrefixOf (← get)

/-- Takes the given text if it is next. -/
def accept (text : String) : Scanner Bool := do
  if ← looksAt text then
    modify (·.drop text.length)
    pure true
  else pure false

/-- Takes the longest run of characters that satisfy `p`. -/
def takeWhile (p : Char → Bool) : Scanner (List Char) := do
  let cs ← get
  set (cs.dropWhile p)
  pure (cs.takeWhile p)

/-- Takes `n` characters that satisfy `p`. -/
def takeExactly (n : Nat) (p : Char → Bool) : Scanner (List Char) := do
  let cs ← get
  let front := cs.take n
  require (front.length = n && front.all p)
  set (cs.drop n)
  pure front

/-- Whether the text is used up. -/
def atEnd : Scanner Bool := return (← get).isEmpty

/-- Runs a reader that has to use up the whole text. -/
def runAll {α : Type} (r : Scanner α) (text : List Char) : Option α :=
  match r.run text with
  | some (a, []) => some a
  | _ => none

end Scanner

end Harvest.Text

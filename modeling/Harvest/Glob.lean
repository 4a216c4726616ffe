import Harvest.Text.Lowercase

/-!
# Globs

A glob is a text in which `*` stands for any characters, none included and separators included, `?`
for exactly one character, and every other character for itself. Case is ignored by folding both
sides to lowercase before they are compared.

Matching walks both texts once from the left. At a mismatch the walk resumes at the latest star,
which swallows one character more; earlier stars never have to be tried again, because whatever
they could still swallow the latest star can swallow in their place.
-/

namespace Harvest.Glob

/-- Where matching goes on when the walk is stuck: just after the latest star, with the candidate
that is left if the star swallows nothing more. -/
structure Resume where
  glob : List Char
  candidate : List Char

/-- What is left of both texts, and the point to resume from. -/
structure State where
  candidate : List Char
  glob : List Char
  resume : Option Resume

/-- Outcome of one move of the walk. -/
inductive Move where
  | stop (matched : Bool)
  | go (next : State)

/-- Lets the latest star swallow one more character; without a star there is no match. -/
def State.backtrack (s : State) : Move :=
  match s.resume with
  | some ⟨glob, _ :: candidate⟩ => .go ⟨candidate, glob, some ⟨glob, candidate⟩⟩
  | _ => .stop false

/-- One move: a star is passed and remembered, a character that fits is consumed, anything else
sends the walk back to the latest star. -/
def State.move (s : State) : Move :=
  match s.candidate, s.glob with
  | [], glob => .stop (glob.all (· == '*'))
  | candidate, '*' :: glob => .go ⟨candidate, glob, some ⟨glob, candidate⟩⟩
  | c :: candidate, g :: glob =>
    if g = '?' ∨ g = c then .go ⟨candidate, glob, s.resume⟩ else s.backtrack
  | _, [] => s.backtrack

/-- The verdict of at most `fuel` moves, if they reach one. -/
def State.run : Nat → State → Option Bool
  | 0, _ => none
  | fuel + 1, s =>
    match s.move with
    | .stop matched => some matched
    | .go next => next.run fuel

/-- Enough moves for any candidate of `n` and glob of `m` characters: the verdict itself and one
for each pair of positions. -/
def moveBound (n m : Nat) : Nat := (n + 1) * (m + 1) + 1

/-- Whether the whole candidate fits the glob, character by character. -/
def fits (candidate glob : List Char) : Bool :=
  (State.run (moveBound candidate.length glob.length) ⟨candidate, glob, none⟩).getD false

/-- Whether a name fits a glob, whatever the case of either. -/
def matchesName (name glob : String) : Bool :=
  fits (Text.lowerEach name) (Text.lowerEach glob)

end Harvest.Glob

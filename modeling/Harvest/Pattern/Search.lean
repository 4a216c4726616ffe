import Harvest.Pattern.Program
import Harvest.Pattern.Class

/-!
# Searching

The search walks the program depth first, preferred successors first, and never enters the same
instruction at the same position twice: a second visit could only repeat what the first one failed
to find. So the work is bounded by the instructions times the positions, and the first match found
is the one the order of alternatives prefers. Starts are tried from the left.
-/

namespace Harvest.Pattern

/-- Positions remembered by marks, by slot. -/
abbrev Marks := Array (Option Nat)

/-- A point of the walk that is still to be entered. -/
structure Thread where
  instruction : Nat
  position : Nat
  marks : Marks

namespace Look

/-- Whether there is a word character at an index. -/
def isWord (unicode : Bool) (text : Array Char) (i : Nat) : Bool :=
  match text[i]? with
  | none => false
  | some c => (if unicode then Class.word else Class.asciiWord).has c

/-- Whether there is a word character just before a position. -/
def wordBefore (unicode : Bool) (text : Array Char) (i : Nat) : Bool :=
  i != 0 && isWord unicode text (i - 1)

/-- Whether the condition holds at a position. -/
def holds (l : Look) (text : Array Char) (i : Nat) : Bool :=
  let before : Option Char := if i = 0 then none else text[i - 1]?
  let after : Option Char := text[i]?
  match l with
  | textStart => i == 0
  | textEnd => i == text.size
  | lineStart false => before.isNone || before == some '\n'
  | lineEnd false => after.isNone || after == some '\n'
  | lineStart true =>
    before.isNone || before == some '\n' || (before == some '\r' && after != some '\n')
  | lineEnd true =>
    after.isNone || after == some '\r' || (after == some '\n' && before != some '\r')
  | wordBoundary u => wordBefore u text i != isWord u text i
  | notWordBoundary u => wordBefore u text i == isWord u text i
  | wordStart u => !wordBefore u text i && isWord u text i
  | wordEnd u => wordBefore u text i && !isWord u text i
  | halfWordStart u => !wordBefore u text i
  | halfWordEnd u => !isWord u text i

end Look

namespace Program

/-- What a walk has found: marks of a match, or the points it has visited. -/
inductive Walk where
  | found (marks : Marks)
  | none (visited : Array Bool)

/-- Walks from a stack of threads; each step enters one of them. -/
def walk (p : Program) (text : Array Char) : Nat → List Thread → Array Bool → Walk
  | 0, _, visited => .none visited
  | _ + 1, [], visited => .none visited
  | fuel + 1, t :: rest, visited =>
    let point := t.instruction * (text.size + 1) + t.position
    if visited.getD point true then walk p text fuel rest visited
    else
      let visited := visited.setIfInBounds point true
      match p.code[t.instruction]? with
      | none | some .stuck => walk p text fuel rest visited
      | some .found => .found t.marks
      | some (.oneOf set next) =>
        match text[t.position]? with
        | some c =>
          if set.has c then walk p text fuel (⟨next, t.position + 1, t.marks⟩ :: rest) visited
          else walk p text fuel rest visited
        | none => walk p text fuel rest visited
      | some (.look cond next) =>
        if cond.holds text t.position then
          walk p text fuel ({ t with instruction := next } :: rest) visited
        else walk p text fuel rest visited
      | some (.mark slot next) =>
        let marks := t.marks.setIfInBounds slot (some t.position)
        walk p text fuel (⟨next, t.position, marks⟩ :: rest) visited
      | some (.choose preferred second) =>
        walk p text fuel
          ({ t with instruction := preferred } :: { t with instruction := second } :: rest) visited

/-- Tries the starts from `position` on, as many as `starts` says. -/
def searchFrom (p : Program) (text : Array Char) (slots : Nat) :
    Nat → Nat → Array Bool → Option Marks
  | 0, _, _ => none
  | starts + 1, position, visited =>
    let first : Thread := ⟨p.start, position, Array.replicate slots none⟩
    match p.walk text (2 * p.code.size * (text.size + 1) + 2) [first] visited with
    | .found marks => some marks
    | .none visited => p.searchFrom text slots starts (position + 1) visited

/-- The marks of the leftmost match that the order of alternatives prefers. -/
def search (p : Program) (slots : Nat) (text : Array Char) : Option Marks :=
  p.searchFrom text slots (text.size + 1) 0
    (Array.replicate (p.code.size * (text.size + 1)) false)

end Program

end Harvest.Pattern

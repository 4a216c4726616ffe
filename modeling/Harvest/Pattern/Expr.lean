import Harvest.Text.CodeSet

/-!
# Pattern expressions

A pattern denotes an ordered search for matches: where a choice has to be made, the alternatives are
tried in order and the first that leads to a match wins. The expression tree keeps that order, so an
alternation is not commutative and a repetition is greedy or reluctant.
-/

namespace Harvest.Pattern

open Text

/-- A condition on a position, which consumes nothing. -/
inductive Look where
  | textStart
  | textEnd
  | lineStart (crlf : Bool)
  | lineEnd (crlf : Bool)
  | wordBoundary (unicode : Bool)
  | notWordBoundary (unicode : Bool)
  | wordStart (unicode : Bool)
  | wordEnd (unicode : Bool)
  | halfWordStart (unicode : Bool)
  | halfWordEnd (unicode : Bool)
deriving DecidableEq, Repr

/-- A pattern. -/
inductive Expr where
  /-- The empty text. -/
  | empty
  /-- One character out of a set. -/
  | oneOf (set : CodeSet)
  /-- A condition on the position. -/
  | look (cond : Look)
  /-- At least `min` and at most `max` matches in a row. -/
  | repetition (min : Nat) (max : Option Nat) (greedy : Bool) (body : Expr)
  /-- A match that is remembered under a number. -/
  | group (index : Nat) (body : Expr)
  /-- One match after another. -/
  | seq (first second : Expr)
  /-- A match of the first or, failing that, of the second. -/
  | alt (first second : Expr)

namespace Expr

/-- The fewest characters a match can have. -/
def minLength : Expr → Nat
  | empty => 0
  | oneOf _ => 1
  | look _ => 0
  | repetition min _ _ body => min * body.minLength
  | group _ body => body.minLength
  | seq a b => a.minLength + b.minLength
  | alt a b => Nat.min a.minLength b.minLength

/-- Whether every match is empty. -/
def onlyEmpty : Expr → Bool
  | empty => true
  | oneOf _ => false
  | look _ => true
  | repetition _ max _ body => max == some 0 || body.onlyEmpty
  | group _ body => body.onlyEmpty
  | seq a b => a.onlyEmpty && b.onlyEmpty
  | alt a b => a.onlyEmpty && b.onlyEmpty

/-- A repetition; what can only match the empty text is repeated at most once, none is the empty
text, and exactly one is the body. -/
def repeated (min : Nat) (max : Option Nat) (greedy : Bool) (body : Expr) : Expr :=
  let min' := if body.onlyEmpty then Nat.min min 1 else min
  let max' := if body.onlyEmpty then some ((max.getD 1).min 1) else max
  if max' = some 0 then empty
  else if min' = 1 ∧ max' = some 1 then body
  else repetition min' max' greedy body

/-- The sequence of several expressions. -/
def sequence : List Expr → Expr
  | [] => empty
  | [e] => e
  | e :: es => seq e (sequence es)

/-- The alternation of several expressions, the first preferred. -/
def choice : List Expr → Expr
  | [] => empty
  | [e] => e
  | e :: es => alt e (choice es)

/-- Bytes of the code in UTF-8. -/
def codeWidth (n : Nat) : Nat :=
  if n < 0x80 then 1 else if n < 0x800 then 2 else if n < 0x10000 then 3 else 4

/-- Roughly the automaton states a set of characters takes when it is matched byte by byte. -/
def setCost (s : CodeSet) : Nat :=
  if s.ranges.all (fun r => r.2 < 0x80) then 1
  else s.ranges.toList.foldl (fun acc r => acc + codeWidth r.2) 0

/-- Roughly the automaton states the expression takes; counted repetition copies its body. -/
def cost : Expr → Nat
  | empty => 1
  | oneOf s => setCost s
  | look _ => 1
  | repetition min max _ body =>
    match max with
    | none => Nat.max min 1 * body.cost + 2
    | some m => m * (body.cost + 1) + 1
  | group _ body => body.cost + 2
  | seq a b => a.cost + b.cost
  | alt a b => a.cost + b.cost + 1

/-- The largest automaton that is built. -/
def costLimit : Nat := 10 * 1024 * 1024 / 32

end Expr

end Harvest.Pattern

import Harvest.Pattern.Expr

/-!
# Pattern programs

A program is an array of instructions, each naming the ones that follow it. A choice names a
preferred and a second successor, which is how the order of alternatives and the greed of
repetitions are kept. Expressions are compiled from the end: each is given the instruction to go on
with and answers the instruction to start from.
-/

namespace Harvest.Pattern

open Text

/-- One instruction. -/
inductive Instruction where
  | found
  | oneOf (set : CodeSet) (next : Nat)
  | look (cond : Look) (next : Nat)
  | mark (slot : Nat) (next : Nat)
  | choose (preferred second : Nat)
  | stuck

/-- Instructions and the one to start from. -/
structure Program where
  code : Array Instruction
  start : Nat

/-- Instructions compiled so far, with the start of the part compiled last. -/
abbrev Block := Array Instruction × Nat

namespace Block

/-- Adds an instruction and starts from it. -/
def push (code : Array Instruction) (i : Instruction) : Block := (code.push i, code.size)

/-- A choice between going through `body` and going past it. -/
def fork (greedy : Bool) (body past : Nat) : Instruction :=
  if greedy then .choose body past else .choose past body

/-- Places `count` parts one before the other, the last of them first. -/
def times (part : Array Instruction → Nat → Block) : Nat → Array Instruction → Nat → Block
  | 0, code, next => (code, next)
  | count + 1, code, next =>
    let rest := times part count code next
    part rest.1 rest.2

/-- At least one round of `part`: after each round there is the choice of another. -/
def oneOrMore (greedy : Bool) (part : Array Instruction → Nat → Block)
    (code : Array Instruction) (next : Nat) : Block :=
  let loop := code.size
  let body := part (code.push .stuck) loop
  (body.1.setIfInBounds loop (fork greedy body.2 next), body.2)

/-- Any number of rounds. When a round can be empty, the choice to skip all of them is kept apart
from the choice of another round, so that an empty round comes before no round. -/
def zeroOrMore (greedy canBeEmpty : Bool) (part : Array Instruction → Nat → Block)
    (code : Array Instruction) (next : Nat) : Block :=
  if canBeEmpty then
    let body := oneOrMore greedy part code next
    push body.1 (fork greedy body.2 next)
  else
    let loop := code.size
    let body := part (code.push .stuck) loop
    (body.1.setIfInBounds loop (fork greedy body.2 next), loop)

/-- An optional round before what comes next, from where all optional rounds can be left. -/
def optional (greedy : Bool) (exit : Nat) (part : Array Instruction → Nat → Block)
    (code : Array Instruction) (next : Nat) : Block :=
  let body := part code next
  push body.1 (fork greedy body.2 exit)

end Block

/-- Compiles an expression in front of the instruction `next`. -/
def Expr.compile : Expr → Array Instruction → Nat → Block
  | .empty, code, next => (code, next)
  | .oneOf s, code, next => Block.push code (.oneOf s next)
  | .look l, code, next => Block.push code (.look l next)
  | .group i body, code, next =>
    let close := Block.push code (.mark (2 * i + 1) next)
    let inner := body.compile close.1 close.2
    Block.push inner.1 (.mark (2 * i) inner.2)
  | .seq a b, code, next =>
    let second := b.compile code next
    a.compile second.1 second.2
  | .alt a b, code, next =>
    let first := a.compile code next
    let second := b.compile first.1 next
    Block.push second.1 (.choose first.2 second.2)
  | .repetition min none greedy body, code, next =>
    if min = 0 then Block.zeroOrMore greedy (body.minLength = 0) body.compile code next
    else
      let last := Block.oneOrMore greedy body.compile code next
      Block.times body.compile (min - 1) last.1 last.2
  | .repetition min (some max) greedy body, code, next =>
    let tail := Block.times (Block.optional greedy next body.compile) (max - min) code next
    Block.times body.compile min tail.1 tail.2

/-- The program of an expression; the whole match is group zero. -/
def Expr.program (e : Expr) : Program :=
  let block := (Expr.group 0 e).compile #[.found] 0
  ⟨block.1, block.2⟩

end Harvest.Pattern

import Harvest.Pattern.Class
import Harvest.Pattern.Expr

/-!
# The written form of patterns

Reading goes once over the text. Flags are part of the reader's state: a flag group changes them up
to the end of the enclosing group. Every reader consumes what it reads and fails on what the syntax
does not allow; what went wrong is not kept, because a pattern is either valid or not.

A piece is an expression with the number of levels it is nested. A change of flags is a piece of its
own, since it counts as an element of a sequence but cannot be repeated.
-/

namespace Harvest.Pattern

open Text

/-- Flags in force at a point of the pattern. -/
structure Flags where
  ignoreCase : Bool
  multiLine : Bool
  dotAll : Bool
  swapGreed : Bool
  unicode : Bool
  crlf : Bool
  verbose : Bool

/-- The flags at the start of a pattern. -/
def Flags.initial : Flags := ⟨false, false, false, false, true, false, false⟩

/-- State of the reader: the text ahead, flags, and the groups numbered and named so far. -/
structure Scan where
  rest : List Char
  flags : Flags
  groups : Nat
  names : List (String × Nat)

/-- A reader: it goes on from a state or fails. -/
abbrev Reader := StateT Scan Option

/-- An expression with its nesting depth, or a change of flags. -/
inductive Piece where
  | expr (e : Expr) (depth : Nat)
  | flags

/-- An element of a bracketed class: a literal character that may bound a range, or a set. A
character written as two hexadecimal digits stands for a byte where classes are not Unicode. -/
inductive Item where
  | char (c : Char) (byte : Bool)
  | set (s : CodeSet)

/-- What a backslash or a plain character stands for. -/
inductive Atom where
  | char (c : Char) (byte : Bool)
  | set (s : CodeSet)
  | look (l : Look)

/-- The deepest nesting that is read. -/
def depthLimit : Nat := 250

namespace Reader

/-- Fails. -/
def fail {α : Type} : Reader α := fun _ => none

/-- Fails unless the condition holds. -/
def require (b : Bool) : Reader Unit := if b then pure () else fail

/-- The text ahead. -/
def ahead : Reader (List Char) := return (← get).rest

/-- The flags in force. -/
def flags : Reader Flags := return (← get).flags

/-- The next character, if there is one. -/
def peek? : Reader (Option Char) := return (← get).rest.head?

/-- Whether the text is used up. -/
def atEnd : Reader Bool := return (← get).rest.isEmpty

/-- The next character; fails at the end. -/
def peek : Reader Char := do
  match ← peek? with
  | some c => pure c
  | none => fail

/-- Drops `n` characters. -/
def skip (n : Nat) : Reader Unit := modify (fun s => { s with rest := s.rest.drop n })

/-- Drops blanks, and comments up to the end of their line. -/
def dropBlanks : List Char → List Char
  | [] => []
  | c :: cs =>
    if Class.space.has c then dropBlanks cs
    else if c = '#' then dropComment cs
    else c :: cs
where
  dropComment : List Char → List Char
    | [] => []
    | '\n' :: cs => dropBlanks cs
    | _ :: cs => dropComment cs

/-- Drops blanks and comments where the flags say that they do not count. -/
def skipBlanks : Reader Unit :=
  modify (fun s => if s.flags.verbose then { s with rest := dropBlanks s.rest } else s)

/-- Drops one character and the blanks after it. -/
def step : Reader Unit := do skip 1; skipBlanks

/-- Drops one character and the blanks after it; fails at the end. -/
def stepInside : Reader Unit := do step; require !(← atEnd)

/-- Drops the given text if it is next. -/
def accept (text : String) : Reader Bool := do
  if text.toList.isPrefixOf (← ahead) then
    skip text.length
    pure true
  else pure false

/-- The next character that is not a skipped blank, after the one that is next. -/
def peekPast : Reader (Option Char) := do
  let s ← get
  let rest := s.rest.drop 1
  pure (if s.flags.verbose then dropBlanks rest else rest).head?

end Reader

open Reader

/-- Characters with a meaning of their own, which a backslash takes away. -/
def isMeta (c : Char) : Bool := "\\.+*?()|[]\x7b\x7d^$#&-~".toList.contains c

/-- Whether a backslash before the character is allowed although it changes nothing. -/
def isEscapable (c : Char) : Bool :=
  isMeta c || (c.toNat < 0x80 && !c.isAlphanum && c != '<' && c != '>')

/-- The character of a code, unless the code names none. -/
def charOfCode? (n : Nat) : Option Char :=
  if h : n.isValidChar then some (Char.ofNatAux n h) else none

/-! ## Escapes -/

/-- Hexadecimal digits up to the closing brace. -/
def bracedHex : Nat → List Char → Reader (List Char)
  | 0, _ => fail
  | fuel + 1, acc => do
    stepInside
    let c ← peek
    if c = '}' then pure acc.reverse
    else do
      require (digit? 16 c).isSome
      bracedHex fuel (c :: acc)

/-- Exactly `count` more hexadecimal digits, the first of which is next. -/
def fixedHex : Nat → List Char → Reader (List Char)
  | 0, acc => pure acc.reverse
  | count + 1, acc => do
    let c ← peek
    require (digit? 16 c).isSome
    if count = 0 then step else stepInside
    fixedHex count (c :: acc)

/-- A character given by its code, after `\x`, `\u` or `\U`. -/
def hexEscape (width : Nat) : Reader Atom := do
  stepInside
  let braced := (← peek) = '{'
  let digits ←
    if braced then do
      let ds ← bracedHex ((← ahead).length + 1) []
      step
      pure ds
    else fixedHex width []
  match (digits? 16 digits).bind charOfCode? with
  | some c => pure (.char c (width = 2 && !braced))
  | none => fail

/-- Folds case if the flags ask for it, then negates. -/
def foldAndNegate (f : Flags) (negated : Bool) (s : CodeSet) : Reader CodeSet := do
  let folded :=
    if !f.ignoreCase then s
    else if f.unicode then Class.closeCase s else Class.closeAsciiCase s
  require (f.unicode || !negated)
  pure (if negated then folded.complement else folded)

/-- Characters up to the closing brace of a property name. -/
def bracedName : Nat → List Char → Reader (List Char)
  | 0, _ => fail
  | fuel + 1, acc => do
    stepInside
    let c ← peek
    if c = '}' then pure acc.reverse else bracedName fuel (c :: acc)

/-- Splits at the first occurrence of a text. -/
def splitAt? (mark : List Char) : List Char → List Char → Option (List Char × List Char)
  | before, [] => if mark.isEmpty then some (before.reverse, []) else none
  | before, c :: cs =>
    if mark.isPrefixOf (c :: cs) then some (before.reverse, (c :: cs).drop mark.length)
    else splitAt? mark (c :: before) cs

/-- A property of characters, after `\p` or `\P`. -/
def propertyEscape (upper : Bool) : Reader Atom := do
  stepInside
  let f ← flags
  require f.unicode
  let c ← peek
  if c = '{' then
    let name ← bracedName ((← ahead).length + 1) []
    skip 1
    let (negated, set?) :=
      match splitAt? ['!', '='] [] name with
      | some (n, v) => (!upper, Class.ofNameValue? n v)
      | none =>
        match (splitAt? [':'] [] name).or (splitAt? ['='] [] name) with
        | some (n, v) => (upper, Class.ofNameValue? n v)
        | none => (upper, Class.ofName? name)
    match set? with
    | some s => return .set (← foldAndNegate f negated s)
    | none => fail
  else
    require (c != '\\')
    step
    match Class.ofName? [c] with
    | some s => return .set (← foldAndNegate f upper s)
    | none => fail

/-- The set of `\d`, `\s`, `\w` and their complements. -/
def namedClass (f : Flags) (c : Char) : Reader Atom := do
  let set := match f.unicode, c.toLower with
    | true, 'd' => Class.digit
    | true, 's' => Class.space
    | true, _ => Class.word
    | false, 'd' => Class.asciiDigit
    | false, 's' => Class.asciiSpace
    | false, _ => Class.asciiWord
  require (f.unicode || c.isLower)
  pure (.set (if c.isUpper then set.complement else set))

/-- Letters and hyphens up to a closing brace. -/
def boundaryName : Nat → List Char → Reader (List Char)
  | 0, _ => fail
  | fuel + 1, acc => do
    let c ← peek
    if c.isAlpha || c = '-' then do
      step
      boundaryName fuel (c :: acc)
    else do
      require (c = '}')
      skip 1
      pure acc.reverse

/-- What follows `\b`: one of the named word boundaries, or nothing that belongs to it. -/
def wordBoundaryEscape (u : Bool) : Reader Atom := do
  if (← peek?) != some '{' then pure (.look (.wordBoundary u))
  else
    let before ← get
    stepInside
    let c ← peek
    if !(c.isAlpha || c = '-') then
      set before
      pure (.look (.wordBoundary u))
    else
      match String.ofList (← boundaryName ((← ahead).length + 1) []) with
      | "start" => pure (.look (.wordStart u))
      | "end" => pure (.look (.wordEnd u))
      | "start-half" => pure (.look (.halfWordStart u))
      | "end-half" => pure (.look (.halfWordEnd u))
      | _ => fail

/-- What a backslash and the characters after it stand for. -/
def escapeAtom : Reader Atom := do
  skip 1
  let c ← peek
  let f ← flags
  match c with
  | 'x' => hexEscape 2
  | 'u' => hexEscape 4
  | 'U' => hexEscape 8
  | 'p' => propertyEscape false
  | 'P' => propertyEscape true
  | 'd' | 's' | 'w' | 'D' | 'S' | 'W' => do
    skip 1
    namedClass f c
  | _ => do
    skip 1
    if isEscapable c then pure (.char c false)
    else
      match c with
      | 'a' => pure (.char '\x07' false)
      | 'f' => pure (.char '\x0c' false)
      | 't' => pure (.char '\t' false)
      | 'n' => pure (.char '\n' false)
      | 'r' => pure (.char '\r' false)
      | 'v' => pure (.char '\x0b' false)
      | 'A' => pure (.look .textStart)
      | 'z' => pure (.look .textEnd)
      | 'b' => wordBoundaryEscape f.unicode
      | 'B' => pure (.look (.notWordBoundary f.unicode))
      | '<' => pure (.look (.wordStart f.unicode))
      | '>' => pure (.look (.wordEnd f.unicode))
      | _ => fail

/-! ## Bracketed classes -/

/-- The code of a literal inside a class; where classes are not Unicode it has to be ASCII. -/
def literalCode (c : Char) : Reader Nat := do
  require ((← flags).unicode || c.toNat < 0x80)
  pure c.toNat

/-- The set of a single item. -/
def itemSet : Item → Reader CodeSet
  | .char c _ => do
    let n ← literalCode c
    pure ⟨#[(n, n)]⟩
  | .set s => pure s

/-- One escape or plain character inside a class. -/
def classItem : Reader Item := do
  if (← peek) = '\\' then
    match ← escapeAtom with
    | .char c b => pure (.char c b)
    | .set s => pure (.set s)
    | .look _ => fail
  else
    let c ← peek
    skip 1
    pure (.char c false)

/-- An item, or a range between two literals. -/
def classRange : Reader CodeSet := do
  let first ← classItem
  skipBlanks
  let next ← peek
  let past ← peekPast
  if next != '-' || past = some ']' || past = some '-' then itemSet first
  else
    stepInside
    match first, ← classItem with
    | .char a _, .char b _ => do
      let low ← literalCode a
      let high ← literalCode b
      require (low ≤ high)
      pure ⟨#[(low, high)]⟩
    | _, _ => fail

/-- A class such as `[:alpha:]`; nothing is consumed if there is none. -/
def asciiClass? : Reader (Option CodeSet) := do
  let before ← get
  let found? : Option (Bool × String × List Char) :=
    match before.rest with
    | '[' :: ':' :: rest =>
      let (negated, body) := match rest with
        | '^' :: r => (true, r)
        | r => (false, r)
      match body.dropWhile (· != ':') with
      | ':' :: ']' :: after => some (negated, String.ofList (body.takeWhile (· != ':')), after)
      | _ => none
    | _ => none
  match found? with
  | none => pure none
  | some (negated, name, after) =>
    match Class.ofAsciiName? name with
    | none => pure none
    | some s => do
      set { before with rest := after }
      return some (← foldAndNegate before.flags negated s)

/-- How two operands inside a class are combined. -/
inductive SetOperation where
  | intersection
  | difference
  | symmetricDifference

/-- Applies an operation to operands that are closed under case first if the flags ask for it. -/
def SetOperation.apply (f : Flags) (op : SetOperation) (a b : CodeSet) : CodeSet :=
  let close := fun s =>
    if !f.ignoreCase then s
    else if f.unicode then Class.closeCase s else Class.closeAsciiCase s
  match op with
  | .intersection => (close a).intersect (close b)
  | .difference => (close a).difference (close b)
  | .symmetricDifference => (close a).symmetricDifference (close b)

/-- Everything read of one bracketed class so far: the operand to the left with its operation, the
items of the operand being read, how many there are, and how deep they nest. -/
structure ClassState where
  left : Option (CodeSet × SetOperation)
  union : CodeSet
  items : Nat
  depth : Nat
  leftDepth : Nat

namespace ClassState

/-- Nothing read yet. -/
def start : ClassState := ⟨none, .empty, 0, 0, 0⟩

/-- Adds an item of the given depth. -/
def add (s : ClassState) (set : CodeSet) (depth : Nat) : ClassState :=
  { s with union := s.union.union set, items := s.items + 1, depth := max s.depth depth }

/-- The value of the operands read so far. -/
def value (f : Flags) (s : ClassState) : CodeSet :=
  match s.left with
  | none => s.union
  | some (left, op) => op.apply f left s.union

/-- How deep the operands read so far nest; several items count as one level. -/
def nesting (s : ClassState) : Nat :=
  let right := if s.items ≤ 1 then s.depth else s.depth + 1
  if s.left.isSome then max s.leftDepth right + 1 else right

/-- Closes the operand being read and starts the right operand of an operation. -/
def operate (f : Flags) (op : SetOperation) (s : ClassState) : ClassState :=
  ⟨some (s.value f, op), .empty, 0, 0, s.nesting⟩

end ClassState

/-- The opening of a class: whether it is negated, and the characters that are literal there
although they have a meaning elsewhere. -/
def classOpening : Nat → Reader (Bool × ClassState)
  | fuel => do
    stepInside
    let negated := (← peek) = '^'
    if negated then stepInside
    let state ← hyphens fuel ClassState.start
    if state.items = 0 && (← peek) = ']' then
      stepInside
      pure (negated, state.add (.single ']') 0)
    else pure (negated, state)
where
  hyphens : Nat → ClassState → Reader ClassState
    | 0, _ => fail
    | fuel + 1, state => do
      if (← peek) = '-' then
        stepInside
        hyphens fuel (state.add (.single '-') 0)
      else pure state

/-- The rest of a class after its opening, up to and including the closing bracket. -/
def classBody : Nat → Bool → ClassState → Reader (CodeSet × Nat)
  | 0, _, _ => fail
  | fuel + 1, negated, state => do
    skipBlanks
    let f ← flags
    match ← ahead with
    | [] => fail
    | ']' :: _ => do
      skip 1
      let set ← foldAndNegate f negated (state.value f)
      pure (set, state.nesting + 1)
    | '&' :: '&' :: _ => do
      skip 2
      classBody fuel negated (state.operate f .intersection)
    | '-' :: '-' :: _ => do
      skip 2
      classBody fuel negated (state.operate f .difference)
    | '~' :: '~' :: _ => do
      skip 2
      classBody fuel negated (state.operate f .symmetricDifference)
    | '[' :: _ => do
      match ← asciiClass? with
      | some s => classBody fuel negated (state.add s 0)
      | none => do
        let (innerNegated, inner) ← classOpening fuel
        let (set, depth) ← classBody fuel innerNegated inner
        classBody fuel negated (state.add set depth)
    | _ => do
      let s ← classRange
      classBody fuel negated (state.add s 0)

/-- A bracketed class. -/
def bracketed (fuel : Nat) : Reader Piece := do
  let (negated, state) ← classOpening fuel
  let (set, depth) ← classBody fuel negated state
  pure (.expr (.oneOf set) depth)

/-! ## Repetition -/

/-- Digits, with blanks allowed around them. -/
def countDigits : Nat → List Char → Reader (List Char)
  | 0, _ => fail
  | fuel + 1, acc => do
    match ← peek? with
    | some c =>
      if c.isDigit then do
        step
        countDigits fuel (c :: acc)
      else pure acc.reverse
    | none => pure acc.reverse

/-- Drops white space, whether or not the flags let it count. -/
def skipSpace : Reader Unit := modify (fun s => { s with rest := s.rest.dropWhile Class.space.has })

/-- A repetition count, which has to fit 32 bits. -/
def count (fuel : Nat) : Reader Nat := do
  skipSpace
  let ds ← countDigits fuel []
  skipSpace
  match (digits? 10 ds).filter (· < UInt32.size) with
  | some n => pure n
  | none => fail

/-- A repetition of a piece; a following question mark makes it reluctant. -/
def repeatPiece (piece : Option Piece) (min : Nat) (max : Option Nat) : Reader Piece := do
  let reluctant := (← peek?) = some '?'
  if reluctant then skip 1
  match piece with
  | some (.expr e depth) => do
    let greedy := reluctant == (← flags).swapGreed
    pure (.expr (Expr.repeated min max greedy e) (depth + 1))
  | _ => fail

/-- The bounds in braces, and the repetition. -/
def countedRepetition (fuel : Nat) (piece : Option Piece) : Reader Piece := do
  stepInside
  let low ← count fuel
  let high ←
    if (← peek) = ',' then do
      stepInside
      if (← peek) = '}' then pure none else some <$> count fuel
    else pure (some low)
  require ((← peek) = '}')
  step
  require (high.all (low ≤ ·))
  repeatPiece piece low high

/-! ## Groups, sequences and alternatives -/

/-- Whether a character can start a group name. -/
def startsGroupName (c : Char) : Bool := c = '_' || Property.alphabetic.members.has c

/-- Whether a character can go on in a group name. -/
def continuesGroupName (c : Char) : Bool :=
  startsGroupName c || c = '.' || c = '[' || c = ']' || Category.decimalNumber.has c ||
    Category.letterNumber.has c || Category.otherNumber.has c

/-- Takes the next group number. -/
def nextGroup : Reader Nat := do
  let s ← get
  set { s with groups := s.groups + 1 }
  pure (s.groups + 1)

/-- A group name up to its closing angle, which no other group has. -/
def groupName (index : Nat) : Reader Unit := do
  let s ← get
  let name := s.rest.takeWhile (· != '>')
  let after := s.rest.dropWhile (· != '>')
  require (!after.isEmpty && !name.isEmpty)
  require (name.head?.any startsGroupName && name.all continuesGroupName)
  let text := String.ofList name
  require (s.names.all (fun n => n.1 != text))
  set { s with rest := after.drop 1, names := (text, index) :: s.names }

/-- Sets one flag by its letter. -/
def Flags.set? (f : Flags) (c : Char) (on : Bool) : Option Flags :=
  match c with
  | 'i' => some { f with ignoreCase := on }
  | 'm' => some { f with multiLine := on }
  | 's' => some { f with dotAll := on }
  | 'U' => some { f with swapGreed := on }
  | 'u' => some { f with unicode := on }
  | 'R' => some { f with crlf := on }
  | 'x' => some { f with verbose := on }
  | _ => none

/-- Flag letters, each at most once, with at most one minus that turns off what follows it; the
result tells whether there were any. -/
def flagLetters : Nat → List Char → Flags → Reader (Flags × Bool)
  | 0, _, _ => fail
  | fuel + 1, seen, f => do
    let c ← peek
    if c = ':' || c = ')' then do
      require (seen.head? != some '-')
      pure (f, !seen.isEmpty)
    else do
      require (!seen.contains c)
      skip 1
      if c = '-' then flagLetters fuel (c :: seen) f
      else
        match f.set? c (!seen.contains '-') with
        | some f' => flagLetters fuel (c :: seen) f'
        | none => fail

/-- How a group starts. -/
inductive Opening where
  /-- A change of flags, without a body. -/
  | flagsOnly (f : Flags)
  /-- A body, remembered under a number if there is one, with the flags that hold in it. -/
  | body (index : Option Nat) (f : Flags)

/-- Reads from the opening parenthesis to the start of the body. -/
def groupOpening (fuel : Nat) : Reader Opening := do
  step
  let f ← flags
  let rest ← ahead
  require !(["?=", "?!", "?<=", "?<!"].any (fun t => t.toList.isPrefixOf rest))
  if (← accept "?P<") || (← accept "?<") then
    let index ← nextGroup
    groupName index
    pure (.body (some index) f)
  else if ← accept "?" then
    let (f', any) ← flagLetters fuel [] f
    let c ← peek
    skip 1
    if c = ')' then
      require any
      pure (.flagsOnly f')
    else pure (.body none f')
  else
    let index ← nextGroup
    pure (.body (some index) f)

/-- The piece of a literal character, which stands for its other cases too if the flags say so. -/
def literalPiece (c : Char) (byte : Bool) : Reader Piece := do
  let f ← flags
  require (f.unicode || !byte || c.toNat < 0x80)
  let s := CodeSet.single c
  let folded :=
    if !f.ignoreCase then s
    else if f.unicode then Class.closeCase s else Class.closeAsciiCase s
  pure (.expr (.oneOf folded) 0)

/-- The piece of a dot. -/
def dotPiece : Reader Piece := do
  let f ← flags
  require f.unicode
  let excluded : CodeSet :=
    if f.dotAll then .empty else if f.crlf then .ofHex "A D" else .ofHex "A"
  pure (.expr (.oneOf excluded.complement) 0)

/-- A character, a dot, an anchor or an escape. -/
def primitive : Reader Piece := do
  let f ← flags
  match ← peek with
  | '\\' =>
    match ← escapeAtom with
    | .char c b => literalPiece c b
    | .set s => pure (.expr (.oneOf s) 0)
    | .look l => pure (.expr (.look l) 0)
  | '.' => do
    skip 1
    dotPiece
  | '^' => do
    skip 1
    pure (.expr (.look (if f.multiLine then .lineStart f.crlf else .textStart)) 0)
  | '$' => do
    skip 1
    pure (.expr (.look (if f.multiLine then .lineEnd f.crlf else .textEnd)) 0)
  | c => do
    skip 1
    literalPiece c false

namespace Piece

/-- The expression of a piece. -/
def toExpr : Piece → Expr
  | expr e _ => e
  | flags => .empty

/-- The nesting of a piece. -/
def depth : Piece → Nat
  | expr _ d => d
  | flags => 0

/-- Several pieces, joined by `join`, nest one level deeper than the deepest of them. -/
def combine (join : List Expr → Expr) : List Piece → Piece
  | [] => .expr .empty 0
  | [.flags] => .expr .empty 0
  | [p] => p
  | ps => .expr (join (ps.map toExpr)) ((ps.map depth).foldl max 0 + 1)

/-- The sequence of pieces, given last first. -/
def sequence (reversed : List Piece) : Piece := combine Expr.sequence reversed.reverse

end Piece

/-- Alternatives up to a closing parenthesis or the end of the text. The pieces of the current
sequence and the finished alternatives are given last first. -/
def alternatives : Nat → List Piece → List Piece → Reader Piece
  | 0, _, _ => fail
  | fuel + 1, current, done => do
    skipBlanks
    match ← peek? with
    | none | some ')' =>
      let last := Piece.sequence current
      pure (if done.isEmpty then last else Piece.combine Expr.choice (last :: done).reverse)
    | some '|' => do
      skip 1
      alternatives fuel [] (Piece.sequence current :: done)
    | some '(' => do
      match ← groupOpening fuel with
      | .flagsOnly f => do
        modify (fun s => { s with flags := f })
        alternatives fuel (.flags :: current) done
      | .body index f => do
        let outer ← flags
        modify (fun s => { s with flags := f })
        let body ← alternatives fuel [] []
        require ((← peek?) = some ')')
        skip 1
        modify (fun s => { s with flags := outer })
        let e := match index with
          | some i => Expr.group i body.toExpr
          | none => body.toExpr
        alternatives fuel (.expr e (body.depth + 1) :: current) done
    | some '[' => do
      let piece ← bracketed fuel
      alternatives fuel (piece :: current) done
    | some '?' => do
      skip 1
      let piece ← repeatPiece current.head? 0 (some 1)
      alternatives fuel (piece :: current.tail) done
    | some '*' => do
      skip 1
      let piece ← repeatPiece current.head? 0 none
      alternatives fuel (piece :: current.tail) done
    | some '+' => do
      skip 1
      let piece ← repeatPiece current.head? 1 none
      alternatives fuel (piece :: current.tail) done
    | some '{' => do
      let piece ← countedRepetition fuel current.head?
      alternatives fuel (piece :: current.tail) done
    | some _ => do
      let piece ← primitive
      alternatives fuel (piece :: current) done

/-- A whole pattern: an expression, the number of its groups, and their names. -/
structure Parsed where
  expr : Expr
  groups : Nat
  names : List (String × Nat)

/-- Reads a pattern; `none` if it is not valid, or too large to be matched. -/
def parse? (pattern : List Char) : Option Parsed := do
  let fuel := 2 * pattern.length + 2
  let (piece, s) ← (alternatives fuel [] []).run ⟨pattern, .initial, 0, []⟩
  guard (s.rest.isEmpty ∧ piece.depth ≤ depthLimit ∧ piece.toExpr.cost ≤ Expr.costLimit)
  pure ⟨piece.toExpr, s.groups, s.names⟩

end Harvest.Pattern

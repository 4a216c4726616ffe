import Harvest.Document.Toml.Draft
import Harvest.Text.Scanner
import Harvest.Time.Moment

/-!
# TOML

Reading documents as TOML 1.1. The text is a sequence of lines, each a header, an entry or nothing;
entries belong to the header above them. Numbers with a fraction, dates and times are checked and kept
as they are written.
-/

namespace Harvest.Toml

open Text Text.Scanner

/-! ## Lines -/

/-- Space and tab. -/
def isBlank (c : Char) : Bool := c == ' ' || c == '\t'

/-- Characters that texts and comments may hold as they are: all but control characters; a tab is
allowed. -/
def isPlain (c : Char) : Bool := c == '\t' || (0x20 ≤ c.toNat && c.toNat != 0x7F)

/-- Drops spaces and tabs. -/
def blanks : Scanner Unit := do
  let _ ← takeWhile isBlank

/-- Takes a line end if there is one. -/
def acceptLineEnd : Scanner Bool := do
  if ← accept "\n" then pure true else accept "\r\n"

/-- Drops a comment if there is one. -/
def comment : Scanner Unit := do
  if ← accept "#" then
    let _ ← takeWhile isPlain

/-- Drops what may end a line: blanks and a comment, then the line end or the end of the text. -/
def endOfLine : Scanner Unit := do
  blanks
  comment
  if !(← atEnd) then require (← acceptLineEnd)

/-- Drops blanks, comments and line ends. -/
def gap : Nat → Scanner Unit
  | 0 => fail
  | fuel + 1 => do
    blanks
    comment
    if ← acceptLineEnd then gap fuel

/-! ## Texts -/

/-- A character by the digits of its code. -/
def coded (digits : Nat) : Scanner Char := do
  match digits? 16 (← takeExactly digits (fun c => (digit? 16 c).isSome)) with
  | some n => if h : n.isValidChar then pure (Char.ofNatAux n h) else fail
  | none => fail

/-- The character that a backslash and the characters after it stand for. -/
def escape : Scanner Char := do
  match ← next with
  | 'b' => pure '\x08'
  | 't' => pure '\t'
  | 'n' => pure '\n'
  | 'f' => pure '\x0c'
  | 'r' => pure '\r'
  | 'e' => pure '\x1b'
  | '"' => pure '"'
  | '\\' => pure '\\'
  | 'x' => coded 2
  | 'u' => coded 4
  | 'U' => coded 8
  | _ => fail

/-- The rest of a text on one line, up to its quote. -/
def lineText (quote : Char) : Nat → List Char → Scanner String
  | 0, _ => fail
  | fuel + 1, acc => do
    let c ← next
    if c == quote then pure (String.ofList acc.reverse)
    else if c == '\\' && quote == '"' then
      let e ← escape
      lineText quote fuel (e :: acc)
    else do
      require (isPlain c)
      lineText quote fuel (c :: acc)

/-- Drops white space over line ends, after a backslash that ends a line. -/
def continuation : Nat → Scanner Unit
  | 0 => fail
  | fuel + 1 => do
    blanks
    if ← acceptLineEnd then continuation fuel

/-- The rest of a text over several lines, up to three quotes. One or two more quotes before these
belong to the text. A backslash at the end of a line takes out the white space that follows. -/
def longText (quote : Char) : Nat → List Char → Scanner String
  | 0, _ => fail
  | fuel + 1, acc => do
    let quotes ← takeWhile (· == quote)
    if 3 ≤ quotes.length then do
      require (quotes.length ≤ 5)
      pure (String.ofList (quotes.drop 3 ++ acc).reverse)
    else do
      let acc := quotes ++ acc
      if ← accept "\r\n" then longText quote fuel ('\n' :: '\r' :: acc)
      else
        let c ← next
        if c == '\\' && quote == '"' then
          let after ← get
          match after.dropWhile isBlank with
          | '\n' :: _ => do
            continuation (after.length + 1)
            longText quote fuel acc
          | '\r' :: '\n' :: _ => do
            continuation (after.length + 1)
            longText quote fuel acc
          | _ => do
            let e ← escape
            longText quote fuel (e :: acc)
        else do
          require (isPlain c || c == '\n')
          longText quote fuel (c :: acc)

/-- A text after its first quote. -/
def quotedText (quote : Char) (fuel : Nat) : Scanner String := do
  let two := String.ofList [quote, quote]
  if ← accept two then do
    let _ ← acceptLineEnd
    longText quote fuel []
  else lineText quote fuel []

/-! ## Keys -/

/-- Characters of keys without quotes. -/
def isKeyChar (c : Char) : Bool := c.isAlphanum || c == '_' || c == '-'

/-- One part of a key. -/
def keyPart (fuel : Nat) : Scanner String := do
  if ← accept "\"" then lineText '"' fuel []
  else if ← accept "'" then lineText '\'' fuel []
  else do
    let cs ← takeWhile isKeyChar
    require (!cs.isEmpty)
    pure (String.ofList cs)

/-- The parts of a key that follow the first; they are joined by dots. -/
def keyRest : Nat → List String → String → Scanner (List String × String)
  | 0, _, _ => fail
  | fuel + 1, path, last => do
    blanks
    if ← accept "." then do
      blanks
      let part ← keyPart fuel
      keyRest fuel (path ++ [last]) part
    else pure (path, last)

/-- A key: the parts that lead to a table, and the name in it. -/
def key (fuel : Nat) : Scanner (List String × String) := do
  let first ← keyPart fuel
  keyRest fuel [] first

/-! ## Numbers, dates and times -/

/-- Digits of a base, with single underscores between digits; the underscores are left out. -/
def grouped? (base : Nat) (cs : List Char) : Option (List Char) :=
  let groups := cs.splitOn '_'
  if groups.all (fun g => !g.isEmpty && g.all (fun c => (digit? base c).isSome)) then
    some groups.flatten
  else none

/-- Digits of a whole number: no zero in front of others. -/
def wholeDigits? (cs : List Char) : Option (List Char) :=
  (grouped? 10 cs).filter (fun ds => ds.length = 1 || ds.head? != some '0')

/-- Drops a sign; whether it was a minus. -/
def unsigned (cs : List Char) : Bool × List Char :=
  match cs with
  | '-' :: r => (true, r)
  | '+' :: r => (false, r)
  | r => (false, r)

/-- A whole number in a base other than ten. -/
def based? (base : Nat) (cs : List Char) : Option Document :=
  ((grouped? base cs).bind (digits? base)).map (fun n => .int n)

/-- A whole number. -/
def whole? (cs : List Char) : Option Document :=
  match cs with
  | '0' :: 'x' :: r => based? 16 r
  | '0' :: 'o' :: r => based? 8 r
  | '0' :: 'b' :: r => based? 2 r
  | _ =>
    let (negative, r) := unsigned cs
    ((wholeDigits? r).bind (digits? 10)).map fun n => .int (if negative then -(n : Int) else n)

/-- Whether characters are a number with a fraction, an exponent or both. -/
def isReal (cs : List Char) : Bool :=
  let (_, r) := unsigned cs
  if r = "inf".toList || r = "nan".toList then true
  else
    let mantissa := r.takeWhile (fun c => c != 'e' && c != 'E')
    let exponent := r.drop mantissa.length
    let wholePart := mantissa.takeWhile (· != '.')
    let fraction := mantissa.drop wholePart.length
    (!fraction.isEmpty || !exponent.isEmpty) &&
      (wholeDigits? wholePart).isSome &&
      (fraction.isEmpty || (grouped? 10 (fraction.drop 1)).isSome) &&
      (exponent.isEmpty || (grouped? 10 (unsigned (exponent.drop 1)).2).isSome)

/-- A number of two digits, within bounds. -/
def twoDigits? (low high : Nat) (cs : List Char) : Option Nat :=
  if cs.length = 2 then (digits? 10 cs).filter (fun n => low ≤ n && n ≤ high) else none

/-- Days of a month. -/
def monthLength (year month : Nat) : Nat :=
  if month = 2 then if year % 4 = 0 ∧ (year % 100 ≠ 0 ∨ year % 400 = 0) then 29 else 28
  else if month = 4 ∨ month = 6 ∨ month = 9 ∨ month = 11 then 30 else 31

/-- Whether characters are a date. -/
def isDate (cs : List Char) : Bool :=
  match cs.splitOn '-' with
  | [y, m, d] =>
    y.length == 4 &&
      (match digits? 10 y, twoDigits? 1 12 m with
        | some year, some month => (twoDigits? 1 (monthLength year month) d).isSome
        | _, _ => false)
  | _ => false

/-- Whether characters are hours and minutes. -/
def isHourMinute (cs : List Char) : Bool :=
  match cs.splitOn ':' with
  | [h, m] => (twoDigits? 0 23 h).isSome && (twoDigits? 0 59 m).isSome
  | _ => false

/-- Whether characters are a time; seconds and their fraction may be left out. -/
def isTime (cs : List Char) : Bool :=
  match cs.splitOn ':' with
  | [_, _] => isHourMinute cs
  | [h, m, s] =>
    isHourMinute (h ++ ':' :: m) &&
      (match s.splitOn '.' with
        | [whole] => (twoDigits? 0 60 whole).isSome
        | [whole, fraction] => (twoDigits? 0 60 whole).isSome && (digits? 10 fraction).isSome
        | _ => false)
  | _ => false

/-- Whether characters are a time with an offset, or without one. -/
def isTimeWithOffset (cs : List Char) : Bool :=
  let time := cs.takeWhile (fun c => c.isDigit || c == ':' || c == '.')
  isTime time &&
    (match cs.drop time.length with
      | [] => true
      | ['Z'] => true
      | ['z'] => true
      | '+' :: offset => isHourMinute offset
      | '-' :: offset => isHourMinute offset
      | _ => false)

/-- Whether characters are a date, a time, or a date and a time. -/
def isMoment (cs : List Char) : Bool :=
  let date := cs.take 10
  match cs.drop 10 with
  | [] => isDate cs || isTime cs
  | c :: time =>
    isTime cs ||
      (isDate date && (c == 'T' || c == 't' || c == ' ') && isTimeWithOffset time)

/-- The value of characters that are no text, list or table. -/
def scalar? (cs : List Char) : Option Document :=
  if cs = "true".toList then some (.bool true)
  else if cs = "false".toList then some (.bool false)
  else
    match whole? cs with
    | some d => some d
    | none =>
      if isReal cs then some (.real (String.ofList cs))
      else if isMoment cs then some (.moment (String.ofList cs))
      else none

/-- Characters of values that are no text, list or table. -/
def isScalarChar (c : Char) : Bool := isKeyChar c || c == '+' || c == '.' || c == ':'

/-- A value that is no text, list or table. A date may be followed by a blank and a time. -/
def scalar : Scanner Document := do
  let cs ← takeWhile isScalarChar
  let rest ← get
  let all ←
    match rest with
    | ' ' :: c :: _ =>
      if isDate cs && c.isDigit then do
        let _ ← next
        let time ← takeWhile isScalarChar
        pure (cs ++ ' ' :: time)
      else pure cs
    | _ => pure cs
  match scalar? all with
  | some d => pure d
  | none => fail

/-! ## Values -/

/-- How deeply lists and tables may be nested. -/
def maxDepth : Nat := 80

mutual

/-- A value at a depth of nesting. -/
def value : Nat → Nat → Scanner Document
  | 0, _ => fail
  | fuel + 1, depth => do
    match ← peek? with
    | some '"' => do
      let _ ← next
      .text <$> quotedText '"' fuel
    | some '\'' => do
      let _ ← next
      .text <$> quotedText '\'' fuel
    | some '[' => do
      let _ ← next
      require (depth < maxDepth)
      items fuel (depth + 1) []
    | some '{' => do
      let _ ← next
      require (depth < maxDepth)
      entries fuel (depth + 1) []
    | _ => scalar

/-- The elements of a list up to its bracket; those read already are given last first. -/
def items : Nat → Nat → List Document → Scanner Document
  | 0, _, _ => fail
  | fuel + 1, depth, acc => do
    gap (fuel + 1)
    if ← accept "]" then pure (.list acc.reverse)
    else do
      let d ← value fuel depth
      gap (fuel + 1)
      if ← accept "," then items fuel depth (d :: acc)
      else do
        require (← accept "]")
        pure (.list (d :: acc).reverse)

/-- The entries of a table in braces, up to the closing one. -/
def entries : Nat → Nat → Entries → Scanner Document
  | 0, _, _ => fail
  | fuel + 1, depth, es => do
    gap (fuel + 1)
    if ← accept "\x7d" then pure (.table (entriesToDocument es))
    else do
      let (path, last) ← key fuel
      expect '='
      blanks
      let d ← value fuel depth
      match es.assign path last d with
      | none => fail
      | some es => do
        gap (fuel + 1)
        if ← accept "," then entries fuel depth es
        else do
          require (← accept "\x7d")
          pure (.table (entriesToDocument es))

end

/-! ## Documents -/

/-- The header of a table: whether it adds to a list, and where the table is. -/
structure Header where
  isItem : Bool
  path : List String
  key : String

/-- A line that says something. -/
inductive Statement where
  | header (h : Header)
  | entry (path : List String) (key : String) (d : Document)

/-- One line, if it says something. -/
def line (fuel : Nat) : Scanner (Option Statement) := do
  blanks
  match ← peek? with
  | none => pure none
  | some '#' => do
    endOfLine
    pure none
  | some '\n' => do
    endOfLine
    pure none
  | some '\r' => do
    endOfLine
    pure none
  | some '[' => do
    let _ ← next
    let isItem ← accept "["
    blanks
    let (path, last) ← key fuel
    expect ']'
    if isItem then expect ']'
    endOfLine
    pure (some (.header ⟨isItem, path, last⟩))
  | some _ => do
    let (path, last) ← key fuel
    expect '='
    blanks
    let d ← value fuel 0
    endOfLine
    pure (some (.entry path last d))

/-- All lines that say something. -/
def lines (size : Nat) : Nat → List Statement → Scanner (List Statement)
  | 0, _ => fail
  | fuel + 1, acc => do
    if ← atEnd then pure acc.reverse
    else
      match ← line size with
      | some s => lines size fuel (s :: acc)
      | none => lines size fuel acc

/-- A header, none for the document itself, with the entries that belong to it. -/
structure Section where
  header : Option Header
  entries : List (List String × String × Document)

/-- Puts the statements that follow a header into sections. -/
def sections (current : Section) : List Statement → List Section
  | [] => [current]
  | .header h :: rest => current :: sections ⟨some h, []⟩ rest
  | .entry path key d :: rest =>
    sections { current with entries := current.entries ++ [(path, key, d)] } rest

/-- Adds the entries of a section to a table. -/
def Section.fill (s : Section) (es : Entries) : Option Entries :=
  s.entries.foldlM (fun es e => es.assign e.1 e.2.1 e.2.2) es

/-- Adds a section to the document. -/
def Section.addTo (s : Section) (es : Entries) : Option Entries :=
  match s.header with
  | none => s.fill es
  | some h => if h.isItem then es.openItem h.path h.key s.fill else es.openTable h.path h.key s.fill

/-- The document that statements make up. -/
def assemble? (statements : List Statement) : Option Document :=
  ((sections ⟨none, []⟩ statements).foldlM (fun es s => Section.addTo s es) []).map
    fun es => .table (entriesToDocument es)

/-- Drops the mark that may start a text. -/
def withoutMark : List Char → List Char
  | '\uFEFF' :: cs => cs
  | cs => cs

/-- Reads a whole text. -/
def parse? (s : String) : Option Document :=
  let cs := withoutMark s.toList
  let size := 2 * cs.length + 2
  (runAll (lines size size []) cs).bind assemble?

end Harvest.Toml

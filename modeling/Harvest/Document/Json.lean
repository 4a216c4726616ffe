import Harvest.Document
import Harvest.Text.Scanner

/-!
# JSON

Reading and writing documents as JSON. Integers are those written without fraction and exponent that
fit 64 bits, with or without sign; every other number is kept as it is written. Texts are written
with the short escapes where JSON has them, other control characters by their code, and everything
else as it is.
-/

namespace Harvest.Document.Json

open Text Text.Scanner

/-- Drops white space. -/
def blanks : Scanner Unit := do
  let _ ← takeWhile (fun c => c == ' ' || c == '\t' || c == '\n' || c == '\r')

/-- Four hexadecimal digits as a number. -/
def fourHex : Scanner Nat := do
  match digits? 16 (← takeExactly 4 (fun c => (digit? 16 c).isSome)) with
  | some n => pure n
  | none => fail

/-- The character of a code. -/
def charOf (n : Nat) : Scanner Char :=
  if h : n.isValidChar then pure (Char.ofNatAux n h) else fail

/-- A character by its code; codes beyond 16 bits are written as two surrogates. -/
def unicodeEscape : Scanner Char := do
  let high ← fourHex
  if 0xD800 ≤ high ∧ high < 0xDC00 then
    expect '\\'
    expect 'u'
    let low ← fourHex
    require (0xDC00 ≤ low && low < 0xE000)
    charOf (0x10000 + (high - 0xD800) * 0x400 + (low - 0xDC00))
  else charOf high

/-- What a backslash and the characters after it stand for. -/
def escapeChar : Scanner Char := do
  match ← next with
  | '"' => pure '"'
  | '\\' => pure '\\'
  | '/' => pure '/'
  | 'b' => pure '\x08'
  | 'f' => pure '\x0c'
  | 'n' => pure '\n'
  | 'r' => pure '\r'
  | 't' => pure '\t'
  | 'u' => unicodeEscape
  | _ => fail

/-- The rest of a text after its opening quote. -/
def textBody : Nat → List Char → Scanner String
  | 0, _ => fail
  | fuel + 1, acc => do
    match ← next with
    | '"' => pure (String.ofList acc.reverse)
    | '\\' => do
      let c ← escapeChar
      textBody fuel (c :: acc)
    | c => do
      require (0x20 ≤ c.toNat)
      textBody fuel (c :: acc)

/-- A text. -/
def textValue (fuel : Nat) : Scanner String := do
  expect '"'
  textBody fuel []

/-- A number. -/
def number : Scanner Document := do
  let negative ← accept "-"
  let whole ← takeWhile Char.isDigit
  require (!whole.isEmpty && (whole.length = 1 || whole.head? != some '0'))
  let fraction ←
    if ← accept "." then do
      let ds ← takeWhile Char.isDigit
      require (!ds.isEmpty)
      pure ('.' :: ds)
    else pure []
  let exponent ←
    if (← peek?).any (fun c => c == 'e' || c == 'E') then do
      let e ← next
      let sign ← takeWhile (fun c => c == '+' || c == '-')
      require (sign.length ≤ 1)
      let ds ← takeWhile Char.isDigit
      require (!ds.isEmpty)
      pure (e :: sign ++ ds)
    else pure []
  let n := (digits? 10 whole).getD 0
  let literal := String.ofList ((if negative then ['-'] else []) ++ whole ++ fraction ++ exponent)
  if !fraction.isEmpty || !exponent.isEmpty then pure (.real literal)
  else if negative then
    if 0 < n ∧ Int64.minValue.toInt ≤ -(n : Int) then pure (.int (-(n : Int))) else pure (.real literal)
  else if n < UInt64.size then pure (.int n) else pure (.real literal)

mutual

/-- A value, after white space. -/
def value : Nat → Scanner Document
  | 0 => fail
  | fuel + 1 => do
    blanks
    match ← peek? with
    | some '"' => .text <$> textValue fuel
    | some '[' => do
      expect '['
      blanks
      if ← accept "]" then pure (.list []) else items fuel []
    | some '{' => do
      expect '{'
      blanks
      if ← accept "\x7d" then pure (.table []) else entries fuel []
    | some 't' => do
      require (← accept "true")
      pure (.bool true)
    | some 'f' => do
      require (← accept "false")
      pure (.bool false)
    | some 'n' => do
      require (← accept "null")
      pure .null
    | _ => number

/-- The elements of a list up to its bracket; those read already are given last first. -/
def items : Nat → List Document → Scanner Document
  | 0, _ => fail
  | fuel + 1, acc => do
    let d ← value fuel
    blanks
    match ← next with
    | ',' => items fuel (d :: acc)
    | ']' => pure (.list (d :: acc).reverse)
    | _ => fail

/-- The entries of a table up to its brace; those read already are given last first. -/
def entries : Nat → List (String × Document) → Scanner Document
  | 0, _ => fail
  | fuel + 1, acc => do
    blanks
    let key ← textValue fuel
    blanks
    expect ':'
    let d ← value fuel
    blanks
    match ← next with
    | ',' => entries fuel ((key, d) :: acc)
    | '}' => pure (.table ((key, d) :: acc).reverse)
    | _ => fail

end

/-- Reads a whole text as one value. -/
def parse? (s : String) : Option Document :=
  let cs := s.toList
  runAll (do let d ← value (2 * cs.length + 2); blanks; pure d) cs

/-! ## Writing -/

/-- A character inside quotes. -/
def escaped (c : Char) : List Char :=
  match c with
  | '"' => ['\\', '"']
  | '\\' => ['\\', '\\']
  | '\n' => ['\\', 'n']
  | '\r' => ['\\', 'r']
  | '\t' => ['\\', 't']
  | '\x08' => ['\\', 'b']
  | '\x0c' => ['\\', 'f']
  | c => if c.toNat < 0x20 then '\\' :: 'u' :: padded 16 4 c.toNat else [c]

/-- A text in quotes. -/
def quoted (s : String) : String := "\"" ++ String.ofList (s.toList.flatMap escaped) ++ "\""

/-- How a document is laid out: on one line, or one element a line with an indentation. -/
structure Layout where
  indent : Option Nat

/-- Everything on one line. -/
def Layout.compact : Layout := ⟨none⟩

/-- One element a line, indented by two blanks a level. -/
def Layout.pretty : Layout := ⟨some 2⟩

/-- A line break and the indentation of a level. -/
def Layout.breakAt (l : Layout) (level : Nat) : String :=
  match l.indent with
  | none => ""
  | some width => "\n" ++ String.ofList (List.replicate (width * level) ' ')

/-- Elements between brackets. -/
def Layout.enclose (l : Layout) (level : Nat) (opening closing : String) (elements : List String) :
    String :=
  if elements.isEmpty then opening ++ closing
  else
    let inner := l.breakAt (level + 1)
    opening ++ inner ++ ("," ++ inner).intercalate elements ++ l.breakAt level ++ closing

/-- The mark between a key and its value. -/
def Layout.colon (l : Layout) : String := if l.indent.isSome then ": " else ":"

/-- A document at a level of nesting. -/
def write (l : Layout) (level : Nat) : Document → String
  | .null => "null"
  | .bool b => if b then "true" else "false"
  | .int n => String.ofList (signedDecimal n)
  | .real literal => literal
  | .text s => quoted s
  | .moment literal => quoted literal
  | .list items => l.enclose level "[" "]" (writeItems l level items)
  | .table entries => l.enclose level "\x7b" "\x7d" (writeEntries l level entries)
where
  writeItems (l : Layout) (level : Nat) : List Document → List String
    | [] => []
    | d :: ds => write l (level + 1) d :: writeItems l level ds
  writeEntries (l : Layout) (level : Nat) : List (String × Document) → List String
    | [] => []
    | (key, d) :: es => (quoted key ++ l.colon ++ write l (level + 1) d) :: writeEntries l level es

/-- A document on one line. -/
def compact (d : Document) : String := write .compact 0 d

/-- A document over several lines. -/
def pretty (d : Document) : String := write .pretty 0 d

end Harvest.Document.Json

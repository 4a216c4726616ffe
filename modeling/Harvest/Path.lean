/-!
# Identifiers as paths

Identifiers are paths whose components are parted by `/`. A trailing separator names the same entry
as the path without it. Comparison of paths ignores the case of ASCII letters.
-/

namespace Harvest.Path

/-- The separator between components. -/
def separator : Char := '/'

/-- Drops the characters at the end that satisfy `p`. -/
def dropEnd (p : Char → Bool) (cs : List Char) : List Char := (cs.reverse.dropWhile p).reverse

/-- Drops leading separators. -/
def trimStart (cs : List Char) : List Char := cs.dropWhile (· == separator)

/-- Drops trailing separators. -/
def trimEnd (cs : List Char) : List Char := dropEnd (· == separator) cs

/-- Drops separators at both ends. -/
def trim (cs : List Char) : List Char := trimEnd (trimStart cs)

/-- The pieces between separators, empty ones included. -/
def split (cs : List Char) : List (List Char) := cs.splitOn separator

/-- An identifier without trailing separators; what consists of separators only is the root. -/
def anchor (cs : List Char) : List Char :=
  match trimEnd cs with
  | [] => [separator]
  | trimmed => trimmed

/-- The characters after the last separator. -/
def lastPiece (cs : List Char) : List Char :=
  (cs.reverse.takeWhile (· != separator)).reverse

/-- Everything up to and including the last separator. -/
def upToLastPiece (cs : List Char) : List Char :=
  (cs.reverse.dropWhile (· != separator)).reverse

/-- The name of an entry: the last component of its identifier. -/
def name (id : String) : String := String.ofList (lastPiece (trimEnd id.toList))

/-- The identifier of a child called `name`. -/
def join (parent name : String) : String :=
  String.ofList (trimEnd parent.toList ++ separator :: trim name.toList)

/-- Equality of characters up to the case of ASCII letters. -/
def sameLetter (a b : Char) : Bool := a.toLower == b.toLower

/-- Equality up to the case of ASCII letters. -/
def same : List Char → List Char → Bool
  | [], [] => true
  | a :: as, b :: bs => sameLetter a b && same as bs
  | _, _ => false

/-- What follows `start` in a text that begins with it, up to the case of ASCII letters. -/
def after? : List Char → List Char → Option (List Char)
  | [], cs => some cs
  | s :: start, c :: cs => if sameLetter s c then after? start cs else none
  | _ :: _, [] => none

/-- What every identifier below `ancestor` starts with: the ancestor and a separator. -/
def stem (ancestor : String) : String := String.ofList (trimEnd ancestor.toList ++ [separator])

/-- Whether `id` lies strictly below `ancestor`: it starts with the ancestor and a separator. The
root, which starts with itself, is not below itself. -/
def below (ancestor id : String) : Bool :=
  (stem ancestor).toList.isPrefixOf id.toList && id != "/"

end Harvest.Path

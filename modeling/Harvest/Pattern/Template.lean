import Harvest.Text.Numeral

/-!
# Replacement templates

A template is text with references to groups. `$` and the longest run of ASCII letters, digits and
underscores, or `$` and anything in braces, refers to a group by number or by name; `$$` is a dollar
sign, and a dollar sign with nothing to refer to stands for itself.
-/

namespace Harvest.Pattern

/-- A piece of a template. -/
inductive TemplatePart where
  | text (c : Char)
  | number (n : Nat)
  | name (s : String)
deriving DecidableEq, Repr

namespace TemplatePart

/-- Characters of an unbraced reference. -/
def isReferenceChar (c : Char) : Bool := c.isAlphanum || c == '_'

/-- A reference by number if it reads as one, by name otherwise. -/
def reference (cs : List Char) : TemplatePart :=
  match Text.natural? (UInt64.size - 1) cs with
  | some n => .number n
  | none => .name (String.ofList cs)

/-- The reference at the front of what follows a dollar sign, and how many characters it takes. -/
def referenceAt? : List Char → Option (TemplatePart × Nat)
  | '{' :: cs =>
    let inner := cs.takeWhile (· != '}')
    if inner.length < cs.length then some (reference inner, inner.length + 2) else none
  | cs =>
    let run := cs.takeWhile isReferenceChar
    if run.isEmpty then none else some (reference run, run.length)

/-- The pieces of a template; `skip` characters have been taken by a reference already. -/
def parts : Nat → List Char → List TemplatePart
  | _, [] => []
  | skip + 1, _ :: cs => parts skip cs
  | 0, c :: cs =>
    if c = '$' then
      if cs.head? = some '$' then .text '$' :: parts 1 cs
      else match referenceAt? cs with
        | some (part, taken) => part :: parts taken cs
        | none => .text '$' :: parts 0 cs
    else .text c :: parts 0 cs

/-- The pieces of a template. -/
def ofText (template : String) : List TemplatePart := parts 0 template.toList

end TemplatePart

end Harvest.Pattern

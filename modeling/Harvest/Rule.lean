import Harvest.Entry

/-!
# Inclusion rules

A rule tree is an ordered list of scopes. Each scope is anchored at a path and owns an ordered list
of rules; the first rule that fits an entry decides about it. This module holds the types, what a
scope covers, and which trees make sense.
-/

namespace Harvest

/-- What a rule does with the entries it fits. -/
inductive Effect where
  | accept
  | reject
deriving DecidableEq, Repr

/-- What a rule asks of the entry's content. -/
inductive Indexable where
  | any
  | yes
  | no
deriving DecidableEq, Repr

/-- Whether content that is, or is not, indexable meets the demand. -/
def Indexable.accepts : Indexable → Bool → Bool
  | .any, _ => true
  | .yes, indexable => indexable
  | .no, indexable => !indexable

/-- Whether the demand can be met or missed depending on the content. -/
def Indexable.isConstrained (i : Indexable) : Bool := !(i.accepts true && i.accepts false)

/-- One rule. The glob is matched against the entry's name, or against its path below the scope if
the glob holds a separator. -/
structure Rule where
  effect : Effect
  glob : String
  kind : Option EntryKind
  indexable : Indexable
deriving DecidableEq, Repr

namespace Rule

/-- A rule that accepts what fits the glob. -/
def accept (glob : String) : Rule := ⟨.accept, glob, none, .any⟩

/-- A rule that rejects what fits the glob. -/
def reject (glob : String) : Rule := ⟨.reject, glob, none, .any⟩

/-- The rule restricted to one kind of entry. -/
def withKind (r : Rule) (kind : EntryKind) : Rule := { r with kind := some kind }

/-- The rule restricted by a demand on the content. -/
def withIndexable (r : Rule) (indexable : Indexable) : Rule := { r with indexable := indexable }

end Rule

/-- Rules for what lies at or below a path. -/
structure Scope where
  path : String
  rules : List Rule
deriving DecidableEq, Repr

namespace Scope

/-- A scope without rules. -/
def new (path : String) : Scope := ⟨path, []⟩

/-- The scope with one more rule at the end. -/
def withRule (s : Scope) (r : Rule) : Scope := { s with rules := s.rules ++ [r] }

/-- The path of the scope without trailing separators. -/
def anchor (s : Scope) : List Char := Path.anchor s.path.toList

/-- Whether the identifier is the path of the scope itself. -/
def isAnchor (s : Scope) (id : String) : Bool := Path.same (Path.anchor id.toList) s.anchor

/-- A path below an anchor: a separator and at least one character more. -/
def properTail : List Char → Option (List Char)
  | '/' :: c :: cs => some ('/' :: c :: cs)
  | _ => none

/-- The path of `id` below the scope, with its leading separator, if it lies strictly below. -/
def relative? (s : Scope) (id : String) : Option (List Char) :=
  if s.anchor = ['/'] then properTail id.toList
  else (Path.after? s.anchor id.toList).bind properTail

/-- Whether the scope has a say about the identifier. -/
def covers (s : Scope) (id : String) : Bool := s.isAnchor id || (s.relative? id).isSome

end Scope

/-- Ordered scopes, and the length above which no leaf is included. -/
structure RuleTree where
  maxLength : Option UInt64
  scopes : List Scope
deriving DecidableEq, Repr

/-- Why a tree cannot be evaluated meaningfully. Positions count from one. -/
inductive RuleTree.Defect where
  | relativePath (position : Nat) (path : String)
  | emptyGlob (path : String)
deriving DecidableEq, Repr

/-- The wording of a defect. -/
def RuleTree.Defect.message : RuleTree.Defect → String
  | .relativePath position path =>
    "scope #" ++ String.ofList (Nat.toDigits 10 position) ++ " has path '" ++ path ++
      "'; scope paths must start with '/'"
  | .emptyGlob path => "scope '" ++ path ++ "' contains a rule with an empty filespec"

namespace RuleTree

/-- The tree without scopes, which includes nothing. -/
def empty : RuleTree := ⟨none, []⟩

/-- The tree that includes everything. -/
def everything : RuleTree := ⟨none, [⟨"/", [Rule.accept "*"]⟩]⟩

/-- The tree with one more scope at the end. -/
def withScope (t : RuleTree) (s : Scope) : RuleTree := { t with scopes := t.scopes ++ [s] }

/-- The tree with a limit on the length of leaves. -/
def withMaxLength (t : RuleTree) (n : UInt64) : RuleTree := { t with maxLength := some n }

/-- The defect of one scope, given its position. -/
def scopeDefect? (position : Nat) (s : Scope) : Option Defect :=
  if s.path.toList.head? ≠ some '/' then some (.relativePath position s.path)
  else if s.rules.any (fun r => r.glob.isEmpty) then some (.emptyGlob s.path)
  else none

/-- The first defect of the scopes from the given position on. -/
def defectFrom? : Nat → List Scope → Option Defect
  | _, [] => none
  | position, s :: rest => (scopeDefect? position s).or (defectFrom? (position + 1) rest)

/-- The first defect, if the tree has one. -/
def defect? (t : RuleTree) : Option Defect := defectFrom? 1 t.scopes

/-- The scopes that have a say about an identifier, in order. -/
def covering (t : RuleTree) (id : String) : List Scope := t.scopes.filter (·.covers id)

end RuleTree

end Harvest

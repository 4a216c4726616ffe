import Harvest.Rule
import Harvest.Glob

/-!
# Inclusion decisions

One traversal answers every question about inclusion. The questions differ only in what is known of
the content: nothing yet, an assumption that it is or is not indexable, or the finding of a
fingerprint. Where nothing is known the traversal is permissive: a rule that would need the content
accepts if it accepts at all, and is passed over if it rejects.
-/

namespace Harvest

/-- Whether the content is indexable, as far as known. -/
abbrev Knowledge := Option Bool

/-- How a rule relates to an entry. -/
inductive Fit where
  | fits
  | misses
  | undecided
deriving DecidableEq, Repr

/-- Relates a rule to an entry at the path `relative` below the rule's scope: glob first, then kind,
then content. A container is never indexable. -/
def Rule.fit (r : Rule) (e : Entry) (relative : List Char) (known : Knowledge) : Fit :=
  let subject := if r.glob.toList.contains '/' then String.ofList relative else e.name
  if !Glob.matchesName subject r.glob then .misses
  else if r.kind.any (· != e.kind) then .misses
  else if !r.indexable.isConstrained then .fits
  else
    match (if e.isContainer then some false else known) with
    | none => .undecided
    | some indexable => if r.indexable.accepts indexable then .fits else .misses

namespace RuleTree

/-- The verdict of the first rule that decides. -/
def firstVerdict (e : Entry) (relative : List Char) (known : Knowledge) : List Rule → Option Bool
  | [] => none
  | r :: rest =>
    match r.fit e relative known with
    | .fits => some (r.effect == .accept)
    | .misses => firstVerdict e relative known rest
    | .undecided =>
      if r.effect == .accept then some true else firstVerdict e relative known rest

theorem firstVerdict_cons (e : Entry) (relative : List Char) (known : Knowledge) (r : Rule)
    (rules : List Rule) :
    firstVerdict e relative known (r :: rules) =
      match r.fit e relative known with
      | .fits => some (r.effect == .accept)
      | .misses => firstVerdict e relative known rules
      | .undecided =>
        if r.effect == .accept then some true else firstVerdict e relative known rules := (rfl)

/-- The verdict of the scopes in order; an entry that is the anchor of a scope is included. -/
def scopesVerdict (e : Entry) (known : Knowledge) : List Scope → Bool
  | [] => false
  | s :: rest =>
    if s.isAnchor e.id then true
    else
      match (s.relative? e.id).bind (fun relative => firstVerdict e relative known s.rules) with
      | some verdict => verdict
      | none => scopesVerdict e known rest

/-- Whether the entry is a leaf above the length limit. -/
def isTooLong (t : RuleTree) (e : Entry) : Bool :=
  !e.isContainer && t.maxLength.any (· < e.length)

/-- Whether the tree includes the entry, given what is known of its content. -/
def includes (t : RuleTree) (e : Entry) (known : Knowledge) : Bool :=
  !t.isTooLong e && scopesVerdict e known t.scopes

/-- Inclusion from the metadata alone. -/
def mayInclude (t : RuleTree) (e : Entry) : Bool := t.includes e none

/-- Inclusion under an assumption on the content. -/
def wouldInclude (t : RuleTree) (e : Entry) (indexable : Bool) : Bool := t.includes e (some indexable)

/-- Whether inclusion hinges on the content. -/
def dependsOnContent (t : RuleTree) (e : Entry) : Bool :=
  t.wouldInclude e true != t.wouldInclude e false

end RuleTree

end Harvest

import Harvest.Fingerprint
import Harvest.Proofs.Inclusion

/-!
# The permissive verdict

Inclusion from the metadata alone is decided before anything is known of the content. It is not a
guess at what the content will say: it includes an entry exactly if some answers to the question of
content do, where every rule that asks it is answered on its own (`mayInclude_envelope`). So nothing
that the content would include is given up early.

The answers need not be consistent. Two rules may be told opposite things of the same content, and an
entry may be let through although no content would include it (`mayInclude_envelope_torn`).

The traversal that goes by answers is stated apart from the one that decides, by searching for the
first rule that is met (`RuleTree.includesSupposing`). One rule at a time, what the permissive
traversal makes of the rule is compared with what either answer makes of it (`fit_none`). The answers
that lead to inclusion are read off the rules: each is told what an inclusion needs it to be told
(`Rule.lenient`).
-/

namespace Harvest

variable {e : Entry} {relative : List Char} {known : Knowledge} {s : Scope}

/-! ## Inclusion by answers -/

/-- Whether an entry at the path `relative` below the scope is one that the rule is about, apart from
its content. -/
def Rule.suits (r : Rule) (e : Entry) (relative : List Char) : Bool :=
  Glob.matchesName (if r.glob.toList.contains '/' then String.ofList relative else e.name) r.glob &&
    r.kind.all (· == e.kind)

/-- Whether the entry has all that the rule asks for, if the rule is told whether the content is
indexable. That of a container never is. -/
def Rule.meets (r : Rule) (e : Entry) (relative : List Char) (indexable : Bool) : Bool :=
  r.suits e relative && r.indexable.accepts (indexable && !e.isContainer)

/-- The verdict of a scope if its rules are told `suppose`, each by its position: that of the first
rule that is met. The anchor of the scope is included. -/
def Scope.verdictSupposing (s : Scope) (e : Entry) (suppose : Nat → Bool) : Option Bool :=
  if s.isAnchor e.id then some true
  else
    (s.relative? e.id).bind (fun relative =>
      (s.rules.zipIdx.find? (fun r => r.1.meets e relative (suppose r.2))).map
        (fun r => r.1.effect == .accept))

/-- Whether the tree includes the entry if its rules are told `suppose`, each by the position of its
scope and its own in it: a leaf has to keep to the limit, and the first scope with a verdict decides.
-/
def RuleTree.includesSupposing (t : RuleTree) (e : Entry) (suppose : Nat → Nat → Bool) : Bool :=
  (e.isContainer || t.maxLength.all (e.length ≤ ·)) &&
    (t.scopes.zipIdx.findSome? (fun s => s.1.verdictSupposing e (suppose s.2))).getD false

/-! ## One rule -/

theorem fit_eq (r : Rule) (e : Entry) (relative : List Char) (known : Knowledge) :
    r.fit e relative known =
      if r.suits e relative then
        if r.indexable.isConstrained then
          match (if e.isContainer then some false else known) with
          | none => .undecided
          | some indexable => if r.indexable.accepts indexable then .fits else .misses
        else .fits
      else .misses := by
  have hkind : r.kind.any (· != e.kind) = !r.kind.all (· == e.kind) := by
    cases r.kind with
    | none => rfl
    | some kind => rfl
  unfold Rule.fit Rule.suits
  dsimp only
  rw [hkind]
  generalize Glob.matchesName _ r.glob = matched
  generalize r.kind.all (· == e.kind) = right
  cases matched with
  | false => rfl
  | true =>
      cases right with
      | false => rfl
      | true =>
          cases r.indexable.isConstrained with
          | false => rfl
          | true => rfl

/-- With an answer to the question of content, a rule is met or not. -/
theorem fit_some (r : Rule) (e : Entry) (relative : List Char) (indexable : Bool) :
    r.fit e relative (some indexable) = if r.meets e relative indexable then .fits else .misses := by
  have hanswer : (if e.isContainer then some false else some indexable) =
      some (indexable && !e.isContainer) := by
    cases e.isContainer <;> simp
  rw [fit_eq, Rule.meets, hanswer]
  cases r.suits e relative with
  | false => rfl
  | true => cases r.indexable <;> cases indexable && !e.isContainer <;> rfl

/-- The question of content is not put to a container. -/
theorem fit_container (hkind : e.isContainer = true) (r : Rule) (relative : List Char)
    (known known' : Knowledge) : r.fit e relative known = r.fit e relative known' := by
  rw [fit_eq, fit_eq, if_pos hkind, if_pos hkind]

/-- The answer to the question of content that is in favour of the entry: with it, a rule that
accepts is met, and one that rejects is not, as far as it is for the answer to say. -/
def Rule.lenient (r : Rule) : Bool := r.indexable.accepts true == (r.effect == .accept)

/-- **What is made of a rule before anything is known of the content**: what both answers make of it,
or nothing if it is for the answer to say. -/
theorem fit_none (r : Rule) (e : Entry) (relative : List Char) :
    (r.fit e relative none = .fits ∧ ∀ indexable, r.meets e relative indexable = true) ∨
      (r.fit e relative none = .misses ∧ ∀ indexable, r.meets e relative indexable = false) ∨
      (r.fit e relative none = .undecided ∧
        r.meets e relative r.lenient = (r.effect == .accept)) := by
  cases hkind : e.isContainer with
  | true =>
      -- there is one answer only
      have hmeets : ∀ indexable, r.meets e relative indexable = r.meets e relative true := by
        intro indexable
        unfold Rule.meets
        rw [hkind]
        simp
      rw [fit_container hkind r relative none (some true), fit_some]
      cases htrue : r.meets e relative true with
      | true => exact Or.inl ⟨rfl, fun indexable => (hmeets indexable).trans htrue⟩
      | false => exact Or.inr (Or.inl ⟨rfl, fun indexable => (hmeets indexable).trans htrue⟩)
  | false =>
      unfold Rule.meets
      rw [fit_eq, hkind]
      cases r.suits e relative with
      | false => exact Or.inr (Or.inl ⟨rfl, fun _ => rfl⟩)
      | true =>
          unfold Rule.lenient
          cases r.indexable with
          | any => exact Or.inl ⟨rfl, fun _ => rfl⟩
          | yes => exact Or.inr (Or.inr ⟨rfl, by cases r.effect <;> rfl⟩)
          | no => exact Or.inr (Or.inr ⟨rfl, by cases r.effect <;> rfl⟩)

/-! ## One scope -/

/-- The verdict of the first rule that is met, where rules are told `suppose` by their positions
from `first` on. -/
def verdictFrom (e : Entry) (relative : List Char) (suppose : Nat → Bool) (first : Nat)
    (rules : List Rule) : Option Bool :=
  ((rules.zipIdx first).find? (fun r => r.1.meets e relative (suppose r.2))).map
    (fun r => r.1.effect == .accept)

theorem verdictFrom_cons (suppose : Nat → Bool) (first : Nat) (r : Rule) (rules : List Rule) :
    verdictFrom e relative suppose first (r :: rules) =
      if r.meets e relative (suppose first) then some (r.effect == .accept)
      else verdictFrom e relative suppose (first + 1) rules := by
  unfold verdictFrom
  rw [List.zipIdx_cons, List.find?_cons]
  cases r.meets e relative (suppose first) <;> rfl

/-- The first verdict includes, or the second one excludes, or they are the same. -/
def Favours (verdict verdict' : Option Bool) : Prop :=
  verdict = some true ∨ verdict' = some false ∨ verdict = verdict'

/-- Whatever the rules are told, the permissive verdict is at least as much in favour. -/
theorem firstVerdict_favours (suppose : Nat → Bool) : ∀ (first : Nat) (rules : List Rule),
    Favours (RuleTree.firstVerdict e relative none rules)
      (verdictFrom e relative suppose first rules)
  | _, [] => Or.inr (Or.inr rfl)
  | first, r :: rules => by
      have ih := firstVerdict_favours suppose (first + 1) rules
      rw [RuleTree.firstVerdict_cons, verdictFrom_cons]
      rcases fit_none r e relative with ⟨hfit, hmeets⟩ | ⟨hfit, hmeets⟩ | ⟨hfit, _⟩
      · rw [hfit, hmeets]
        exact Or.inr (Or.inr rfl)
      · rw [hfit, hmeets]
        exact ih
      · -- a rule that accepts is taken at its word, and one that rejects is passed over
        rw [hfit]
        cases r.effect with
        | accept => exact Or.inl rfl
        | reject =>
            cases r.meets e relative (suppose first) with
            | true => exact Or.inr (Or.inl rfl)
            | false => exact ih

/-- If every rule is told what is in favour of the entry, the verdict is the permissive one. -/
theorem firstVerdict_lenient (suppose : Nat → Bool) : ∀ (first : Nat) (rules : List Rule),
    (∀ r n, (r, n) ∈ rules.zipIdx first → suppose n = r.lenient) →
      verdictFrom e relative suppose first rules = RuleTree.firstVerdict e relative none rules
  | _, [], _ => rfl
  | first, r :: rules, hsuppose => by
      rw [List.zipIdx_cons] at hsuppose
      have ih := firstVerdict_lenient suppose (first + 1) rules
        (fun r' n hmem => hsuppose r' n (List.mem_cons_of_mem _ hmem))
      rw [RuleTree.firstVerdict_cons, verdictFrom_cons, hsuppose r first List.mem_cons_self, ih]
      rcases fit_none r e relative with ⟨hfit, hmeets⟩ | ⟨hfit, hmeets⟩ | ⟨hfit, hmeets⟩
      · rw [hfit, hmeets]
        rfl
      · rw [hfit, hmeets]
        rfl
      · rw [hfit, hmeets]
        cases r.effect <;> rfl

/-- If all rules are told the same, the verdict is that of the traversal which knows it. -/
theorem firstVerdict_uniform (indexable : Bool) : ∀ (first : Nat) (rules : List Rule),
    verdictFrom e relative (fun _ => indexable) first rules =
      RuleTree.firstVerdict e relative (some indexable) rules
  | _, [] => rfl
  | first, r :: rules => by
      rw [RuleTree.firstVerdict_cons, verdictFrom_cons, firstVerdict_uniform indexable, fit_some]
      cases r.meets e relative indexable <;> rfl

theorem verdict_favours (s : Scope) (e : Entry) (suppose : Nat → Bool) :
    Favours (s.verdict e none) (s.verdictSupposing e suppose) := by
  unfold Scope.verdict Scope.verdictSupposing
  split
  · exact Or.inl rfl
  · cases s.relative? e.id with
    | none => exact Or.inr (Or.inr rfl)
    | some relative => exact firstVerdict_favours suppose 0 s.rules

theorem verdict_lenient {suppose : Nat → Bool}
    (hsuppose : ∀ r n, s.rules[n]? = some r → suppose n = r.lenient) :
    s.verdictSupposing e suppose = s.verdict e none := by
  unfold Scope.verdict Scope.verdictSupposing
  split
  · rfl
  · cases s.relative? e.id with
    | none => rfl
    | some relative =>
        exact firstVerdict_lenient suppose 0 s.rules
          (fun r n hmem => hsuppose r n (List.mk_mem_zipIdx_iff_getElem?.mp hmem))

theorem verdict_uniform (s : Scope) (e : Entry) (indexable : Bool) :
    s.verdictSupposing e (fun _ => indexable) = s.verdict e (some indexable) := by
  unfold Scope.verdict Scope.verdictSupposing
  split
  · rfl
  · cases s.relative? e.id with
    | none => rfl
    | some relative => exact firstVerdict_uniform indexable 0 s.rules

/-! ## The whole tree -/

theorem findSome_favours {suppose : Nat → Nat → Bool} : ∀ (first : Nat) (scopes : List Scope),
    ((scopes.zipIdx first).findSome? (fun s => s.1.verdictSupposing e (suppose s.2))).getD false =
      true → (scopes.findSome? (fun s => s.verdict e none)).getD false = true
  | _, [], h => h
  | first, s :: scopes, h => by
      rw [List.zipIdx_cons, List.findSome?_cons] at h
      rw [List.findSome?_cons]
      rcases verdict_favours s e (suppose first) with hyes | hno | hsame
      · rw [hyes]
        rfl
      · -- the scope excludes the entry, against what was supposed
        rw [hno] at h
        cases h
      · rw [hsame]
        cases hverdict : s.verdictSupposing e (suppose first) with
        | none =>
            rw [hverdict] at h
            exact findSome_favours (first + 1) scopes h
        | some verdict =>
            rw [hverdict] at h
            exact h

/-- Scopes that have the same verdicts one by one include the same. -/
theorem findSome_congr {suppose : Nat → Nat → Bool} : ∀ (first : Nat) (scopes : List Scope),
    (∀ s n, (s, n) ∈ scopes.zipIdx first →
      s.verdictSupposing e (suppose n) = s.verdict e known) →
    (scopes.zipIdx first).findSome? (fun s => s.1.verdictSupposing e (suppose s.2)) =
      scopes.findSome? (fun s => s.verdict e known)
  | _, [], _ => rfl
  | first, s :: scopes, h => by
      rw [List.zipIdx_cons] at h
      rw [List.zipIdx_cons, List.findSome?_cons, List.findSome?_cons,
        h s first List.mem_cons_self,
        findSome_congr (first + 1) scopes (fun s' n hmem => h s' n (List.mem_cons_of_mem _ hmem))]

/-- To suppose the same of all rules is to assume it of the content. -/
theorem includesSupposing_uniform (t : RuleTree) (e : Entry) (indexable : Bool) :
    t.includesSupposing e (fun _ _ => indexable) = t.wouldInclude e indexable := by
  rw [RuleTree.wouldInclude, includes_eq, RuleTree.includesSupposing,
    findSome_congr 0 t.scopes (fun s _ _ => verdict_uniform s e indexable)]

/-- What every rule of a tree is told in favour of an entry. -/
def RuleTree.lenient (t : RuleTree) (scope rule : Nat) : Bool :=
  ((t.scopes[scope]?).bind (fun s => s.rules[rule]?)).elim true Rule.lenient

/-- The permissive traversal supposes of every rule what is in favour of the entry. -/
theorem includesSupposing_lenient (t : RuleTree) (e : Entry) :
    t.includesSupposing e t.lenient = t.mayInclude e := by
  rw [RuleTree.mayInclude, includes_eq, RuleTree.includesSupposing,
    findSome_congr 0 t.scopes (fun s n hmem => ?_)]
  refine verdict_lenient (fun r k hr => ?_)
  rw [RuleTree.lenient, List.mk_mem_zipIdx_iff_getElem?.mp hmem, Option.bind_some, hr,
    Option.elim_some]

theorem mayInclude_of_supposing {t : RuleTree} {suppose : Nat → Nat → Bool}
    (h : t.includesSupposing e suppose = true) : t.mayInclude e = true := by
  rw [RuleTree.includesSupposing, Bool.and_eq_true] at h
  rw [RuleTree.mayInclude, includes_eq, Bool.and_eq_true]
  exact ⟨h.1, findSome_favours 0 t.scopes h.2⟩

theorem mayInclude_of_wouldInclude {t : RuleTree} {indexable : Bool}
    (h : t.wouldInclude e indexable = true) : t.mayInclude e = true :=
  mayInclude_of_supposing ((includesSupposing_uniform t e indexable).trans h)

/-- Nothing that is known of the content makes a difference to a container. -/
theorem includes_container (hkind : e.isContainer = true) (t : RuleTree) (known known' : Knowledge) :
    t.includes e known = t.includes e known' := by
  refine includes_of_verdicts rfl rfl rfl (List.map_congr_left fun s _ => ?_)
  exact verdict_of_fits s rfl (fun r _ relative => fit_container hkind r relative known known')

/-- **The permissive verdict is the envelope of what the content can say.** From its metadata alone an
entry is included exactly if some answers to the question of content include it, each rule being
answered on its own. So whatever the fingerprint includes, and whatever either assumption includes,
is included from the metadata alone; for a container all of them agree. -/
theorem mayInclude_envelope (t : RuleTree) (e : Entry) :
    (t.mayInclude e = true ↔ ∃ suppose, t.includesSupposing e suppose = true) ∧
      (∀ f : Fingerprint, t.wouldInclude e f.indexable = true → t.mayInclude e = true) ∧
      (∀ indexable, t.wouldInclude e indexable = true → t.mayInclude e = true) ∧
      (e.isContainer = true → ∀ indexable, t.wouldInclude e indexable = t.mayInclude e) := by
  refine ⟨⟨fun h => ?_, fun ⟨_, h⟩ => mayInclude_of_supposing h⟩,
    fun _ => mayInclude_of_wouldInclude, fun _ => mayInclude_of_wouldInclude,
    fun hkind indexable => includes_container hkind t (some indexable) none⟩
  exact ⟨t.lenient, (includesSupposing_lenient t e).trans h⟩

/-- Indexable content is rejected first, and accepted by the next rule. -/
def tornTree : RuleTree :=
  ⟨none, [⟨"/", [(Rule.reject "*").withIndexable .yes, (Rule.accept "*").withIndexable .yes]⟩]⟩

/-- No content includes the leaf, and yet it is included from the metadata alone: the two rules are
told different things of it. The directory beside it is excluded in any case. -/
theorem mayInclude_envelope_torn :
    (∀ indexable, tornTree.wouldInclude (.leaf "/a" 1 0) indexable = false) ∧
      (∃ suppose, tornTree.includesSupposing (.leaf "/a" 1 0) suppose = true) ∧
      tornTree.mayInclude (.container "/d" 0) = false := by
  have hleaf : tornTree.mayInclude (.leaf "/a" 1 0) = true := by decide
  have hdirectory : tornTree.wouldInclude (.container "/d" 0) true = false := by decide
  refine ⟨by decide, (mayInclude_envelope tornTree (.leaf "/a" 1 0)).1.mp hleaf, ?_⟩
  exact ((mayInclude_envelope tornTree (.container "/d" 0)).2.2.2 rfl true).symm.trans hdirectory

end Harvest

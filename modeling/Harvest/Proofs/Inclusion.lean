import Harvest.Rule.Decision

/-!
# What decides about inclusion

A tree is gone through scope by scope, and a scope rule by rule; the first verdict counts. So it takes
no more than the verdicts of the scopes to know what a tree includes (`includes_of_verdicts`), and no
more than the fits of the rules, with their effects, to know the verdict of a scope
(`firstVerdict_of_fits`). Two traversals are compared by comparing these.

Rules look at an entry's identifier, its kind and its length. Whatever else is reported of it, when
it changed and who may read it, has no say in whether it is included (`includes_congr`).
-/

namespace Harvest

variable {e e' : Entry} {relative relative' : List Char} {known known' : Knowledge} {t t' : RuleTree}

/-! ## Scope by scope -/

/-- The verdict of a scope with what is known of the content. -/
def Scope.verdict (s : Scope) (e : Entry) (known : Knowledge) : Option Bool :=
  if s.isAnchor e.id then some true
  else (s.relative? e.id).bind (fun relative => RuleTree.firstVerdict e relative known s.rules)

theorem scopesVerdict_eq : ∀ scopes : List Scope, RuleTree.scopesVerdict e known scopes =
    (scopes.findSome? (fun s => s.verdict e known)).getD false
  | [] => rfl
  | s :: scopes => by
      rw [RuleTree.scopesVerdict, List.findSome?_cons, scopesVerdict_eq scopes, Scope.verdict]
      cases s.isAnchor e.id with
      | true => rfl
      | false =>
          cases (s.relative? e.id).bind
            (fun relative => RuleTree.firstVerdict e relative known s.rules) with
          | none => rfl
          | some verdict => rfl

theorem isTooLong_eq (t : RuleTree) (e : Entry) :
    (!t.isTooLong e) = (e.isContainer || t.maxLength.all (e.length ≤ ·)) := by
  unfold RuleTree.isTooLong
  cases e.isContainer with
  | true => rfl
  | false =>
      cases t.maxLength with
      | none => rfl
      | some limit => exact Bool.eq_iff_iff.mpr (by simp)

theorem includes_eq (t : RuleTree) (e : Entry) (known : Knowledge) : t.includes e known =
    ((e.isContainer || t.maxLength.all (e.length ≤ ·)) &&
      (t.scopes.findSome? (fun s => s.verdict e known)).getD false) := by
  rw [RuleTree.includes, isTooLong_eq, scopesVerdict_eq]

/-- Rules with the same effects and the same fits have the same first verdict. -/
theorem firstVerdict_of_fits : ∀ {rules rules' : List Rule},
    rules.map (fun r => (r.effect, r.fit e relative known)) =
      rules'.map (fun r => (r.effect, r.fit e' relative' known')) →
    RuleTree.firstVerdict e relative known rules = RuleTree.firstVerdict e' relative' known' rules'
  | [], [], _ => rfl
  | [], _ :: _, h => absurd h.symm (List.cons_ne_nil _ _)
  | _ :: _, [], h => absurd h (List.cons_ne_nil _ _)
  | r :: rules, r' :: rules', h => by
      rw [List.map_cons, List.map_cons] at h
      obtain ⟨hfirst, hothers⟩ := List.cons.inj h
      obtain ⟨heffect, hfit⟩ := Prod.mk.inj hfirst
      rw [RuleTree.firstVerdict_cons, RuleTree.firstVerdict_cons, heffect, hfit,
        firstVerdict_of_fits hothers]

/-- Trees whose scopes have the same verdicts include the same. -/
theorem includes_of_verdicts (hlimit : t.maxLength = t'.maxLength) (hkind : e.kind = e'.kind)
    (hlength : e.length = e'.length)
    (h : t.scopes.map (fun s => s.verdict e known) =
      t'.scopes.map (fun s => s.verdict e' known')) :
    t.includes e known = t'.includes e' known' := by
  have hfirst := congrArg (List.findSome? id) h
  rw [List.findSome?_map, List.findSome?_map] at hfirst
  have hverdicts : t.scopes.findSome? (fun s => s.verdict e known) =
      t'.scopes.findSome? (fun s => s.verdict e' known') := hfirst
  have hcontainer : e.isContainer = e'.isContainer := by
    unfold Entry.isContainer
    rw [hkind]
  rw [includes_eq, includes_eq, hcontainer, hlength, hlimit, hverdicts]

/-- A scope whose rules fit the same has the same verdict. -/
theorem verdict_of_fits (s : Scope) (hid : e.id = e'.id)
    (h : ∀ r ∈ s.rules, ∀ relative, r.fit e relative known = r.fit e' relative known') :
    s.verdict e known = s.verdict e' known' := by
  unfold Scope.verdict
  rw [hid]
  split
  · rfl
  · cases s.relative? e'.id with
    | none => rfl
    | some relative =>
        exact firstVerdict_of_fits
          (List.map_congr_left fun r hr => congrArg (Prod.mk r.effect) (h r hr relative))

/-! ## What is looked at -/

theorem fit_congr (r : Rule) (hid : e.id = e'.id) (hkind : e.kind = e'.kind)
    (relative : List Char) (known : Knowledge) :
    r.fit e relative known = r.fit e' relative known := by
  unfold Rule.fit Entry.name Entry.isContainer
  rw [hid, hkind]

/-- **Inclusion goes by the identifier, the kind and the length**, apart from the content. -/
theorem includes_congr (t : RuleTree) (hid : e.id = e'.id) (hkind : e.kind = e'.kind)
    (hlength : e.length = e'.length) (known : Knowledge) :
    t.includes e known = t.includes e' known := by
  refine includes_of_verdicts rfl hkind hlength (List.map_congr_left fun s _ => ?_)
  exact verdict_of_fits s hid (fun r _ relative => fit_congr r hid hkind relative known)

end Harvest

import Harvest.Proofs.GlobLanguage
import Harvest.Proofs.Leaf
import Harvest.Proofs.Repetition

/-!
# The first pass

A first pass over a store that stands still, in which nothing fails, tells the receiver of every
entry that it finds, once, and of nothing else (`Round.first`). Nothing is known before it, so it
leaves nothing alone and retires nothing.

That a store stands still is asked for by what processing looks at. Where the metadata settle what is
included, content is not looked at, and nothing has to be known of fingerprints
(`planned_of_verdict_blind`). The rules that include everything are of this kind
(`flag_everything`), as long as the flag survives in the token.
-/

namespace Harvest

variable {σ : Type} {p : Processor (StateM σ)} {inv : σ → Prop} {S : Snapshot}
  {verdict : String → Bool} {seeds : List String} {r : Round σ} {calls : List PassCall}
  {c : PassCall} {report : Report} {horizon : Nat} {id : String} {known : Option String}
  {o : Outcome} {e : Entry}

/-! ## Where content does not matter -/

/-- The processor without a fingerprinter. -/
def Processor.blind (p : Processor (StateM σ)) : Processor (StateM σ) :=
  { p with fingerprinter := fun _ => throw (.plain "no fingerprinter") }

/-- It conducts itself no worse. -/
theorem Conduct.blind (h : Conduct p (Keeping inv) (fun _ => True)) :
    Conduct p.blind (Keeping inv) (fun _ => True) :=
  { h with fingerprinter := fun _ => kept_quiet ⟨fun _ hs => hs⟩ }

theorem Described.blind (h : Described p inv e) : Described p.blind inv e :=
  ⟨h.present, h.kind, h.modified, h.length, h.access, h.containerAccess⟩

theorem not_fingerprinted_blind {f : Fingerprint} : ¬Fingerprinted p.blind inv id f := by
  rintro ⟨path, s, _, hthrown⟩
  cases hthrown

/-- A verdict that does not hinge on content is one without a fingerprinter. -/
theorem Verdict.blind (h : Verdict p inv id known o)
    (hsettled : ∀ e, Described p inv e → p.flag e ≠ .dependsOnContent) :
    Verdict p.blind inv id known o := by
  cases h with
  | gone habsent => exact .gone habsent
  | excluded he hid hrules => exact .excluded he.blind hid hrules
  | container he hid hrules hkind hlisting hcomplete =>
      exact .container he.blind hid hrules hkind hlisting hcomplete
  | unchanged he hid hrules hkind hknown => exact .unchanged he.blind hid hrules hkind hknown
  | refused he hid hrules hkind hnew hflag => exact .refused he.blind hid hrules hkind hnew hflag
  | accepted he hid hrules hkind hnew hflag => exact .accepted he.blind hid hrules hkind hnew hflag
  | welcome he hid hrules hkind hnew hflag hf haccept => exact absurd hflag (hsettled _ he)
  | unwelcome he hid hrules hkind hnew hflag hf hreject => exact absurd hflag (hsettled _ he)

theorem blind_admits (S : Snapshot) (id : String) : p.blind.admits S id = p.admits S id := rfl

theorem blind_token (e : Entry) : p.blind.token e = p.token e := rfl

theorem blind_welcomes (e : Entry) (indexable : Bool) :
    p.blind.welcomes e indexable = p.welcomes e indexable := by
  unfold Processor.welcomes
  rw [blind_token]
  cases (Version.ofToken (p.token e)).ambiguity <;> rfl

theorem blind_plan (S : Snapshot) (verdict : String → Bool) (id : String) (known : Option String) :
    p.blind.plan S verdict id known = p.plan S verdict id known := by
  have hentry : S.entry p.blind.encoder id = S.entry p.encoder id := rfl
  unfold Processor.plan
  rw [blind_admits, hentry, blind_token, blind_welcomes]

/-- So what processing comes to is a matter of the store, whatever fingerprints say. -/
theorem planned_of_verdict_blind (hstill : Still p.blind inv S verdict)
    (hsettled : ∀ e, Described p inv e → p.flag e ≠ .dependsOnContent)
    (h : Verdict p inv id known o) : Planned p S verdict id known o := by
  obtain ⟨hown, hplan, hchildren, htoken⟩ := planned_of_verdict hstill (h.blind hsettled)
  rw [blind_plan] at hplan
  exact ⟨hown, hplan, hchildren, htoken⟩

theorem Grounded.ruled_blind {fault : Prop} (hstill : Still p.blind inv S verdict)
    (hsettled : ∀ e, Described p inv e → p.flag e ≠ .dependsOnContent)
    (h : Grounded p inv fault c) : fault ∨ Ruled p S verdict c := by
  cases c with
  | process id known result =>
      cases result with
      | ok o =>
          rcases h with hv | ⟨_, hfault⟩
          · exact Or.inr (planned_of_verdict_blind hstill hsettled hv)
          · exact Or.inl hfault
      | error e => exact Or.inl h
  | retire id result =>
      cases result with
      | ok o => exact Or.inr h
      | error e => exact Or.inl h
  | stop => exact Or.inl h

/-! ## Rules that include everything -/

/-- Every entry fits a star. -/
theorem fit_accept_star (e : Entry) (relative : List Char) (known : Knowledge) :
    (Rule.accept "*").fit e relative known = .fits := by
  have hstar : Text.lowerEach (Rule.accept "*").glob = ['*'] := by decide +kernel
  have hmatches : ∀ name, Glob.matchesName name (Rule.accept "*").glob = true := by
    intro name
    rw [Glob.matchesName, hstar, Glob.fits_iff, Glob.mem_language_star]
    exact ⟨[], List.nil_suffix, Glob.mem_language_nil.mpr rfl⟩
  unfold Rule.fit
  extract_lets subject
  rw [hmatches]
  rfl

/-- The rules that include everything include what lies at or below the root, whatever is known of it.
-/
theorem includes_everything (e : Entry) (known : Knowledge) :
    RuleTree.everything.includes e known = (Scope.new "/").covers e.id := by
  have hrules : ∀ relative,
      RuleTree.firstVerdict e relative known [Rule.accept "*"] = some true := by
    intro relative
    rw [RuleTree.firstVerdict_cons, fit_accept_star]
    rfl
  have hshort : RuleTree.everything.isTooLong e = false := Bool.and_false _
  -- what a scope covers does not depend on its rules
  have hanchor : (Scope.mk "/" [Rule.accept "*"]).isAnchor e.id =
      (Scope.new "/").isAnchor e.id := rfl
  have hbelow : (Scope.mk "/" [Rule.accept "*"]).relative? e.id =
      (Scope.new "/").relative? e.id := rfl
  unfold RuleTree.includes
  rw [hshort, Bool.not_false, Bool.true_and]
  dsimp only [RuleTree.everything]
  rw [RuleTree.scopesVerdict, RuleTree.scopesVerdict, hanchor, hbelow, Scope.covers]
  cases (Scope.new "/").isAnchor e.id with
  | true => rfl
  | false =>
      cases (Scope.new "/").relative? e.id with
      | none => rfl
      | some relative =>
          dsimp only [Option.bind_some]
          rw [hrules]
          rfl

/-- The versions of entries without access lists fit into their tokens. -/
def Processor.Fits (p : Processor (StateM σ)) : Prop :=
  ∀ e : Entry, e.access = none → e.containerAccess = none →
    (p.encoder.version p.tree p.store.idStart e).Fits

/-- Whatever is included is included whatever its content. -/
theorem flag_everything (htree : p.tree = .everything) (hfits : p.Fits)
    (haccess : e.access = none) (hcontainer : e.containerAccess = none) :
    p.flag e ≠ .dependsOnContent ∧
      ((Scope.new "/").covers e.id = true → p.flag e = .forcedInclude) := by
  rw [flag_eq (hfits e haccess hcontainer), htree]
  have hrules : ∀ indexable, RuleTree.everything.wouldInclude e indexable =
      (Scope.new "/").covers e.id := fun indexable => includes_everything e (some indexable)
  unfold Encoder.ambiguity
  rw [hrules, hrules]
  exact ⟨fun h => ofOutcomes_content.mp h rfl, fun h => ofOutcomes_include.mpr ⟨h, h⟩⟩

/-! ## What is told of an entry -/

/-- What the receiver is told of an entry when nothing fails. -/
def Processor.linesOf (p : Processor (StateM σ)) (S : Snapshot) (verdict : String → Bool)
    (id : String) (known : Option String) : List (String × Option String) :=
  match p.plan S verdict id known with
  | .take => [(id, some (p.token (S.entry p.encoder id)))]
  | .drop => [(id, none)]
  | .enter => []
  | .keep => []

theorem Planned.lines (h : Planned p S verdict id known o) :
    o.lines = p.linesOf S verdict id known := by
  unfold Processor.linesOf
  rw [← h.plan]
  have hown := h.own
  cases o with
  | ingest id' token bytes =>
      obtain rfl : id' = id := hown
      have htoken := Option.some.inj h.token
      rw [← htoken]
      rfl
  | delete id' reason =>
      obtain rfl : id' = id := hown
      rfl
  | skip id' reason token => cases reason <;> rfl

/-- Where nothing is known and nothing is retired, the calls tell the receiver of what they visit.
-/
theorem lines_first : ∀ {calls : List PassCall}, (∀ c ∈ calls, Ruled p S verdict c) →
    (∀ id known result, .process id known result ∈ calls → known = none) →
    retirees calls = [] →
      calls.flatMap PassCall.lines = (visited calls).flatMap (p.linesOf S verdict · none)
  | [], _, _, _ => rfl
  | c :: calls, hruled, hnew, hnone => by
      have hc := hruled c List.mem_cons_self
      cases c with
      | process id known result =>
          cases result with
          | ok o =>
              obtain rfl := hnew id known _ List.mem_cons_self
              have ih := lines_first (fun c hc => hruled c (List.mem_cons_of_mem _ hc))
                (fun id known result hmem => hnew id known result (List.mem_cons_of_mem _ hmem))
                hnone
              have hlines : o.lines = p.linesOf S verdict id none := Planned.lines hc
              change o.lines ++ calls.flatMap PassCall.lines =
                p.linesOf S verdict id none ++ (visited calls).flatMap (p.linesOf S verdict · none)
              rw [hlines, ih]
          | error e => exact hc.elim
      | retire id result => cases hnone
      | stop => exact hc.elim

/-- **A first pass tells the receiver of every entry that it finds, once.** -/
theorem Round.first (hruled : ∀ c ∈ r.calls p seeds .empty, Ruled p S verdict c)
    (hreport : r.report? p seeds .empty = some report) :
    ∃ ids : List String, ids.Nodup ∧ (∀ id, id ∈ ids ↔ p.Finds S seeds id) ∧
      ledger (r.events p seeds .empty) = ids.flatMap (p.linesOf S verdict · none) := by
  obtain ⟨hend, hlines, _⟩ := r.logged p seeds .empty
  rw [Round.report?_eq_some hreport] at hend
  have hnew : ∀ id known result, .process id known result ∈ r.calls p seeds .empty →
      known = none := fun id known result hc =>
    (hend.known_eq hc).trans Std.TreeMap.getElem?_emptyc
  -- what is retired was known before
  have hnone : retirees (r.calls p seeds .empty) = [] := by
    refine List.eq_nil_iff_forall_not_mem.mpr (fun id hid => ?_)
    have hmem : id ∈ (∅ : VersionMap) := hend.retiree_mem (silent_of_ruled hruled) hid
    exact Std.TreeMap.not_mem_emptyc hmem
  exact ⟨visited (r.calls p seeds .empty), hend.once,
    fun id => hend.visited_iff_finds (fun c hc => (hruled c hc).expands),
    hlines.trans (lines_first hruled hnew hnone)⟩

end Harvest

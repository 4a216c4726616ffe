import Harvest.Proofs.Inclusion
import Harvest.Proofs.Principals
import Harvest.Proofs.VersionToken
import Harvest.Version.Compute

/-!
# Which changes a token shows

A token holds what was computed from an entry, and is uniquely readable; so two reports on an entry
have the same token exactly if the same was computed from them. What is computed from the identifier
is the same in any case. Times and lengths go in as they are. Access lists go in by the principals
they name, and where a job has no use for what the store reports they do not go in at all.

So the token shows every change of the modification time, of the length, of the flag and of who may
read the entry, and no other change (`token_eq_iff`).
-/

namespace Harvest

variable {e e' : Entry} {reported reported' : Option (List AccessEntry)}

/-- Reports of the same entries with a read right name the same principals, in whatever order and
however often they are reported, and whatever else is reported. -/
theorem sameReaders_of_grants
    (h : ∀ a : AccessEntry, a.grantsRead = true → (a ∈ reported.getD [] ↔ a ∈ reported'.getD [])) :
    SameReaders reported reported' := by
  have hnamed : ∀ allow, named reported allow = named reported' allow := by
    intro allow
    ext name
    constructor
    · rintro ⟨a, ha, hreads, hrest⟩
      exact ⟨a, (h a hreads).mp ha, hreads, hrest⟩
    · rintro ⟨a, ha, hreads, hrest⟩
      exact ⟨a, (h a hreads).mpr ha, hreads, hrest⟩
  exact ⟨hnamed true, congrArg (insert deniedToAll) (hnamed false)⟩

namespace Encoder

variable {enc : Encoder} {tree : RuleTree} {start : String}

/-- Who may read an entry has no say in whether its content decides about it. -/
theorem ambiguity_access (tree : RuleTree) (e : Entry)
    (access container : Option (List AccessEntry)) :
    ambiguity tree { e with access := access, containerAccess := container } =
      ambiguity tree e := by
  have hincludes : ∀ known,
      tree.includes { e with access := access, containerAccess := container } known =
        tree.includes e known := fun known => by apply includes_congr <;> rfl
  unfold ambiguity RuleTree.wouldInclude
  rw [hincludes, hincludes]

theorem version_eq_iff (hid : e.id = e'.id) :
    enc.version tree start e = enc.version tree start e' ↔
      e.modified = e'.modified ∧ e.length = e'.length ∧ ambiguity tree e = ambiguity tree e' ∧
        enc.containerAccess.resolve e.containerAccess =
          enc.containerAccess.resolve e'.containerAccess ∧
        enc.entryAccess.resolve e.access = enc.entryAccess.resolve e'.access := by
  unfold version
  rw [Version.mk.injEq, hid]
  constructor
  · rintro ⟨hcontainer, hentry, _, _, hmodified, hlength, hflag⟩
    exact ⟨hmodified, hlength, hflag, hcontainer, hentry⟩
  · rintro ⟨hmodified, hlength, hflag, hcontainer, hentry⟩
    exact ⟨hcontainer, hentry, rfl, rfl, hmodified, hlength, hflag⟩

theorem token_eq_iff_version :
    enc.token tree start e = enc.token tree start e' ↔
      enc.version tree start e = enc.version tree start e' :=
  ⟨Version.token_inj, congrArg Version.token⟩

theorem token_eq_iff_readers (hid : e.id = e'.id) :
    enc.token tree start e = enc.token tree start e' ↔
      e.modified = e'.modified ∧ e.length = e'.length ∧ ambiguity tree e = ambiguity tree e' ∧
        (enc.containerAccess = .native → SameReaders e.containerAccess e'.containerAccess) ∧
        (enc.entryAccess = .native → SameReaders e.access e'.access) := by
  rw [token_eq_iff_version, version_eq_iff hid, AccessPolicy.resolve_eq_iff,
    AccessPolicy.resolve_eq_iff]

/-- **What a token shows.** Two reports on an entry have the same token exactly if their
modification times, lengths and flags are the same and, where access lists go by what the store
reports, so are the principals that may read the entry and those that may not.

Where two reports differ in the access lists only, the token goes by these principals alone; and
they stay the same if reported entries are put in another order or repeated, or if entries without a
read right are changed. -/
theorem token_eq_iff (enc : Encoder) (tree : RuleTree) (start : String) :
    (∀ e e' : Entry, e.id = e'.id →
      (enc.token tree start e = enc.token tree start e' ↔
        e.modified = e'.modified ∧ e.length = e'.length ∧ ambiguity tree e = ambiguity tree e' ∧
          (enc.containerAccess = .native → SameReaders e.containerAccess e'.containerAccess) ∧
          (enc.entryAccess = .native → SameReaders e.access e'.access))) ∧
    (∀ (e : Entry) (access container : Option (List AccessEntry)),
      enc.token tree start { e with access := access, containerAccess := container } =
          enc.token tree start e ↔
        (enc.containerAccess = .native → SameReaders container e.containerAccess) ∧
          (enc.entryAccess = .native → SameReaders access e.access)) ∧
    ∀ reported reported' : Option (List AccessEntry),
      (∀ a : AccessEntry, a.grantsRead = true → (a ∈ reported.getD [] ↔ a ∈ reported'.getD [])) →
        SameReaders reported reported' := by
  refine ⟨fun e e' hid => token_eq_iff_readers hid, fun e access container => ?_,
    fun _ _ => sameReaders_of_grants⟩
  have hflag := ambiguity_access tree e access container
  refine (token_eq_iff_readers ?_).trans ?_
  · rfl
  · exact ⟨fun h => h.2.2.2, fun h => ⟨rfl, rfl, hflag, h⟩⟩

/-- Settings that go by the access lists of the store. -/
def native : Encoder := ⟨.disabled, .native, .standard⟩

/-- A leaf that two principals may read and one may not. -/
def shared : Entry :=
  { Entry.leaf "/docs/a.txt" 12 99 with
    access := some [⟨"S-1", true, AccessEntry.readData⟩, ⟨"S-2", true, AccessEntry.genericRead⟩,
      ⟨"S-9", false, AccessEntry.readData⟩] }

/-- The same leaf, with its access list in another order, one entry repeated and one without a read
right added. -/
def reshuffled : Entry :=
  { shared with
    access := some [⟨"S-9", false, AccessEntry.readData⟩, ⟨"S-2", true, AccessEntry.genericRead⟩,
      ⟨"S-7", true, 2⟩, ⟨"S-1", true, AccessEntry.readData⟩,
      ⟨"S-2", true, AccessEntry.genericRead⟩] }

/-- The same leaf once the second principal may no longer read it. -/
def withdrawn : Entry :=
  { shared with
    access := some [⟨"S-1", true, AccessEntry.readData⟩, ⟨"S-9", false, AccessEntry.readData⟩] }

/-- A list of principals in another order is the same to a token, a principal less is not. -/
theorem token_eq_iff_shared :
    native.token .everything "" shared = native.token .everything "" reshuffled ∧
      native.token .everything "" shared ≠ native.token .everything "" withdrawn := by
  obtain ⟨hany, _, hgrants⟩ := token_eq_iff native .everything ""
  constructor
  · refine (hany shared reshuffled rfl).mpr ⟨rfl, rfl, by decide +kernel, nofun, fun _ => ?_⟩
    refine hgrants _ _ (fun a hreads => ?_)
    have hother : a ≠ ⟨"S-7", true, 2⟩ := by
      rintro rfl
      exact absurd hreads (by decide)
    simp only [shared, reshuffled, Option.getD_some, List.mem_cons, List.not_mem_nil, hother]
    tauto
  · intro h
    have hsame := ((hany shared withdrawn rfl).mp h).2.2.2.2 rfl
    have hmem : "S-2" ∈ named shared.access true :=
      ⟨⟨"S-2", true, AccessEntry.genericRead⟩, by decide, by decide, rfl, rfl⟩
    rw [hsame.allowed] at hmem
    obtain ⟨a, ha, _, _, hname⟩ := hmem
    revert a
    decide

end Encoder

end Harvest

import Harvest.Proofs.Mirror

/-!
# A store on a shelf

The simplest store that stands still: the state says what it holds, and listing a container may
fail. One copy is made at a time, and its fingerprint is that of the bytes that were copied. Nothing
that a crawl does changes what the shelf holds (`shelf_mirrors`).
-/

namespace Harvest

variable {tree : RuleTree} {enc : Encoder}

/-- What a store holds, the copy that is being made, and what listing runs into. -/
structure Shelf where
  snapshot : Snapshot
  copy : ByteArray
  trouble : Option Failure

/-- One copy at a time. -/
def shelfScratch : Scratch (StateM Shelf) where
  location := ""
  create := pure ""
  clear := fun _ => modify (fun s => { s with copy := .empty })
  append := fun _ piece => modify (fun s => { s with copy := s.copy ++ piece })
  read := fun _ => do return .ofBytes (← get).copy
  discard := fun _ => pure ()

/-- A crawl over a shelf, with a receiver that takes everything. -/
def shelfCrawl (tree : RuleTree) (enc : Encoder) : Processor (StateM Shelf) where
  store :=
    { idStart := ""
      present := fun id => do return (← get).snapshot.present id
      isContainer := fun id => do return (← get).snapshot.isContainer id
      modified := fun id => do return (← get).snapshot.modified id
      length := fun id => do return (← get).snapshot.length id
      children := fun id => ExceptT.mk do
        let s ← get
        return s.trouble.elim (.ok (.ofList (s.snapshot.children id))) .error
      content := fun id => do return .ofBytes ((← get).snapshot.content id)
      access := fun id => do return (← get).snapshot.access id
      containerAccess := fun id => do return (← get).snapshot.containerAccess id }
  tree := tree
  encoder := enc
  sink :=
    { ingest := fun _ content => pure content.bytes.size
      delete := fun _ => pure ()
      skip := fun _ _ => pure ()
      record := fun _ => pure () }
  scratch := shelfScratch
  fingerprinter := shelfScratch.fingerprinter
  policy := .immediate
  monitor := ⟨pure 0, pure false, fun _ => pure false, fun _ => pure ()⟩

/-- The fingerprint of a copy. -/
def shelfJudge (bytes : ByteArray) : Bool := (Fingerprint.ofPieces [bytes]).indexable

theorem shelf_appendAll (path : String) : ∀ (pieces : List ByteArray) (s : Shelf),
    (shelfScratch.appendAll path pieces).run.run s =
      (.ok (), { s with copy := pieces.foldl (· ++ ·) s.copy })
  | [], _ => rfl
  | _ :: pieces, s => shelf_appendAll path pieces { s with copy := s.copy ++ _ }

/-- A copy that is made holds the content. -/
theorem shelf_fill {path : String} {content : Content} {s s' : Shelf}
    (h : (shelfScratch.fill path content).run.run s = (.ok (), s')) :
    s'.copy = content.bytes := by
  have hwhole := whole_of_fill (p := shelfCrawl .empty .standard) h
  have hleads : Leads (fun t => t = s) (shelfScratch.fill path content) () s' := ⟨s, rfl, h⟩
  obtain ⟨_, s₁, ⟨_, rfl, hclear⟩, hrest⟩ := leads_bind hleads
  obtain ⟨_, s₂, ⟨_, rfl, happend⟩, hlast⟩ := leads_bind
    (⟨s₁, rfl, hrest⟩ : Leads (fun t => t = s₁) _ _ _)
  cases hclear
  rw [shelf_appendAll] at happend
  rw [hwhole] at hlast
  cases happend
  cases hlast
  rfl

/-- No call changes what the store holds. -/
theorem shelf_conduct (S : Snapshot) :
    Conduct (shelfCrawl tree enc) (Keeping (fun s => s.snapshot = S)) (fun _ => True) where
  present := fun _ => kept_quiet ⟨fun _ hs => hs⟩
  isContainer := fun _ => kept_quiet ⟨fun _ hs => hs⟩
  modified := fun _ => kept_quiet ⟨fun _ hs => hs⟩
  length := fun _ => kept_quiet ⟨fun _ hs => hs⟩
  access := fun _ => kept_quiet ⟨fun _ hs => hs⟩
  containerAccess := fun _ => kept_quiet ⟨fun _ hs => hs⟩
  children := fun _ => kept_attempts ⟨fun _ hs => hs⟩ _
  content := fun _ => kept_attempts ⟨fun _ hs => hs⟩ _
  create := kept_quiet ⟨fun _ hs => hs⟩
  clear := fun _ => kept_quiet ⟨fun _ hs => hs⟩
  append := fun _ _ => kept_quiet ⟨fun _ hs => hs⟩
  read := fun _ => kept_quiet ⟨fun _ hs => hs⟩
  discard := fun _ => kept_steady ⟨fun _ hs => hs⟩
  fingerprinter := fun _ => kept_quiet ⟨fun _ hs => hs⟩
  clear_mark := fun _ => kept_mark _
  append_mark := fun _ _ => kept_mark _
  ingest := fun _ _ => kept_quiet ⟨fun _ hs => hs⟩
  delete := fun _ _ => kept_quiet ⟨fun _ hs => hs⟩
  delete_mark := fun _ => kept_mark _
  skip := fun _ _ _ => kept_quiet ⟨fun _ hs => hs⟩
  record := fun _ => kept_steady ⟨fun _ hs => hs⟩
  now := kept_steady ⟨fun _ hs => hs⟩
  warn := fun _ => kept_steady ⟨fun _ hs => hs⟩
  pause := fun _ => kept_steady ⟨fun _ hs => hs⟩
  isCancelled := ⟨fun _ hs => ⟨hs, fun _ => trivial⟩⟩

theorem shelf_mirrors : Mirrors (shelfCrawl tree enc) Shelf.snapshot shelfJudge where
  keeps := shelf_conduct
  present := by
    intro s id _ h
    cases h
    rfl
  isContainer := by
    intro s id _ h
    cases h
    rfl
  modified := by
    intro s id _ h
    cases h
    rfl
  length := by
    intro s id _ h
    cases h
    rfl
  access := by
    intro s id _ h
    cases h
    rfl
  containerAccess := by
    intro s id _ h
    cases h
    rfl
  children := by
    intro s id listing h _
    have h : s.trouble.elim (Except.ok (Listing.ofList (s.snapshot.children id))) Except.error =
      .ok listing := h
    cases ht : s.trouble with
    | none =>
        rw [ht] at h
        obtain rfl := Except.ok.inj h
        rfl
    | some f =>
        rw [ht] at h
        cases h
  content := by
    intro s id _ h _
    cases h
    rfl
  fingerprint := by
    intro s s' path content _ hfill h
    cases h
    exact congrArg shelfJudge (shelf_fill hfill)

end Harvest

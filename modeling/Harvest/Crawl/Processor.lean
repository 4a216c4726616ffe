import Harvest.Crawl.Sink
import Harvest.Failure.Retrying
import Harvest.Version.Compute

/-!
# Processing one entry

What becomes of an entry: it is looked up and described, the rules are asked, its version is computed
and compared with the one before, and then it is skipped, deleted or handed over. Where the flag of
the version says that inclusion hinges on the content, a scratch copy is made and fingerprinted first.

Every call to the store is retried under the policy; calls to the receiver are made once. An entry
that turns out to be gone on the way is deleted.
-/

namespace Harvest

/-- Actions of processing, which fail with what the failure does to the entry. -/
abbrev Processing (m : Type → Type) (α : Type) := ExceptT CrawlError m α

/-- Everything that processing needs. -/
structure Processor (m : Type → Type) where
  store : Store m
  tree : RuleTree
  encoder : Encoder
  sink : Sink m
  scratch : Scratch m
  fingerprinter : Fingerprinter m
  policy : RetryPolicy
  monitor : Monitor m

namespace Processor

variable {m : Type → Type} [Monad m] {α : Type}

/-- Calls under the policy of the processor. -/
def retrying (p : Processor m) : Retrying m := ⟨p.policy, p.monitor⟩

/-- Judges the failure of an action by what it does to the entry. -/
def judged (p : Processor m) (operation id : String) (act : Action m α) : Processing m α :=
  ExceptT.mk do
    match ← act.run with
    | .ok a => return .ok a
    | .error f => return .error (.ofFailure (← p.monitor.now) operation id f)

/-- A call to the store, under the policy. -/
def call (p : Processor m) (c : StoreCall) (id : String) (act : Action m α) : Processing m α :=
  p.judged c.label id (p.retrying.run c.label act)

/-- Has the entry deleted. -/
def delete (p : Processor m) (id reason : String) : Processing m Outcome := do
  p.judged "delete" id (p.sink.delete id)
  return .delete id reason

/-- Tells the receiver that the entry is skipped. -/
def skip (p : Processor m) (id : String) (reason : SkipReason) (token : String) :
    Processing m Outcome := do
  p.judged "skip" id (p.sink.skip id reason)
  return .skip id reason token

/-- Hands the content of an entry over. -/
def handOver (p : Processor m) (request : Delivery) (content : Content) :
    Processing m Outcome := do
  let bytes ← p.judged "ingest" request.id (p.sink.ingest request content)
  return .ingest request.id request.token bytes

/-- What the decision needs to know of an entry; `none` if there is no such entry. The access lists
are fetched only where the settings ask for them. -/
def describe (p : Processor m) (id : String) : Processing m (Option Entry) := do
  if !(← p.call .present id (p.store.present id)) then return none
  let isContainer ← p.call .isContainer id (p.store.isContainer id)
  let modified ← p.call .modified id (p.store.modified id)
  let length ← if isContainer then pure 0 else p.call .length id (p.store.length id)
  let access ←
    if p.encoder.entryAccess = .native then p.call .access id (p.store.access id) else pure none
  let containerAccess ←
    if p.encoder.containerAccess = .native then
      p.call .containerAccess id (p.store.containerAccess id)
    else pure none
  return some
    { id := id, kind := if isContainer then .container else .leaf, length := length,
      modified := modified, access := access, containerAccess := containerAccess }

/-- The children of a container; a listing that breaks off has failed as a whole. -/
def children (p : Processor m) (id : String) : Processing m (List String) :=
  p.call .children id do
    let listing ← p.store.children id
    match listing.failure with
    | some f => throw f
    | none => pure listing.children

/-- Makes a scratch copy of the content, works with it, and discards it in any case. -/
def withCopy (p : Processor m) (id : String) (work : String → Processing m α) : Processing m α :=
  ExceptT.mk do
    match ← p.scratch.create.run with
    | .error f =>
      let context := "Failed to create scratch file in " ++ p.scratch.location
      return .error (.fatal "scratch" (f.within context))
    | .ok path =>
      let fetch := p.call .content id (do p.scratch.fill path (← p.store.content id))
      let result ← (do fetch; work path : Processing m α).run
      p.scratch.discard path
      return result

/-- Fingerprints a scratch copy of the entry and hands it over if the rules accept it. -/
def ingestCopy (p : Processor m) (e : Entry) (token path : String) : Processing m Outcome := do
  let fingerprint ← p.judged "fingerprint" e.id (p.fingerprinter path)
  if p.tree.wouldInclude e fingerprint.indexable then
    let content ← p.judged "ingest" e.id
      (Action.within "Failed to reopen scratch copy" (p.scratch.read path))
    p.handOver ⟨e.id, token, .ofToken token, some fingerprint⟩ content
  else p.delete e.id "excluded after fingerprinting"

/-- Hands over a leaf whose version is known, as far as its flag lets it. -/
def ingest (p : Processor m) (e : Entry) (token : String) : Processing m Outcome :=
  let version := Version.ofToken token
  match version.ambiguity with
  | .forcedExclude => p.delete e.id "excluded by rules"
  | .forcedInclude => do
    let content ← p.call .content e.id (p.store.content e.id)
    p.handOver ⟨e.id, token, version, none⟩ content
  | .dependsOnContent => p.withCopy e.id (p.ingestCopy e token)

/-- The decision about an entry that was there when it was described. -/
def decideEntry (p : Processor m) (e : Entry) (previous : Option String) : Processing m Outcome :=
  if !p.tree.mayInclude e then p.delete e.id "excluded by rules"
  else
    let token := p.encoder.token p.tree p.store.idStart e
    if e.isContainer then do
      let children ← p.children e.id
      p.skip e.id (.container children) token
    else if previous = some token then p.skip e.id .unchanged token
    else p.ingest e token

/-- The decision about an entry. -/
def decide (p : Processor m) (id : String) (previous : Option String) : Processing m Outcome := do
  match ← p.describe id with
  | none => p.delete id "no longer exists"
  | some e => p.decideEntry e previous

/-- Deletes the entry if processing found it to be gone. -/
def deleteIfAbsent (p : Processor m) : Except CrawlError Outcome → Processing m Outcome
  | .error (.absent id reason) => p.delete id reason
  | result => ExceptT.mk (pure result)

/-- Decides about an entry, acts accordingly, and records it. -/
def process (p : Processor m) (id : String) (previous : Option String) :
    m (Except CrawlError Outcome) := do
  let decision ← (p.decide id previous).run
  let result ← (p.deleteIfAbsent decision).run
  p.sink.record (.ofResult (← p.monitor.now) id result)
  return result

/-- Deletes an entry that is known from before and was not reached again. -/
def retire (p : Processor m) (id : String) : m (Except CrawlError Outcome) := do
  let result ← (p.delete id "no longer reachable from seeds").run
  if result.isOk then p.sink.record (.ofResult (← p.monitor.now) id result)
  return result

end Processor

end Harvest

import Std.Data.TreeSet
import Harvest.Crawl.Processor
import Harvest.Crawl.Report

/-!
# Passes

A pass processes the seeds and everything they lead to, level by level: the children of the containers
of one level are the next, each identifier once. Within a level the order is free. An entry whose
processing has to wait is left to a later pass, together with everything the previous pass knew below
it; what the previous pass knew and this one did not reach is deleted in the end.
-/

namespace Harvest

/-- The order in which the entries of each level are dealt with. -/
structure Schedule where
  order : Nat → List String → List String
  perm : ∀ level ids, (order level ids).Perm ids

/-- Every level in its own order. -/
def Schedule.inOrder : Schedule := ⟨fun _ ids => ids, fun _ _ => .refl _⟩

/-- What a pass is made of. -/
structure Pass (m : Type → Type) where
  process : String → Option String → m (Except CrawlError Outcome)
  retire : String → m (Except CrawlError Outcome)
  monitor : Monitor m
  schedule : Schedule

/-- The passes of a processor. -/
def Processor.pass {m : Type → Type} [Monad m] (p : Processor m) (schedule : Schedule) : Pass m :=
  ⟨p.process, p.retire, p.monitor, schedule⟩

/-- The result of one entry. -/
abbrev Visit := String × Except CrawlError Outcome

/-- Adds the identifiers that have not been seen before; answers the new ones in order, each once. -/
def newcomers (seen : Std.TreeSet String) : List String → List String × Std.TreeSet String
  | [] => ([], seen)
  | id :: rest =>
    if seen.contains id then newcomers seen rest
    else
      let others := newcomers (seen.insert id) rest
      (id :: others.1, others.2)

/-- A pass under way. -/
structure Progress where
  report : Report
  /-- Every identifier that was reached or that lies below an entry left to a later pass. -/
  seen : Std.TreeSet String
  /-- What the level under way leads to. -/
  next : List String

namespace Progress

/-- Takes in the outcome of an entry. -/
def reach (p : Progress) (o : Outcome) : Progress :=
  let found := newcomers p.seen o.children
  ⟨p.report.record o, found.2, p.next ++ found.1⟩

/-- Keeps what the previous pass knew of an identifier, which counts as seen. -/
def keep (p : Progress) (entry : String × String) : Progress :=
  { p with report := p.report.remember entry.1 (some entry.2), seen := p.seen.insert entry.1 }

/-- Leaves an entry, and all that lies below it, to a later pass. -/
def postpone (previous : VersionMap) (p : Progress) (d : Deferral) : Progress :=
  let kept := (previous.below d.id).foldl keep
    { p with report := p.report.remember d.id previous[d.id]? }
  { kept with report := kept.report.defer d }

/-- Takes in the result of an entry; any failure but that of an entry that has to wait ends the
pass. -/
def absorb (previous : VersionMap) (p : Progress) : Visit → Except CrawlError Progress
  | (_, .ok o) => .ok (p.reach o)
  | (id, .error (.transient _ message window)) => .ok (p.postpone previous ⟨id, message, window⟩)
  | (_, .error e) => .error e

end Progress

/-- Identifiers in the order of their bytes. -/
def sortIds (ids : List String) : List String := ids.mergeSort (fun a b => a ≤ b)

namespace Pass

variable {m : Type → Type} [Monad m]

/-- Processes identifiers one after the other. -/
def visitAll (p : Pass m) (previous : VersionMap) : List String → m (List Visit)
  | [] => pure []
  | id :: rest => do
    let result ← p.process id previous[id]?
    return (id, result) :: (← p.visitAll previous rest)

/-- Warns of an entry that is left to a later pass. -/
def announce (p : Pass m) : Visit → m Unit
  | (id, .error (.transient _ message _)) => p.monitor.warn (.deferring id message)
  | _ => pure ()

/-- Takes in results one after the other, up to the first that ends the pass. -/
def absorbAll (p : Pass m) (previous : VersionMap) (progress : Progress) :
    List Visit → m (Except CrawlError Progress)
  | [] => return .ok progress
  | visit :: rest => do
    p.announce visit
    match progress.absorb previous visit with
    | .ok progress => p.absorbAll previous progress rest
    | .error e => return .error e

/-- Goes through at most `horizon` levels, of which `frontier` is the first; `none` if there are more.
-/
def levels (p : Pass m) (previous : VersionMap) :
    (horizon level : Nat) → (frontier : List String) → Progress →
      m (Option (Except CrawlError Progress))
  | _, _, [], progress => return some (.ok progress)
  | 0, _, _ :: _, _ => return none
  | horizon + 1, level, id :: ids, progress => do
    if ← p.monitor.isCancelled then return some (.error .cancelled)
    let visits ← p.visitAll previous (p.schedule.order level (id :: ids))
    match ← p.absorbAll previous { progress with next := [] } visits with
    | .error e => return some (.error e)
    | .ok progress => p.levels previous horizon (level + 1) (sortIds progress.next) progress

/-- Deletes entries one after the other. -/
def retireAll (p : Pass m) (report : Report) : List String → m (Except CrawlError Report)
  | [] => return .ok report
  | id :: rest => do
    if ← p.monitor.isCancelled then return .error .cancelled
    match ← p.retire id with
    | .error e => return .error e
    | .ok o => p.retireAll (report.record o) rest

/-- The start of a pass: the seeds, each once, and nothing done. -/
def start (seeds : List String) : List String × Progress :=
  let found := newcomers ∅ seeds
  (found.1, ⟨.empty, found.2, []⟩)

/-- The identifiers of the previous pass that were not reached. -/
def orphans (previous : VersionMap) (seen : Std.TreeSet String) : List String :=
  previous.keys.filter (fun id => !seen.contains id)

/-- Runs a pass over at most `horizon` levels; `none` if the seeds lead further. A failure that is not
confined to one entry ends the pass. -/
def run (p : Pass m) (horizon : Nat) (seeds : List String) (previous : VersionMap) :
    m (Option (Except CrawlError Report)) := do
  let first := start seeds
  match ← p.levels previous horizon 0 first.1 first.2 with
  | none => return none
  | some (.error e) => return some (.error e)
  | some (.ok progress) =>
    return some (← p.retireAll progress.report (orphans previous progress.seen))

end Pass

end Harvest

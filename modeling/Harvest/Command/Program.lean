import Harvest.Command.Console
import Harvest.Command.Invocation
import Harvest.Crawl.Pass
import Harvest.Crawl.ScratchFiles
import Harvest.Job
import Harvest.Store.Directory
import Harvest.Version.Record

/-!
# The program

What the program does for each invocation, in terms of the machine it runs on: files, the process
around it, and two streams of lines. A command either comes to its end or fails with a chain of causes,
and the exit code tells which.
-/

namespace Harvest.Command

/-- The machine that the program runs on. -/
structure Host (m : Type → Type) where
  files : FileSystem m
  monitor : Monitor m
  /-- The job file for crawls that name none, if there is a place for it. -/
  standardJobPath : Option String
  /-- Where scratch copies go if the job does not say so. -/
  scratchLocation : String
  console : Console
  /-- Prints a line of the answer. -/
  print : String → m Unit
  /-- Prints a line about the run itself. -/
  complain : String → m Unit

namespace Host

variable {m : Type → Type} [Monad m]

/-- Prints lines of the answer. -/
def printAll (h : Host m) : List String → m Unit
  | [] => pure ()
  | l :: ls => do
    h.print l
    h.printAll ls

/-- Whether there is a file at a path, as far as can be found out. -/
def isThere (h : Host m) (path : String) : m Bool := do
  match ← (h.files.isPresent path).run with
  | .ok b => return b
  | .error _ => return false

/-- The text of a file. -/
def readText (h : Host m) (path : String) : Action m String := do
  let bytes ← h.files.readAll path
  match String.fromUTF8? bytes with
  | some text => return text
  | none => throw (.of (.system .invalidData "stream did not contain valid UTF-8"))

/-! ## Jobs -/

/-- The job that a file describes. -/
def jobAt (h : Host m) (path : String) : Action m Job := ExceptT.mk do
  return Job.ofContent path (← (h.files.readAll path).run)

/-- The job for a command: of the file that is named, else of the standard one, else everything. -/
def job (h : Host m) : Option String → Action m Job
  | some path => h.jobAt path
  | none => do
    match h.standardJobPath with
    | none => return .everything
    | some path => if ← h.isThere path then h.jobAt path else return .everything

/-! ## Versions between passes -/

/-- The versions in a state file; none where there is no such file. -/
def versionsAt (h : Host m) (path : String) : Action m VersionMap := do
  if !(← h.isThere path) then return ∅
  let text ← Action.within ("Failed to read state file " ++ path) (h.readText path)
  match (Document.Json.parse? text).bind VersionMap.ofDocument? with
  | some versions => return versions
  | none => throw (.plain ("Invalid state file " ++ path))

/-- Writes a state file. -/
def saveVersions (h : Host m) (path : String) (versions : VersionMap) : Action m Unit :=
  Action.within ("Failed to write state file " ++ path)
    (h.files.write path (Document.Json.pretty versions.toDocument).toUTF8)

/-! ## Commands -/

/-- More levels than paths can have components. -/
def horizon : Nat := 1000000

/-- The processor of a crawl of a local directory. -/
def processor (h : Host m) (o : CrawlOptions) (j : Job) (e : Encoder) : Processor m :=
  let scratch := Scratch.ofFiles h.files (j.crawl.scratchLocation.getD h.scratchLocation)
  { store := (DirectoryStore.mk o.root false).store h.files
    tree := j.rules
    encoder := e
    sink := h.console.sink o.json h.print
    scratch := scratch
    fingerprinter := scratch.fingerprinter
    policy := j.retry
    monitor := h.monitor }

/-- Runs a pass over a local directory. The versions are saved only after a pass that came to its
end. -/
def crawl (h : Host m) (o : CrawlOptions) : Action m Unit := do
  let j ← h.job o.jobPath
  let previous ← match o.statePath with
    | some path => h.versionsAt path
    | none => pure ∅
  let e ← Action.ofResult (j.encoder.mapError Job.Defect.failure)
  let pass := (h.processor o j e).pass .inOrder
  let start ← h.monitor.now
  match ← pass.run horizon o.seeds previous with
  | none => throw (.plain "The seeds lead too deep")
  | some (.error e) => throw e.toFailure
  | some (.ok report) =>
    let elapsed := ((← h.monitor.now) - start).toNat
    if let some path := o.statePath then h.saveVersions path report.versions
    if o.json then
      h.print (Document.Json.compact (report.toDocument (Console.seconds elapsed)))
    else h.printAll (h.console.summary report elapsed)

/-- The lines about a check of the rules. -/
def checkLines (c : Console) (rules : RuleTree) (o : CheckOptions) : List String :=
  let e := if o.kind = .container then Entry.container o.id 0 else Entry.leaf o.id o.length 0
  let scopes := (rules.covering o.id).map (·.path)
  [c.paint .bold o.id,
    "  Scopes:                  " ++ ", ".intercalate scopes,
    "  Included (metadata):     " ++ c.verdict (rules.mayInclude e),
    "  Included if indexable:   " ++ c.verdict (rules.wouldInclude e true),
    "  Included if unindexable: " ++ c.verdict (rules.wouldInclude e false)]

/-- Tells what the rules say of an entry. -/
def check (h : Host m) (o : CheckOptions) : Action m Unit := do
  let j ← h.job o.jobPath
  h.printAll (checkLines h.console j.rules o)

/-- Prints what a version token holds. -/
def decode (h : Host m) (token : String) : m Unit :=
  h.print (Document.Json.pretty (Version.ofToken token).toDocument)

/-! ## Runs -/

/-- The exit code of a run that came to its end. -/
def success : UInt32 := 0

/-- The exit code of a run that failed. -/
def failed : UInt32 := 1

/-- The exit code of a run whose arguments make no sense. -/
def misused : UInt32 := 2

/-- Complains about a failure: its outermost text, then the causes. -/
def complainOf (h : Host m) (f : Failure) : m Unit := do
  h.complain ("Error: " ++ f.message)
  if !f.below.isEmpty then h.complain ""
  if !f.below.isEmpty then h.complain "Caused by:"
  for c in f.below do h.complain ("    " ++ c.text)

/-- Runs a command that may fail. -/
def finish (h : Host m) (act : Action m Unit) : m UInt32 := do
  match ← act.run with
  | .ok () => return success
  | .error f =>
    h.complainOf f
    return failed

/-- Runs the program and answers its exit code. -/
def run (h : Host m) (arguments : List String) : m UInt32 := do
  match Invocation.ofArguments arguments with
  | .crawl o => h.finish (h.crawl o)
  | .check o => h.finish (h.check o)
  | .decode token =>
    h.decode token
    return success
  | .help t =>
    h.printAll t.help
    return success
  | .version =>
    h.print (Invocation.program ++ " " ++ Invocation.programVersion)
    return success
  | .misuse t =>
    h.complain "error: invalid arguments"
    h.complain ""
    h.complain ("Usage: " ++ t.usage)
    return misused

end Host

end Harvest.Command

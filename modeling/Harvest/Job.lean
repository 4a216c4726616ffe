import Harvest.Document.Toml
import Harvest.Job.Record
import Harvest.Version.Compute

/-!
# Jobs

Everything that a crawl is told in its job file: the rules, who may read what is handed over, how
paths turn into attributes and URIs, how often calls are retried, and how the crawl itself runs. A job
is read first and checked then, so that a file that can be read is refused only for what it says.
-/

namespace Harvest

open Document

/-- How access lists are obtained. -/
inductive AccessMode where
  | off
  | native
  | forced
deriving DecidableEq, Repr

namespace AccessMode

/-- The name of a mode. -/
def label : AccessMode → String
  | off => "off"
  | native => "native"
  | forced => "forced"

/-- Every mode by name. -/
def names : List (String × AccessMode) := [off, native, forced].map (fun m => (m.label, m))

end AccessMode

/-- How one of the access lists of an entry is obtained. -/
structure AccessSetting where
  mode : AccessMode
  tokens : List String
deriving DecidableEq, Repr

namespace AccessSetting

/-- Access lists are left out. -/
def standard : AccessSetting := ⟨.off, []⟩

/-- The policy of a setting; forced lists have to name somebody. -/
def policy? (s : AccessSetting) : Option AccessPolicy :=
  match s.mode with
  | .off => some .disabled
  | .native => some .native
  | .forced => if s.tokens.isEmpty then none else some (.forced s.tokens)

/-- Reads a setting. -/
def ofDocument? (d : Document) : Option AccessSetting := do
  match ← d.fields? ["mode", "tokens"] true with
  | [mode, tokens] =>
    return ⟨← withDefault? .off (choice? AccessMode.names) mode,
      ← withDefault? [] (listOf? text?) tokens⟩
  | _ => none

/-- Writes a setting. -/
def toDocument (s : AccessSetting) : Document :=
  .table [("mode", .text s.mode.label), ("tokens", texts s.tokens)]

end AccessSetting

/-- How both access lists of an entry are obtained. -/
structure Security where
  entry : AccessSetting
  container : AccessSetting
deriving DecidableEq, Repr

namespace Security

/-- No access lists. -/
def standard : Security := ⟨.standard, .standard⟩

/-- Reads both settings. -/
def ofDocument? (d : Document) : Option Security := do
  match ← d.fields? ["entry", "container"] true with
  | [entry, container] =>
    return ⟨← withDefault? .standard AccessSetting.ofDocument? entry,
      ← withDefault? .standard AccessSetting.ofDocument? container⟩
  | _ => none

/-- Writes both settings. -/
def toDocument (s : Security) : Document :=
  .table [("entry", s.entry.toDocument), ("container", s.container.toDocument)]

end Security

/-- How the crawl itself runs. -/
structure CrawlSettings where
  /-- How many entries are dealt with at a time, if the job says so. -/
  workers : Option UInt64
  /-- Where scratch copies go, if the job says so. -/
  scratchLocation : Option String
deriving DecidableEq, Repr

namespace CrawlSettings

/-- Nothing is said. -/
def standard : CrawlSettings := ⟨none, none⟩

/-- How many entries are dealt with at a time, at least one; `available` where the job is silent. -/
def workerCount (s : CrawlSettings) (available : Nat) : Nat :=
  max ((s.workers.map UInt64.toNat).getD available) 1

/-- Reads the settings. -/
def ofDocument? (d : Document) : Option CrawlSettings := do
  match ← d.fields? ["workers", "scratch_dir"] true with
  | [workers, location] =>
    return ⟨← withDefault? none (optional? uint64?) workers,
      ← withDefault? none (optional? text?) location⟩
  | _ => none

/-- Writes the settings. -/
def toDocument (s : CrawlSettings) : Document :=
  .table [("workers", ofOption (fun n => .nat n.toNat) s.workers),
    ("scratch_dir", ofOption .text s.scratchLocation)]

end CrawlSettings

/-- A job. -/
structure Job where
  rules : RuleTree
  security : Security
  pathAttribute : Option String
  uriScheme : String
  pathTable : List Substitution
  nameTable : List Substitution
  uriTable : List Substitution
  retry : RetryPolicy
  crawl : CrawlSettings
deriving DecidableEq, Repr

namespace Job

/-- The job of an empty file. -/
def standard : Job where
  rules := .empty
  security := .standard
  pathAttribute := none
  uriScheme := "file"
  pathTable := []
  nameTable := []
  uriTable := []
  retry := .standard
  crawl := .standard

/-- The job that includes everything. -/
def everything : Job := { standard with rules := .everything }

/-- The names of the parts of a job. -/
def partNames : List String :=
  ["rules", "security", "path_attribute", "uri_scheme", "path_remap", "file_name_remap", "uri_remap",
    "retry", "crawl"]

/-- Reads a job. -/
def ofDocument? (d : Document) : Option Job := do
  match ← d.fields? partNames true with
  | [rules, security, pathAttribute, uriScheme, pathTable, nameTable, uriTable, retry, crawl] =>
    let table := withDefault? [] (listOf? Substitution.ofDocument?)
    return {
      rules := ← withDefault? .empty RuleTree.ofDocument? rules
      security := ← withDefault? .standard Security.ofDocument? security
      pathAttribute := ← withDefault? none (optional? text?) pathAttribute
      uriScheme := ← withDefault? standard.uriScheme text? uriScheme
      pathTable := ← table pathTable
      nameTable := ← table nameTable
      uriTable := ← table uriTable
      retry := ← withDefault? .standard RetryPolicy.ofDocument? retry
      crawl := ← withDefault? .standard CrawlSettings.ofDocument? crawl }
  | _ => none

/-- Writes a job. -/
def toDocument (j : Job) : Document :=
  .table [("rules", j.rules.toDocument), ("security", j.security.toDocument),
    ("path_attribute", ofOption .text j.pathAttribute), ("uri_scheme", .text j.uriScheme),
    ("path_remap", ofList Substitution.toDocument j.pathTable),
    ("file_name_remap", ofList Substitution.toDocument j.nameTable),
    ("uri_remap", ofList Substitution.toDocument j.uriTable), ("retry", j.retry.toDocument),
    ("crawl", j.crawl.toDocument)]

/-! ## Checking -/

/-- Why a job is refused. -/
inductive Defect where
  | unreadable
  | rules (d : RuleTree.Defect)
  /-- Forced access lists in this part of the job name nobody. -/
  | noToken (part : String)
  /-- A table of substitutions, the part with this name, has an invalid pattern. -/
  | pattern (part : String) (p : InvalidPattern)
  | emptyScheme
  | noTries
deriving DecidableEq, Repr

namespace Defect

/-- The part of the job at fault, as headers are written. -/
def single (part : String) : String := "[" ++ part ++ "]"

/-- The part of the job at fault, as headers of lists are written. -/
def double (part : String) : String := "[[" ++ part ++ "]]"

/-- The failure of a job with a defect. -/
def failure : Defect → Failure
  | unreadable => .plain "Failed to parse TOML"
  | rules d => .plain d.message
  | noToken part => (Failure.plain "Forced security requires at least one token").within (single part)
  | pattern part p => (Failure.plain p.message).within (double part)
  | emptyScheme => .plain "uri_scheme must not be empty"
  | noTries => .plain (single "retry" ++ " budgets must be at least 1")

end Defect

/-- The policy of a setting, which stands in the given part of the job. -/
def policy (part : String) (s : AccessSetting) : Except Defect AccessPolicy :=
  match s.policy? with
  | some p => .ok p
  | none => .error (.noToken part)

/-- The table of the given part of the job. -/
def table (part : String) (specs : List Substitution) : Except Defect SubstitutionTable :=
  (SubstitutionTable.ofList specs).mapError (Defect.pattern part)

/-- The settings for what is derived from paths. -/
def mapping (j : Job) : Except Defect Mapping := do
  let pathTable ← table "path_remap" j.pathTable
  let nameTable ← table "file_name_remap" j.nameTable
  let uriTable ← table "uri_remap" j.uriTable
  return ⟨j.pathAttribute, pathTable, nameTable, uriTable, j.uriScheme⟩

/-- The settings for versions. -/
def encoder (j : Job) : Except Defect Encoder := do
  let entryAccess ← policy "security.entry" j.security.entry
  let containerAccess ← policy "security.container" j.security.container
  return ⟨containerAccess, entryAccess, ← j.mapping⟩

/-- Refuses a job that makes no sense. -/
def check (j : Job) : Except Defect Unit := do
  if let some d := j.rules.defect? then throw (.rules d)
  let _ ← j.encoder
  if j.uriScheme.isEmpty then throw .emptyScheme
  if j.retry.maxAttempts = 0 ∨ j.retry.maxConsecutive = 0 then throw .noTries

/-- The job that the text of a job file describes. -/
def ofText (source : String) : Except Defect Job := do
  match (Toml.parse? source).bind ofDocument? with
  | none => throw .unreadable
  | some j =>
    j.check
    return j

/-- The job that the content of the file at a path describes. -/
def ofContent (path : String) (content : Except Failure ByteArray) : Except Failure Job := do
  let bytes ← content.mapError (·.within ("Failed to read job config " ++ path))
  match String.fromUTF8? bytes with
  | none =>
    let cause := Failure.of (.system .invalidData "stream did not contain valid UTF-8")
    throw (cause.within ("Failed to read job config " ++ path))
  | some source =>
    (ofText source).mapError (fun d => d.failure.within ("Invalid job config " ++ path))

end Job

end Harvest

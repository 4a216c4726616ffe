import Harvest.Log.Directive

/-!
# Log filters

A filter is a list of directives, of which the most specific one that applies to an event decides. It
is taken from the environment if the environment holds a valid one.
-/

namespace Harvest.Log

/-- What is logged: directives that are decided in advance, and those that are decided event by event,
the most specific ones first. A directive can be of both kinds. -/
structure Filter where
  settled : List Directive
  dynamic : List Directive

namespace Filter

/-- The filter of some directives; of two for the same, the later one counts. -/
def ofDirectives (ds : List Directive) : Filter :=
  let build (ds : List Directive) := ds.foldl (fun acc d => d.insert acc) []
  let (dynamic, rest) := ds.partition Directive.isDynamic
  ⟨build (rest ++ dynamic.filter Directive.isStatic), build dynamic⟩

/-- Reads a filter: directives between commas. Nothing between two commas is no directive. -/
def ofText? (text : String) : Option Filter :=
  let pieces := (text.splitOn ",").filter (!·.isEmpty)
  (pieces.mapM (fun p => Directive.ofText? p.toList)).map ofDirectives

/-- The text of a filter. -/
def text (f : Filter) : String :=
  ",".intercalate ((f.settled ++ f.dynamic).map (fun d => String.ofList d.text))

/-- Whether events of a target and a level are logged, as far as that is decided in advance: the most
specific directive for the start of the target decides. -/
def shows (f : Filter) (target : String) (level : LogLevel) : Bool :=
  match f.settled.find? (fun d => (d.target.getD []).isPrefixOf target.toList && d.field.isNone) with
  | some d => level.rank ≤ d.level.rank
  | none => false

/-- The target of all that a crawl logs. -/
def ownTarget : String := "sharecrawl"

/-- What is logged unless the environment says otherwise. -/
def standard (verbose : Bool) : Filter :=
  ofDirectives [.everywhere (some ownTarget) (if verbose then .debug else .info)]

/-- The filter of the environment, or the standard one where it holds none or an invalid one. -/
def ofEnvironment (verbose : Bool) (setting : Option String) : Filter :=
  (setting.bind ofText?).getD (standard verbose)

end Filter

end Harvest.Log

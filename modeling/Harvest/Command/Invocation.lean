import Harvest.Command.Topic
import Harvest.Entry
import Harvest.Text.Numeral

/-!
# Invocations

What the program is asked to do by its arguments.
-/

namespace Harvest.Command

/-- What a crawl is told. -/
structure CrawlOptions where
  /-- The directory that identifiers are relative to. -/
  root : String
  jobPath : Option String
  seeds : List String
  /-- The file with the versions of the previous pass. -/
  statePath : Option String
  /-- Whether records are written instead of lines for readers. -/
  json : Bool
deriving DecidableEq, Repr

/-- What is asked of the rules. -/
structure CheckOptions where
  id : String
  kind : EntryKind
  length : UInt64
  jobPath : Option String
deriving DecidableEq, Repr

/-- What the program is asked to do. -/
inductive Invocation where
  | crawl (o : CrawlOptions)
  | decode (token : String)
  | check (o : CheckOptions)
  | help (t : Topic)
  | version
  | misuse (t : Topic)

namespace Invocation

/-- The name of the program. -/
def program : String := "sharecrawl"

/-- The version of the program. -/
def programVersion : String := "0.0.1"

/-! ## What the commands can be told -/

/-- Asks for more to be logged. -/
def verbose : Parameter :=
  { Parameter.named "verbose" .switch "Debug-level logging" with letter := some 'v' }

/-- Asks for help. -/
def helpOption : Parameter :=
  { Parameter.named "help" (.ends .help) "Print help" with letter := some 'h' }

/-- Asks for the version. -/
def versionOption : Parameter :=
  { Parameter.named "version" (.ends .version) "Print version" with letter := some 'V' }

/-- An option whose value is a path, which is never empty. -/
def path (name : String) (arity : Arity) (help : String) : Parameter :=
  { Parameter.named name arity help with accepts := fun v => !v.isEmpty }

/-- The crawl command. -/
def crawlTopic : Topic where
  name := program ++ " crawl"
  about := "Run one crawl pass over a local directory"
  operand := none
  commands := []
  options := [
    path "root" (.required "ROOT") "Directory that identifiers are relative to", verbose,
    path "config" (.value "CONFIG") "Job file (defaults to <config dir>/sharecrawl/job.toml)",
    { Parameter.named "seed" (.repeated "SEEDS") "Identifiers to start from" with
      remarks := ["default: /"] },
    path "state" (.value "STATE") "Version map from the previous pass; rewritten afterwards",
    .named "json" .switch "JSON lines instead of colored output", helpOption]

/-- The decode command. -/
def decodeTopic : Topic where
  name := program ++ " decode"
  about := "Print the contents of a version token"
  operand := some ("<TOKEN>", "")
  commands := []
  options := [verbose, helpOption]

/-- Kinds of entries by the names they have on the command line. -/
def kinds : List (String × EntryKind) := [("file", .leaf), ("directory", .container)]

/-- The check command. -/
def checkTopic : Topic where
  name := program ++ " check"
  about := "Evaluate the inclusion rules for an identifier"
  operand := none
  commands := []
  options := [
    .named "path" (.required "PATH") "", verbose,
    { Parameter.named "kind" (.value "KIND") "" with
      accepts := fun v => (kinds.lookup v).isSome
      remarks := ["default: file", "possible values: " ++ ", ".intercalate (kinds.map (·.1))] },
    { Parameter.named "length" (.value "LENGTH") "" with
      accepts := fun v => (Text.uint64? v.toList).isSome
      remarks := ["default: 0"] },
    path "config" (.value "CONFIG") "", helpOption]

/-- The help command. -/
def helpTopic : Topic where
  name := program ++ " help"
  about := "Print this message or the help of the given subcommand(s)"
  operand := some ("[COMMAND]...", "Print help for the subcommand(s)")
  commands := []
  options := []

/-- The commands by name. -/
def topics : List (String × Topic) :=
  [("crawl", crawlTopic), ("decode", decodeTopic), ("check", checkTopic), ("help", helpTopic)]

/-- The program as a whole. -/
def programTopic : Topic where
  name := program
  about := "Crawl decision engine for file shares"
  operand := none
  commands := topics.map (fun t => (t.1, t.2.about))
  options := [verbose, helpOption, versionOption]

/-! ## Reading -/

/-- The invocation that arguments of a command come to, by what they were read as. -/
def ofRead (t : Topic) (build : Topic.Given → Option Invocation) :
    Except Stop (Topic.Given × List String) → Invocation
  | .error .help => help t
  | .error .version => version
  | .error .misuse => misuse t
  | .ok (g, _) => (build g).getD (misuse t)

/-- The crawl that was asked for; without a seed it starts at the root. -/
def crawlOf (g : Topic.Given) : Option Invocation := do
  let seeds := g.values "seed"
  return crawl ⟨← g.value? "root", g.value? "config", if seeds.isEmpty then ["/"] else seeds,
    g.value? "state", g.has "json"⟩

/-- The check that was asked for; the entry is an empty file unless said otherwise. -/
def checkOf (g : Topic.Given) : Option Invocation := do
  let kind ← kinds.lookup ((g.value? "kind").getD "file")
  let length ← Text.uint64? ((g.value? "length").getD "0").toList
  return check ⟨← g.value? "path", kind, length, g.value? "config"⟩

/-- The help that was asked for. -/
def helpFor : Topic → List String → Invocation
  | t, [] => help t
  | t, name :: rest =>
    match (t.commands.lookup name).bind (fun _ => topics.lookup name) with
    | some t => helpFor t rest
    | none => misuse programTopic

/-- The invocation that arguments come to. -/
def ofArguments (arguments : List String) : Invocation :=
  match programTopic.read arguments with
  | .error .help => help programTopic
  | .error .version => version
  | .error .misuse => misuse programTopic
  | .ok (_, []) => misuse programTopic
  | .ok (_, name :: rest) =>
    match name with
    | "crawl" => ofRead crawlTopic crawlOf (crawlTopic.read rest)
    | "decode" => ofRead decodeTopic (fun g => g.operands.head?.map decode) (decodeTopic.read rest)
    | "check" => ofRead checkTopic checkOf (checkTopic.read rest)
    | "help" => helpFor programTopic rest
    | _ => misuse programTopic

/-- Whether a command was told to log more. -/
def asksForMore : Except Stop (Topic.Given × List String) → Bool
  | .ok (g, _) => g.has verbose.name
  | .error _ => false

/-- Whether arguments that come to a command ask for more to be logged, in front of the command or
behind it. -/
def isVerbose (arguments : List String) : Bool :=
  let whole := programTopic.read arguments
  match whole with
  | .ok (_, name :: rest) =>
    asksForMore whole || ((topics.lookup name).map (fun t => asksForMore (t.read rest))).getD false
  | _ => false

end Invocation

end Harvest.Command

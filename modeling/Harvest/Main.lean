import Std.Time.DateTime.Timestamp
import Harvest.Command.Program
import Harvest.FileTree
import Harvest.Log.Line

/-!
# The machine that runs the program

The files, the clock and the streams of the machine, in the form in which the program knows them.
-/

namespace Harvest.Machine

/-- The failure that an error of the machine comes to. -/
def failureOf : IO.Error → Failure
  | .alreadyExists _ code _ => .errno code.toNat
  | .otherError code _ => .errno code.toNat
  | .resourceBusy code _ => .errno code.toNat
  | .resourceVanished code _ => .errno code.toNat
  | .unsupportedOperation code _ => .errno code.toNat
  | .hardwareFault code _ => .errno code.toNat
  | .unsatisfiedConstraints code _ => .errno code.toNat
  | .illegalOperation code _ => .errno code.toNat
  | .protocolError code _ => .errno code.toNat
  | .timeExpired code _ => .errno code.toNat
  | .interrupted _ code _ => .errno code.toNat
  | .noFileOrDirectory _ code _ => .errno code.toNat
  | .invalidArgument _ code _ => .errno code.toNat
  | .permissionDenied _ code _ => .errno code.toNat
  | .resourceExhausted _ code _ => .errno code.toNat
  | .inappropriateType _ code _ => .errno code.toNat
  | .noSuchThing _ code _ => .errno code.toNat
  | .unexpectedEof => .of (.system .unexpectedEnd SystemFault.unexpectedEnd.description)
  | .userError message => .plain message

/-- An action that may fail, with the errors of the machine as failures. -/
def attempt {α : Type} (act : IO α) : Action IO α := ExceptT.mk do
  try
    return .ok (← act)
  catch e => return .error (failureOf e)

/-- What is known of a file. Where the path leads nowhere, opening the file tells why. -/
def statusAt (path : String) : IO FileStatus := do
  try
    let found ← (← IO.FS.realPath path).metadata
    let isDirectory := match found.type with
      | .dir => true
      | _ => false
    let modified := found.modified.sec * FileTree.second + found.modified.nsec.toNat
    return ⟨isDirectory, found.byteSize, modified, none⟩
  catch e =>
    let _ ← IO.FS.Handle.mk path .read
    throw e

/-- The first of some new files that can be made. -/
def makeFirst (directory : String) : List String → IO String
  | [] => throw (.userError "file exists")
  | name :: rest => do
    let path := FileSystem.join directory name
    try
      let _ ← IO.FS.Handle.mk path .writeNew
      return path
    catch e =>
      match e with
      | .alreadyExists .. => makeFirst directory rest
      | _ => throw e

/-- The files of the machine. -/
def files : FileSystem IO where
  status path := attempt (statusAt path)
  names path := attempt do return ((← (← IO.FS.realPath path).readDir).map (·.fileName)).toList
  read path := do
    let status ← attempt (statusAt path)
    if status.isDirectory then return ⟨[], some (.errno Errno.isDirectory)⟩
    return .ofBytes (← attempt (IO.FS.readBinFile path))
  write path bytes := attempt (IO.FS.writeBinFile path bytes)
  append path bytes := attempt do (← IO.FS.Handle.mk path .append).write bytes
  create directory := attempt do
    let start ← IO.monoNanosNow
    let candidates := (List.range 16).map (fun k => String.ofList (Text.decimal (start + k)))
    makeFirst directory (candidates.map (".scratch-" ++ ·))
  remove path := try IO.FS.removeFile path catch _ => return

/-- The time. -/
def now : IO Moment := do
  return (← Std.Time.Timestamp.now).toMillisecondsSinceUnixEpoch.val

/-- The process around the crawl, which logs what a filter lets through. -/
def monitor (filter : Log.Filter) : Monitor IO where
  now := now
  isCancelled := return false
  pause delay := do
    IO.sleep (UInt32.ofNat (min delay (UInt32.size - 1)))
    return false
  warn w := do if let some line := filter.line? w then IO.eprintln line

/-- Whether a variable of the environment is set to something. -/
def isSet (name : String) : IO Bool := do return ((← IO.getEnv name).getD "") != ""

/-- Whether what is printed is painted: if the environment says so, or a screen shows it. -/
def isPainted : IO Bool := do
  if (← IO.getEnv "NO_COLOR").isSome then return false
  if ← isSet "CLICOLOR_FORCE" then return (← IO.getEnv "CLICOLOR_FORCE") != some "0"
  (← IO.getStdout).isTty

/-- The place of the standard job file. -/
def standardJobPath : IO (Option String) := do
  let place (directory : String) :=
    FileSystem.join (FileSystem.join directory "sharecrawl") "job.toml"
  match (← IO.getEnv "XDG_CONFIG_HOME").filter (·.startsWith "/") with
  | some directory => return some (place directory)
  | none => return (← IO.getEnv "HOME").map (fun home => place (FileSystem.join home ".config"))

/-- The machine, as the program knows it. -/
def host (filter : Log.Filter) : IO (Command.Host IO) := do
  return {
    files := files
    monitor := monitor filter
    standardJobPath := ← standardJobPath
    scratchLocation := (← IO.getEnv "TMPDIR").getD "/tmp"
    console := ⟨← isPainted⟩
    print := fun line => IO.println line
    complain := fun line => IO.eprintln line }

end Harvest.Machine

/-- Runs the program with the arguments of the command line. -/
def main (arguments : List String) : IO UInt32 := do
  let verbose := Harvest.Command.Invocation.isVerbose arguments
  let filter := Harvest.Log.Filter.ofEnvironment verbose (← IO.getEnv "SHARECRAWL_LOG")
  (← Harvest.Machine.host filter).run arguments

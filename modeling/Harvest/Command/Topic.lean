/-!
# What commands can be told

A command is described by a value from which both the reader of its arguments and its help text are
made, so that neither knows an option that the other does not.
-/

namespace Harvest.Command

/-- Why the arguments come to no command. -/
inductive Stop where
  /-- Help was asked for. -/
  | help
  /-- The version of the program was asked for. -/
  | version
  /-- The arguments make no sense. -/
  | misuse
deriving DecidableEq, Repr

/-- What an option takes and how often it may be given. -/
inductive Arity where
  /-- Nothing; reading ends with it. -/
  | ends (s : Stop)
  /-- Nothing; it is given once or not at all. -/
  | switch
  /-- A value; the option may be left out. -/
  | value (placeholder : String)
  /-- A value; the option may not be left out. -/
  | required (placeholder : String)
  /-- A value each time the option is given. -/
  | repeated (placeholder : String)
deriving DecidableEq, Repr

/-- The name of the value in usage texts, if the option takes one. -/
def Arity.placeholder? : Arity → Option String
  | ends _ => none
  | switch => none
  | value p => some p
  | required p => some p
  | repeated p => some p

/-- An option. -/
structure Parameter where
  name : String
  letter : Option Char
  arity : Arity
  /-- Whether a value is possible. -/
  accepts : String → Bool
  help : String
  /-- What else there is to know of the values. -/
  remarks : List String

namespace Parameter

/-- An option without a letter for which every value is possible. -/
def named (name : String) (arity : Arity) (help : String) : Parameter :=
  ⟨name, none, arity, fun _ => true, help, []⟩

/-- Whether the option may not be left out. -/
def isRequired (p : Parameter) : Bool :=
  match p.arity with
  | .required _ => true
  | _ => false

/-- Whether reading ends with the option. -/
def isEnding (p : Parameter) : Bool :=
  match p.arity with
  | .ends _ => true
  | _ => false

/-- Whether the option may be given again. -/
def mayRepeat (p : Parameter) : Bool :=
  match p.arity with
  | .repeated _ => true
  | _ => false

/-- The option and its value as they are written. -/
def usage (p : Parameter) : String :=
  "--" ++ p.name ++ match p.arity.placeholder? with
    | some value => " <" ++ value ++ ">"
    | none => ""

end Parameter

/-- A command: what it is for and what it can be told. -/
structure Topic where
  /-- The words that call it. -/
  name : String
  about : String
  /-- What stands behind the options, as it is written, and what it is. -/
  operand : Option (String × String)
  /-- The commands that can stand there, and what they are for. -/
  commands : List (String × String)
  options : List Parameter

namespace Topic

/-- The option with a name. -/
def named? (t : Topic) (name : List Char) : Option Parameter :=
  t.options.find? (fun p => p.name.toList == name)

/-- The option with a letter. -/
def lettered? (t : Topic) (letter : Char) : Option Parameter :=
  t.options.find? (fun p => p.letter == some letter)

/-! ## Help -/

/-- How the command is called. -/
def usage (t : Topic) : String :=
  let options := if t.options.all (·.isEnding) then [] else ["[OPTIONS]"]
  let named := (t.options.filter (·.isRequired)).map (·.usage)
  let operand := t.operand.toList.map (·.1)
  let command := if t.commands.isEmpty then [] else ["<COMMAND>"]
  " ".intercalate (t.name :: options ++ named ++ operand ++ command)

/-- Lines of two columns under a heading; nothing where there are no lines. -/
def columns (heading : String) (rows : List (String × String)) : List String :=
  let width := (rows.map (·.1.length)).foldl max 0
  let line (row : String × String) : String :=
    "  " ++ row.1 ++ String.ofList (List.replicate (width + 2 - row.1.length) ' ') ++ row.2
  if rows.isEmpty then [] else "" :: (heading ++ ":") :: rows.map line

/-- The row of an option. -/
def row (p : Parameter) : String × String :=
  let letter := match p.letter with
    | some c => String.ofList ['-', c, ',', ' ']
    | none => "    "
  let texts := (if p.help.isEmpty then [] else [p.help]) ++ p.remarks.map (fun r => "[" ++ r ++ "]")
  (letter ++ p.usage, " ".intercalate texts)

/-- The help text. -/
def help (t : Topic) : List String :=
  [t.about, "", "Usage: " ++ t.usage] ++ columns "Commands" t.commands ++
    columns "Arguments" t.operand.toList ++ columns "Options" (t.options.map row)

/-! ## Reading -/

/-- What a command was told: options with their values, the last one first, and operands. -/
structure Given where
  options : List (String × String)
  operands : List String
deriving DecidableEq, Repr

namespace Given

/-- Nothing was said. -/
def nothing : Given := ⟨[], []⟩

/-- Whether an option was given. -/
def has (g : Given) (name : String) : Bool := g.options.any (fun o => o.1 == name)

/-- The values of an option, in order. -/
def values (g : Given) (name : String) : List String :=
  ((g.options.filter (fun o => o.1 == name)).map (·.2)).reverse

/-- The value of an option. -/
def value? (g : Given) (name : String) : Option String := (g.values name).head?

/-- Notes an option and its value, which is empty for an option without one. -/
def note (g : Given) (p : Parameter) (value : String) : Except Stop Given :=
  match p.arity with
  | .ends s => .error s
  | _ =>
    if (g.has p.name && !p.mayRepeat) || !p.accepts value then .error .misuse
    else .ok { g with options := (p.name, value) :: g.options }

end Given

/-- Reads an option by name, with the value behind an equals sign if there is one; answers an option
that still waits for its value. -/
def readNamed (t : Topic) (g : Given) (body : List Char) : Except Stop (Given × Option Parameter) :=
  let name := body.takeWhile (· != '=')
  match t.named? name, body.drop name.length with
  | none, _ => .error .misuse
  | some p, [] =>
    if p.arity.placeholder?.isSome then .ok (g, some p) else (g.note p "").map (·, none)
  | some p, _ :: value =>
    if p.arity.placeholder?.isSome then (g.note p (String.ofList value)).map (·, none)
    else .error .misuse

/-- Reads options by letter, none of which takes a value. -/
def readLetters (t : Topic) : Given → List Char → Except Stop Given
  | g, [] => .ok g
  | g, c :: cs =>
    match t.lettered? c with
    | some p => do t.readLetters (← g.note p "") cs
    | none => .error .misuse

/-- Whether an argument is written like an option. -/
def isOption (argument : String) : Bool :=
  match argument.toList with
  | '-' :: _ :: _ => true
  | _ => false

/-- Notes an operand, if the command takes one and has none yet. -/
def readOperand (t : Topic) (g : Given) (argument : String) : Except Stop Given :=
  if t.operand.isSome && g.operands.isEmpty then
    .ok { g with operands := [argument] }
  else .error .misuse

/-- Reads arguments that cannot be options. -/
def readOperands (t : Topic) : Given → List String → Except Stop Given
  | g, [] => .ok g
  | g, a :: rest => do t.readOperands (← t.readOperand g a) rest

/-- Reads arguments from left to right, `waiting` for the value of an option. Where commands can stand,
reading goes up to the first argument that is no option, which is answered with all that follows. -/
def readFrom (t : Topic) :
    Given → Option Parameter → List String → Except Stop (Given × List String)
  | g, none, [] => .ok (g, [])
  | _, some _, [] => .error .misuse
  | g, some p, a :: rest =>
    if isOption a then .error .misuse else do t.readFrom (← g.note p a) none rest
  | g, none, a :: rest =>
    if a = "--" then (t.readOperands g rest).map (·, [])
    else
      match a.toList with
      | '-' :: '-' :: body => do
        let (g, waiting) ← t.readNamed g body
        t.readFrom g waiting rest
      | '-' :: c :: cs => do t.readFrom (← t.readLetters g (c :: cs)) none rest
      | _ =>
        if t.commands.isEmpty then do t.readFrom (← t.readOperand g a) none rest
        else .ok (g, a :: rest)

/-- Reads all arguments of a command, up to the command in them where there is one. -/
def read (t : Topic) (arguments : List String) : Except Stop (Given × List String) := do
  let (g, rest) ← t.readFrom .nothing none arguments
  if t.options.any (fun p => p.isRequired && !g.has p.name) then throw .misuse
  if t.operand.isSome && g.operands.isEmpty then throw .misuse
  return (g, rest)

end Topic

end Harvest.Command

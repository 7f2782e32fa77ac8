/-!
# Command-line arguments

Arguments are read level by level: those before the name of a command, and those after it. The
options that concern every command may stand on both levels, where the one closer to the command
wins. A value that was given counts only when the next option, or the end, is reached.
-/
namespace TreeBundle.CommandLine
set_option autoImplicit false

inductive Switch where
  | quiet
  | verbose
  | stats
  | pretty
  | help
  | version
  deriving DecidableEq, Repr

inductive Setting where
  | root
  | rules
  | output
  deriving DecidableEq, Repr

inductive CommandName where
  | pack
  | explain
  | rules
  deriving DecidableEq, Repr

/-- Why nothing is run. -/
inductive Refusal where
  | showHelp
  | showVersion
  | unknownArgument
  | unknownCommand
  | invalidValue
  | missingArgument
  | repeatedArgument
  | unneededValue
  deriving DecidableEq, Repr

/-- What was asked for and shown is no failure. -/
def Refusal.exitCode : Refusal → Nat
  | .showHelp => 0
  | .showVersion => 0
  | _ => 2

inductive Choice where
  | switch (switch : Switch)
  | setting (setting : Setting)
  deriving DecidableEq, Repr

/-- What may be said on one level. -/
structure Level where
  short : List (Char × Choice)
  long : List (String × Choice)
  commands : List (String × CommandName)
  takesPaths : Bool

def commonShort : List (Char × Choice) :=
  [('q', .switch .quiet), ('v', .switch .verbose), ('h', .switch .help)]

def commonLong : List (String × Choice) :=
  [("root", .setting .root), ("rules", .setting .rules), ("quiet", .switch .quiet),
    ("verbose", .switch .verbose), ("help", .switch .help)]

def Level.top : Level where
  short := ('V', .switch .version) :: commonShort
  long := ("version", .switch .version) :: commonLong
  commands := [("pack", .pack), ("explain", .explain), ("rules", .rules)]
  takesPaths := false

def CommandName.level : CommandName → Level
  | .pack =>
    { short := ('o', .setting .output) :: commonShort
      long := ("output", .setting .output) :: ("stats", .switch .stats) :: commonLong
      commands := []
      takesPaths := false }
  | .explain =>
    { short := commonShort
      long := ("pretty", .switch .pretty) :: commonLong
      commands := []
      takesPaths := true }
  | .rules =>
    { short := commonShort
      long := commonLong
      commands := []
      takesPaths := false }

/-- Values that were given but do not count yet. -/
inductive Pending where
  | nothing
  | setting (setting : Setting) (value : Option String)
  | paths (values : List String)
  deriving DecidableEq, Repr

/-- What was said on one level. -/
structure Said where
  switches : List Switch
  settings : List (Setting × String)
  paths : List String
  pending : Pending
  deriving DecidableEq, Repr

namespace Said

def nothing : Said := ⟨[], [], [], .nothing⟩

def addSetting (said : Said) (setting : Setting) (value : String) : Except Refusal Said :=
  if (said.settings.lookup setting).isSome then .error .repeatedArgument
  else if value = "" then .error .invalidValue
  else .ok { said with settings := said.settings ++ [(setting, value)] }

/-- Makes the pending values count. -/
def settle (said : Said) : Except Refusal Said :=
  let settled := { said with pending := .nothing }
  match said.pending with
  | .nothing => .ok settled
  | .setting _ none => .error .invalidValue
  | .setting setting (some value) => settled.addSetting setting value
  | .paths values =>
    if values.contains "" then .error .invalidValue
    else .ok { settled with paths := said.paths ++ values }

def addSwitch (said : Said) (switch : Switch) : Except Refusal Said := do
  let said ← said.settle
  match switch with
  | .help => .error .showHelp
  | .version => .error .showVersion
  | switch =>
    if said.switches.contains switch then .error .repeatedArgument
    else .ok { said with switches := said.switches ++ [switch] }

/-- A setting with its value, if that is attached. -/
def addOption (said : Said) (setting : Setting) (attached : Option String) :
    Except Refusal Said := do
  let said ← said.settle
  match attached with
  | some value => said.addSetting setting value
  | none => .ok { said with pending := .setting setting none }

/-- Whether a setting still waits for its value. -/
def awaitsValue? (said : Said) : Option Setting :=
  match said.pending with
  | .setting setting none => some setting
  | _ => none

def addPath (said : Said) (path : String) : Except Refusal Said :=
  match said.pending with
  | .paths values => .ok { said with pending := .paths (values ++ [path]) }
  | _ => said.settle.map fun said => { said with pending := .paths [path] }

end Said

/-- A long option, read after its hyphens. -/
def readLong (level : Level) (said : Said) (text : List Char) : Except Refusal Said :=
  let name := text.takeWhile (· != '=')
  let attached := match text.dropWhile (· != '=') with
    | _ :: value => some (String.ofList value)
    | [] => none
  match level.long.lookup (String.ofList name) with
  | none => .error .unknownArgument
  | some (.switch switch) =>
    if attached.isSome then .error .unneededValue else said.addSwitch switch
  | some (.setting setting) => said.addOption setting attached

/-- Short options, read after the hyphen. The value of a setting may follow it directly. -/
def readShort (level : Level) (said : Said) : List Char → Except Refusal Said
  | [] => .ok said
  | c :: rest =>
    match level.short.lookup c with
    | none => .error .unknownArgument
    | some (.switch switch) =>
      match said.addSwitch switch with
      | .error refusal => .error refusal
      | .ok said => readShort level said rest
    | some (.setting setting) =>
      said.addOption setting
        (match rest with
        | [] => none
        | '=' :: value => some (String.ofList value)
        | value => some (String.ofList value))

/-- The answer to a request for help about commands. -/
def helpRequest : List String → Refusal
  | [] => .showHelp
  | [name] =>
    if name = "help" ∨ (Level.top.commands.lookup name).isSome then .showHelp
    else .unknownCommand
  | _ => .unknownCommand

/-- An argument that is neither an option nor a command. -/
def readPlain (level : Level) (said : Said) (afterMark : Bool) (argument : String) :
    Except Refusal Said :=
  if level.takesPaths then said.addPath argument
  else if level.commands.isEmpty then .error .unknownArgument
  else if afterMark && (argument == "help" || (level.commands.lookup argument).isSome) then
    .error .unknownArgument
  else .error .unknownCommand

/-- Reads a level up to the name of a command, which is returned with what follows it. After the
mark `--` no argument is an option or a command. -/
def readLevel (level : Level) : Bool → Said → List String →
    Except Refusal (Said × Option (CommandName × List String))
  | _, said, [] => .ok (said, none)
  | afterMark, said, argument :: rest =>
    let goOn (said : Except Refusal Said) :=
      match said with
      | .error refusal => .error refusal
      | .ok said => readLevel level afterMark said rest
    if afterMark then goOn (readPlain level said true argument)
    else
      match said.awaitsValue?, level.commands.lookup argument with
      | none, some command => .ok (said, some (command, rest))
      | awaiting, _ =>
        if awaiting.isNone && !level.commands.isEmpty && argument == "help" then
          .error (helpRequest rest)
        else
          match argument.toList with
          | ['-', '-'] => readLevel level true said rest
          | '-' :: '-' :: text => goOn (readLong level said text)
          | '-' :: c :: text => goOn (readShort level said (c :: text))
          | _ =>
            match awaiting with
            | some setting => goOn (.ok { said with pending := .setting setting (some argument) })
            | none => goOn (readPlain level said false argument)

/-- Where a value comes from, the weakest source first. -/
inductive Source where
  | default
  | environment
  | arguments
  deriving DecidableEq, Repr

def Source.rank : Source → Nat
  | .default => 0
  | .environment => 1
  | .arguments => 2

/-- The rules file of one level: given there, or else named by the environment. -/
def levelRules (said : Said) (environment : Option String) :
    Except Refusal (Option (Source × String)) :=
  match said.settings.lookup .rules, environment with
  | some path, _ => .ok (some (.arguments, path))
  | none, some "" => .error .invalidValue
  | none, some path => .ok (some (.environment, path))
  | none, none => .ok none

/-- Of two levels' values the stronger one, of equal ones the inner. -/
def stronger {α : Type} (outer inner : Option (Source × α)) : Option (Source × α) :=
  match outer, inner with
  | some outer, some inner => if inner.1.rank < outer.1.rank then some outer else some inner
  | some outer, none => some outer
  | none, inner => inner

inductive Command where
  | pack (output : String) (stats : Bool)
  | explain (paths : List String) (pretty : Bool)
  | rules
  deriving DecidableEq, Repr

/-- What the arguments ask for. -/
structure Invocation where
  root : String
  rules : Option String
  quiet : Bool
  verbose : Bool
  command : Command
  deriving DecidableEq, Repr

def defaultOutput : String := "output.md"

def defaultRoot : String := "."

def CommandName.toCommand (name : CommandName) (said : Said) : Command :=
  match name with
  | .pack =>
    .pack ((said.settings.lookup .output).getD defaultOutput) (said.switches.contains .stats)
  | .explain => .explain said.paths (said.switches.contains .pretty)
  | .rules => .rules

/-- Settles one level and looks up its rules file. -/
def finishLevel (said : Said) (environment : Option String) :
    Except Refusal (Said × Option (Source × String)) := do
  let said ← said.settle
  return (said, ← levelRules said environment)

/-- The command of an inner level, once all of the level is known to be right. -/
def readCommand (name : CommandName) (arguments : List String) (environment : Option String) :
    Except Refusal (Said × Option (Source × String)) := do
  let (said, _) ← readLevel name.level false .nothing arguments
  let finished ← finishLevel said environment
  if name = .explain ∧ finished.1.paths = [] then .error .missingArgument
  else .ok finished

/-- Reads all arguments. Without a command the tree is packed. -/
def read (arguments : List String) (environment : Option String) : Except Refusal Invocation := do
  let (top, named) ← readLevel .top false .nothing arguments
  match named with
  | none =>
    let (said, rules) ← finishLevel top environment
    return {
      root := (said.settings.lookup .root).getD defaultRoot
      rules := rules.map Prod.snd
      quiet := said.switches.contains .quiet
      verbose := said.switches.contains .verbose
      command := .pack defaultOutput false }
  | some (name, rest) =>
    let (inner, innerRules) ← readCommand name rest environment
    let (said, rules) ← finishLevel top environment
    return {
      root := ((inner.settings.lookup .root).or (said.settings.lookup .root)).getD defaultRoot
      rules := (stronger rules innerRules).map Prod.snd
      quiet := inner.switches.contains .quiet || said.switches.contains .quiet
      verbose := inner.switches.contains .verbose || said.switches.contains .verbose
      command := name.toCommand inner }

end TreeBundle.CommandLine

import PageCheck.Text.Blank
import PageCheck.Text.Digit

/-!
Command lines. A command line is a command with its paths; options may stand before the command,
after it, and between the paths. An option is given at most once on each side of the command, and
what is given after the command counts. After `--` there are paths only.
-/
namespace PageCheck.Cli

inductive OutputFormat where
  | table | json
  deriving DecidableEq, Repr, Inhabited

structure RunOptions where
  placeholders : Option String
  webDriver : Option String
  base : Option String
  timeout : Option Nat
  debug : Bool
  deriving DecidableEq, Repr, Inhabited

inductive Command where
  | run (paths : List String) (options : RunOptions)
  | validate (paths : List String)
  deriving DecidableEq, Repr, Inhabited

structure Invocation where
  settings : String
  format : OutputFormat
  verbose : Bool
  command : Command
  deriving DecidableEq, Repr, Inhabited

inductive OptionKind where
  | flag | path | text | number | format
  deriving DecidableEq, Repr, Inhabited

abbrev Options := List (String × OptionKind)

def globalOptions : Options := [("config", .path), ("format", .format), ("verbose", .flag)]

def runOptions : Options :=
  [("placeholders", .path), ("webdriver", .text), ("base-url", .text), ("timeout-ms", .number),
   ("debug", .flag)]

def optionLetters : List (Char × String) := [('v', "verbose")]

def number? (text : String) : Option Nat :=
  let digits := match text.toList with
    | '+' :: rest => rest
    | cs => cs
  (Text.natural? 10 digits).bind fun n => if n ≤ 0xffffffffffffffff then some n else none

def OutputFormat.ofName? (name : String) : Option OutputFormat :=
  [("table", OutputFormat.table), ("json", .json)].lookup name

def OptionKind.admits (kind : OptionKind) (value : String) : Bool :=
  match kind with
  | .flag => false
  | .path => value ≠ ""
  | .text => true
  | .number => (number? value).isSome
  | .format => (OutputFormat.ofName? value).isSome

def isOption (argument : String) : Bool :=
  match argument.toList with
  | '-' :: _ :: _ => true
  | _ => false

abbrev Given := List (String × String)

def Given.add (given : Given) (name value : String) : Option Given :=
  if (given.lookup name).isSome then none else some (given ++ [(name, value)])

def Given.addLetters : Given → List Char → Option Given
  | given, [] => some given
  | given, letter :: rest => do
    let name ← optionLetters.lookup letter
    let given ← given.add name ""
    given.addLetters rest

def readOption (options : Options) (given : Given) (argument : String) (rest : List String) :
    Option (Given × List String) :=
  match argument.toList with
  | '-' :: '-' :: written =>
    let name := String.ofList (written.takeWhile (· ≠ '='))
    let attached := written.dropWhile (· ≠ '=')
    match options.lookup name, attached, rest with
    | none, _, _ => none
    | some .flag, [], _ => (given.add name "").map (·, rest)
    | some kind, _ :: value, _ =>
      let value := String.ofList value
      if kind.admits value then (given.add name value).map (·, rest) else none
    | some kind, [], value :: rest =>
      if !isOption value ∧ kind.admits value then (given.add name value).map (·, rest) else none
    | some _, [], [] => none
  | '-' :: letters => (given.addLetters letters).map (·, rest)
  | _ => none

def readGlobal : (limit : Nat) → Given → List String → Option (Given × String × List String)
  | 0, _, _ => none
  | _, _, [] => none
  | limit + 1, given, argument :: rest =>
    if isOption argument then do
      let (given, rest) ← readOption globalOptions given argument rest
      readGlobal limit given rest
    else some (given, argument, rest)

def readLocal (options : Options) :
    (limit : Nat) → Given → List String → Option (Given × List String)
  | 0, _, _ => none
  | _, given, [] => some (given, [])
  | limit + 1, given, argument :: rest =>
    if argument = "--" then some (given, rest)
    else if isOption argument then do
      let (given, rest) ← readOption options given argument rest
      readLocal options limit given rest
    else do
      let (given, paths) ← readLocal options limit given rest
      return (given, argument :: paths)

def RunOptions.ofGiven (given : Given) : RunOptions :=
  { placeholders := given.lookup "placeholders"
    webDriver := given.lookup "webdriver"
    base := given.lookup "base-url"
    timeout := (given.lookup "timeout-ms").bind number?
    debug := (given.lookup "debug").isSome }

def commandOptions : List (String × Options) := [("run", runOptions), ("validate", [])]

def Command.ofGiven (name : String) (paths : List String) (given : Given) : Command :=
  if name = "run" then .run paths (RunOptions.ofGiven given) else .validate paths

def defaultSettings : String := "ssc.toml"

def Invocation.ofArguments (arguments : List String) : Option Invocation := do
  let (outer, name, rest) ← readGlobal (arguments.length + 1) [] arguments
  let options ← commandOptions.lookup name
  let (inner, paths) ← readLocal (options ++ globalOptions) (rest.length + 1) [] rest
  if paths.isEmpty || paths.any (· = "") then none
  else
    let given := inner ++ outer
    some
      { settings := (given.lookup "config").getD defaultSettings
        format := ((given.lookup "format").bind OutputFormat.ofName?).getD .table
        verbose := (given.lookup "verbose").isSome
        command := Command.ofGiven name paths given }

end PageCheck.Cli

import PageCheck.Cli.Result
import PageCheck.Scenario.File
import PageCheck.Settings.File

/-!
The commands. `validate` reads scenario files and tells which of them can be read; `run` runs them
as well, each in a browser session of its own. A path that names nothing stops a command before any
file is read. A command succeeds when every file passes. The log goes to standard error, in front of
the totals. Output goes to no terminal, and options come from the command line only: no environment
variable sets one.
-/
namespace PageCheck.Cli

structure Output where
  status : Nat
  stdout : String
  stderr : String
  deriving DecidableEq, Repr, Inhabited

/-- What the commands leave to others: showing the log, and a browser session. Both are told which
of the files they serve, counted from zero. -/
structure Launcher where
  /-- What the log shows of an event, with the time of writing; nothing when its level is hidden. -/
  line : (verbose : Bool) → (place : Nat) → Event → String
  /-- Opens a session, runs the scenario of a file in it and closes it; gives the counters and the
  milliseconds it took, and what the log shows of all this. -/
  session : (verbose : Bool) → Settings → Mapping → (place : Nat) → (path : String) → Scenario →
    Except Failure (Tally × Nat) × String

namespace Launcher

def unreachable : Launcher where
  line _ _ _ := ""
  session _ settings _ _ _ _ :=
    (.error (.host (.session ("no browser at " ++ settings.session.url))), "")

def log (launcher : Launcher) (verbose : Bool) (events : List (Option Event)) : String :=
  String.join (events.mapIdx fun place event =>
    (event.map (launcher.line verbose place)).getD "")

end Launcher

def expandPath (tree : FileTree) (path : String) : Option (List NamedFile) :=
  match tree.locate path with
  | .ok place =>
    match place.node with
    | .file content => some [{ path, content }]
    | .directory _ => some (place.scenarioFiles path)
  | .error _ => none

def expand (tree : FileTree) : List String → Except String (List NamedFile)
  | [] => .ok []
  | path :: rest =>
    match expandPath tree path with
    | none => .error path
    | some files => do
      let others ← expand tree rest
      return files ++ others

def Output.stopped (reason : String) : Output :=
  { status := 1, stdout := "", stderr := "Error: " ++ reason ++ "\n" }

def Output.missing (path : String) : Output := stopped ("No such file or directory: " ++ path)

def indented (text : String) : String :=
  String.intercalate "\n"
    ((Text.splitAtEach (· = '\n') text.toList).map fun line => "    " ++ String.ofList line)

def Output.unreadable (failure : Failure) : Output :=
  match failure with
  | .unreadable _ cause => stopped (failure.message ++ "\n\nCaused by:\n" ++ indented cause)
  | failure => stopped failure.message

def good (text : String) : String := "✅ " ++ text ++ "\n"

def bad (text : String) : String := "❌ " ++ text ++ "\n"

def Output.ofResults (format : OutputFormat) (results : List FileResult)
    (allGood someBad log details : String) : Output :=
  let failed := (FileResult.failures results).length
  let total := toString results.length
  let printed := FileResult.list format results
  match format with
  | .json => { status := if failed = 0 then 0 else 1, stdout := printed, stderr := log }
  | .table =>
    if failed = 0 then
      { status := 0, stdout := printed ++ good (total ++ allGood), stderr := log ++ details }
    else
      { status := 1, stdout := printed
        stderr := log ++ details ++ bad (toString failed ++ " of " ++ total ++ someBad) }

section Commands

variable [Readers] (launcher : Launcher) (verbose : Bool)

def validateFile (file : NamedFile) : FileResult :=
  match Scenario.ofFile file with
  | .ok s =>
    { file := file.path, tally := { Tally.none with steps := s.length }, elapsed := 0
      failure := none }
  | .error f => .failed file.path f

def validateEvent (file : NamedFile) : Option Event :=
  match Scenario.ofFile file with
  | .ok s => some (.parsed file.path s.length)
  | .error _ => none

def validate (format : OutputFormat) (tree : FileTree) (paths : List String) : Output :=
  match expand tree paths with
  | .error path => .missing path
  | .ok files =>
    .ofResults format (files.map validateFile) " scenario files are valid"
      " scenario files are invalid" (launcher.log verbose (files.map validateEvent)) ""

def runFile (settings : Settings) (mapping : Mapping) (place : Nat) (file : NamedFile) :
    FileResult × String :=
  match Scenario.ofFile file with
  | .error f => (.failed file.path f, "")
  | .ok s =>
    let (outcome, log) := launcher.session verbose settings mapping place file.path s
    let result := match outcome with
      | .ok (tally, elapsed) => { file := file.path, tally, elapsed, failure := none }
      | .error f => .failed file.path f
    (result, launcher.line verbose place (.running file.path s.length) ++ log)

def RunOptions.override (options : RunOptions) (s : Settings) : Settings :=
  { session := { s.session with url := options.webDriver.getD s.session.url }
    checking :=
      { s.checking with
        base := options.base.orElse fun _ => s.checking.base
        timeout := options.timeout.getD s.checking.timeout
        debug := options.debug || s.checking.debug } }

def readSettings (tree : FileTree) (path : String) : Except String Settings :=
  match tree.locate path with
  | .error _ => .ok .default
  | .ok place =>
    match place.node with
    | .directory _ => .error PathFault.isDirectory.message
    | .file (.unreadable reason) => .error reason
    | .file (.text text) =>
      match Settings.ofText text with
      | some s => .ok s
      | none => .error (Readers.settings text)

def details (results : List FileResult) : String :=
  String.join ((FileResult.failures results).map fun r =>
    (r.failure.map fun f => bad (r.file ++ "\n" ++ f.message)).getD "")

def run (format : OutputFormat) (settings : Settings) (mapping : Mapping) (tree : FileTree)
    (paths : List String) : Output :=
  match expand tree paths with
  | .error path => .missing path
  | .ok files =>
    let ran := files.mapIdx (runFile launcher verbose settings mapping)
    let results := ran.map Prod.fst
    .ofResults format results " scenarios passed" " scenarios failed"
      (String.join (ran.map Prod.snd))
      (match format with
        | .json => ""
        | .table => details results)

def readMapping (tree : FileTree) (options : RunOptions) : Except Failure Mapping :=
  match options.placeholders with
  | none => .ok []
  | some path => tree.mappingAt path

end Commands

def usage : String :=
  "Usage: ssc [--config FILE] [--format table|json] [--verbose] run|validate PATH...\n"

section Invocations

variable [Readers] (launcher : Launcher) (tree : FileTree)

def Invocation.perform (i : Invocation) : Output :=
  match i.command with
  | .validate paths => validate launcher i.verbose i.format tree paths
  | .run paths options =>
    match readSettings tree i.settings with
    | .error reason => .stopped reason
    | .ok settings =>
      match readMapping tree options with
      | .error f => .unreadable f
      | .ok mapping =>
        run launcher i.verbose i.format (options.override settings) mapping tree paths

def perform (arguments : List String) : Output :=
  match Invocation.ofArguments arguments with
  | none => { status := 2, stdout := "", stderr := usage }
  | some i => i.perform launcher tree

end Invocations

end PageCheck.Cli

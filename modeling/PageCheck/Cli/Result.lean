import PageCheck.Cli.Arguments
import PageCheck.Cli.Grid
import PageCheck.Run

/-!
Results of scenario files, and how a list of them is written: as a table, or as a document. Nothing
is coloured, as the output goes to no terminal.
-/
namespace PageCheck.Cli

structure FileResult where
  file : String
  tally : Tally
  /-- In milliseconds. -/
  elapsed : Nat
  failure : Option Failure
  deriving Repr, Inhabited

namespace FileResult

def failed (file : String) (failure : Failure) : FileResult :=
  { file, tally := .none, elapsed := 0, failure := some failure }

def passed (r : FileResult) : Bool := r.failure.isNone

def reason (r : FileResult) : Option String := r.failure.map fun f => f.root.message

def columns : List String :=
  ["File", "Status", "Steps", "Skipped", "Navigations", "Elapsed", "Error"]

def row (r : FileResult) : List String :=
  [r.file, if r.passed then "PASS" else "FAIL", toString r.tally.steps, toString r.tally.skipped,
   toString r.tally.navigations, toString r.elapsed ++ " ms",
   (r.failure.map fun f => f.name ++ ": " ++ f.root.message).getD ""]

def textOrNull (text : Option String) : Json := (text.map Json.text).getD .null

def toJson (r : FileResult) : Json :=
  .record [("file", .text r.file), ("passed", .bool r.passed),
    ("steps", Json.nat r.tally.steps), ("skipped", Json.nat r.tally.skipped),
    ("navigations", Json.nat r.tally.navigations), ("elapsed_ms", Json.nat r.elapsed),
    ("error", textOrNull (r.failure.map Failure.name)), ("reason", textOrNull r.reason),
    ("message", textOrNull (r.failure.map Failure.message))]

def failures (results : List FileResult) : List FileResult := results.filter fun r => !r.passed

def list (format : OutputFormat) (results : List FileResult) : String :=
  match format with
  | .json => (Json.list (results.map toJson)).pretty ++ "\n"
  | .table =>
    if results.isEmpty then "No scenario files found.\n"
    else Grid.draw columns (results.map row) ++ "\n"

end FileResult

end PageCheck.Cli

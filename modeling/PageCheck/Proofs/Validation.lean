import Mathlib.Data.List.Forall2
import PageCheck.Cli.Command
import PageCheck.Event
import PageCheck.Proofs.FileListing

/-!
What `validate` says is what reading the files gives. The listing, the verdicts, the totals, the log
and the exit status come from separate passes over the paths; here they are told of one list of
results.
-/
namespace PageCheck.Cli

section Paths

variable {world : FileTree} {path : String} {paths : List String} {files : List NamedFile}

end Paths

structure Told where
  passed : Bool
  record : Json
  row : List String
  event : Option Event

inductive Tells [Readers] (world : FileTree) (path : String) : Told → Prop where
  | accepted {s} (read : world.scenarioAt path = .ok s) :
    Tells world path
      { passed := true
        record := .record [("file", .text path), ("passed", .bool true),
          ("steps", Json.nat s.length), ("skipped", Json.nat 0), ("navigations", Json.nat 0),
          ("elapsed_ms", Json.nat 0), ("error", .null), ("reason", .null), ("message", .null)]
        row := [path, "PASS", toString s.length, "0", "0", "0 ms", ""]
        event := some (.parsed path s.length) }
  | refused {failure} (read : world.scenarioAt path = .error failure) :
    Tells world path
      { passed := false
        record := .record [("file", .text path), ("passed", .bool false),
          ("steps", Json.nat 0), ("skipped", Json.nat 0), ("navigations", Json.nat 0),
          ("elapsed_ms", Json.nat 0), ("error", .text failure.name),
          ("reason", .text failure.root.message), ("message", .text failure.message)]
        row := [path, "FAIL", "0", "0", "0", "0 ms", failure.name ++ ": " ++ failure.root.message]
        event := none }

def Told.ofFile [Readers] (file : NamedFile) : Told :=
  let r := validateFile file
  { passed := r.passed, record := r.toJson, row := r.row, event := validateEvent file }

def table (told : List Told) : String :=
  if told.isEmpty then "No scenario files found.\n"
  else Grid.draw FileResult.columns (told.map Told.row) ++ "\n"

def failed (told : List Told) : Nat := told.countP fun one => !one.passed

inductive Prints (told : List Told) (log : String) : OutputFormat → Output → Prop where
  | document :
    Prints told log .json
      { status := if failed told = 0 then 0 else 1
        stdout := (Json.list (told.map Told.record)).pretty ++ "\n", stderr := log }
  | allValid (none : failed told = 0) :
    Prints told log .table
      { status := 0
        stdout := table told ++ "✅ " ++ toString told.length ++ " scenario files are valid" ++ "\n"
        stderr := log }
  | someInvalid (some : failed told ≠ 0) :
    Prints told log .table
      { status := 1, stdout := table told
        stderr := log ++ "❌ " ++ toString (failed told) ++ " of " ++ toString told.length ++
          " scenario files are invalid" ++ "\n" }

theorem Prints.status {told : List Told} {log : String} {format : OutputFormat} {output : Output}
    (prints : Prints told log format output) :
    output.status = if ∀ one ∈ told, one.passed = true then 0 else 1 := by
  have all : failed told = 0 ↔ ∀ one ∈ told, one.passed = true := by
    simp [failed, List.countP_eq_zero]
  cases prints with
  | document => simp only [all]
  | allValid none => exact (if_pos (all.mp none)).symm
  | someInvalid some => exact (if_neg (mt all.mpr some)).symm

end PageCheck.Cli

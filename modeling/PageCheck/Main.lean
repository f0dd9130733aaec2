import PageCheck.Cli.Command
import PageCheck.Files.Snapshot
import PageCheck.Json.Reader

/-!
The program. Its command line is a command with its paths; the files these may name come on
standard input, as a record of paths and texts on one line. It drives no browser, so `run` stops
where a session would be opened. It shows no log, and its readers do not say why they refuse a text.
-/

open PageCheck in
def main (arguments : List String) : IO UInt32 := do
  let line ← (← IO.getStdin).getLine
  match (Json.read line).bind FileTree.ofJson with
  | none =>
    IO.eprintln "expected a record of paths and texts on standard input"
    return 2
  | some tree =>
    let output := Cli.perform Cli.Launcher.unreachable tree arguments
    IO.print output.stdout
    IO.eprint output.stderr
    return output.status.toUInt32

import PageCheck.Failure
import PageCheck.Files.Tree

/-!
A file system as a record: texts under the paths of files, and `null` under the paths of directories
that may be empty. Its readers say nothing of why they refuse a text.
-/
namespace PageCheck

instance : Readers := .mute

namespace FileTree

def entryNames (path : String) : List String :=
  (Path.parts path).filter fun part => !Path.stays part

def addFields : FileTree → Fields → Option FileTree
  | tree, [] => some tree
  | tree, (path, .text content) :: rest => (tree.addFile (entryNames path) content).addFields rest
  | tree, (path, .null) :: rest => (tree.addDirectory (entryNames path)).addFields rest
  | _, _ :: _ => none

def ofJson : Json → Option FileTree
  | .record fields => empty.addFields fields
  | _ => none

end FileTree

end PageCheck

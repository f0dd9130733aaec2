import PageCheck.Files.Path
import PageCheck.Keyed

/-!
File systems. A `FileTree` is a place in one: a path may start there or at the top, and go to
parents; the top is its own parent. The entries of a directory stand in order of name, so the walk
through a directory meets its files in the order of their lists of names. There are files and
directories only, and every directory can be listed.
-/
namespace PageCheck

inductive Content where
  | text (value : String)
  | unreadable (reason : String)
  deriving DecidableEq, Repr, Inhabited

inductive FileNode where
  | file (content : Content)
  | directory (entries : List (String × FileNode))
  deriving Repr, Inhabited

inductive PathFault where
  | missing | notDirectory | isDirectory
  deriving DecidableEq, Repr, Inhabited

def PathFault.message : PathFault → String
  | .missing => "No such file or directory (os error 2)"
  | .notDirectory => "Not a directory (os error 20)"
  | .isDirectory => "Is a directory (os error 21)"

namespace FileNode

inductive Proper : FileNode → Prop where
  | file (content : Content) : Proper (file content)
  | directory {entries : Keyed FileNode} (ordered : Keyed.Increasing entries)
      (named : ∀ entry ∈ entries, Path.IsName entry.1)
      (inside : ∀ entry ∈ entries, Proper entry.2) : Proper (directory entries)

def bare : FileNode := directory []

def find : FileNode → List String → Option FileNode
  | node, [] => some node
  | directory entries, name :: names =>
    (Keyed.get? entries name).bind fun node => node.find names
  | file _, _ :: _ => none

def change (act : FileNode → FileNode) : List String → FileNode → FileNode
  | [], node => act node
  | name :: names, directory entries =>
    directory (Keyed.insert name (change act names ((Keyed.get? entries name).getD bare)) entries)
  | name :: names, file _ => directory [(name, change act names bare)]

mutual

def files : FileNode → List (List String × Content)
  | file content => [([], content)]
  | directory entries => filesOf entries

def filesOf : List (String × FileNode) → List (List String × Content)
  | [] => []
  | (name, node) :: rest =>
    node.files.map (fun (names, content) => (name :: names, content)) ++ filesOf rest

end

theorem bareProper : bare.Proper := .directory .nil (fun _ => nofun) (fun _ => nofun)

theorem changeProper {act : FileNode → FileNode} (acts : ∀ node, node.Proper → (act node).Proper)
    {names : List String} (named : ∀ name ∈ names, Path.IsName name) {node : FileNode}
    (proper : node.Proper) : (node.change act names).Proper := by
  induction names generalizing node with
  | nil => exact acts node proper
  | cons name rest ih =>
    obtain ⟨own, inRest⟩ := List.forall_mem_cons.mp named
    cases proper with
    | file content =>
      exact .directory (List.pairwise_singleton _ _) (by simpa using own)
        (by simpa using ih inRest bareProper)
    | @directory entries ordered named inside =>
      have found : ((Keyed.get? entries name).getD bare).Proper := by
        cases entry : Keyed.get? entries name with
        | none => exact bareProper
        | some node => exact inside _ (Keyed.foundMember entry)
      refine .directory (Keyed.insertIncreasing ordered) (fun entry member => ?_)
        (fun entry member => ?_) <;> rcases Keyed.memInsert member with rfl | before
      · exact own
      · exact named entry before
      · exact ih inRest found
      · exact inside entry before

theorem findAppend (node : FileNode) (front back : List String) :
    node.find (front ++ back) = (node.find front).bind fun found => found.find back := by
  induction front generalizing node with
  | nil => rfl
  | cons name rest ih =>
    cases node with
    | file content => rfl
    | directory entries => simp only [List.cons_append, find, ih, Option.bind_assoc]

theorem findProper {node found : FileNode} {names : List String} (proper : node.Proper)
    (stands : node.find names = some found) :
    found.Proper ∧ ∀ name ∈ names, Path.IsName name := by
  induction names generalizing node with
  | nil => cases stands; exact ⟨proper, fun _ => nofun⟩
  | cons name rest ih =>
    cases proper with
    | file content => cases stands
    | directory ordered named inside =>
      obtain ⟨child, entry, onward⟩ := Option.bind_eq_some_iff.mp stands
      have member := Keyed.foundMember entry
      have ⟨proper, inRest⟩ := ih (inside _ member) onward
      exact ⟨proper, List.forall_mem_cons.mpr ⟨named _ member, inRest⟩⟩

theorem findChange (act : FileNode → FileNode) {node found : FileNode} {front : List String}
    (stands : node.find front = some found) (back : List String) :
    (node.change act (front ++ back)).find front = some (found.change act back) := by
  induction front generalizing node with
  | nil => cases stands; rfl
  | cons name rest ih =>
    cases node with
    | file content => cases stands
    | directory entries =>
      obtain ⟨child, entry, onward⟩ := Option.bind_eq_some_iff.mp stands
      simp only [List.cons_append, change, find, Keyed.getInsert, if_true, entry, Option.getD_some,
        Option.bind_some, ih onward]

end FileNode

/-- A place in a file system: the names that lead there from the top, and what stands there. -/
structure FileTree where
  top : FileNode
  proper : top.Proper
  names : List String
  node : FileNode
  stands : top.find names = some node

namespace FileTree

theorem nodeProper (tree : FileTree) : tree.node.Proper :=
  (FileNode.findProper tree.proper tree.stands).1

def empty : FileTree :=
  { top := .bare, proper := FileNode.bareProper, names := [], node := .bare, stands := rfl }

def atTop (tree : FileTree) : FileTree := { tree with names := [], node := tree.top, stands := rfl }

def move (tree : FileTree) (names : List String) : Except PathFault FileTree :=
  match found : tree.top.find names with
  | some node => .ok { tree with names, node, stands := found }
  | none => .error .missing

theorem moveFinds {tree : FileTree} {names : List String} {node : FileNode}
    (stands : tree.top.find names = some node) :
    tree.move names = .ok { tree with names, node, stands } := by
  unfold move
  split
  · next other found =>
    cases stands.symm.trans found
    rfl
  · next absent => cases stands.symm.trans absent

def enter (tree : FileTree) (part : String) : Except PathFault FileTree :=
  match tree.node with
  | .file _ => .error .notDirectory
  | .directory _ =>
    if Path.stays part then .ok tree
    else if part = Path.parent then tree.move tree.names.dropLast
    else tree.move (tree.names ++ [part])

def locate (tree : FileTree) (path : String) : Except PathFault FileTree :=
  if path = "" then .error .missing
  else
    let start := if path.toList.head? = some '/' then tree.atTop else tree
    (Path.parts path).foldlM enter start

/-- Changes what stands at the end of some names; what is no name of an entry changes nothing. -/
def grow (tree : FileTree) (act : FileNode → FileNode)
    (acts : ∀ node, node.Proper → (act node).Proper) (names : List String) : FileTree :=
  if named : ∀ name ∈ names, Path.IsName name then
    have inFront := (FileNode.findProper tree.proper tree.stands).2
    { top := tree.top.change act (tree.names ++ names)
      proper := FileNode.changeProper acts (List.forall_mem_append.mpr ⟨inFront, named⟩) tree.proper
      names := tree.names
      node := tree.node.change act names
      stands := FileNode.findChange act tree.stands names }
  else tree

def addFile (names : List String) (content : String) (tree : FileTree) : FileTree :=
  tree.grow (fun _ => .file (.text content)) (fun _ _ => .file _) names

def addDirectory (names : List String) (tree : FileTree) : FileTree :=
  tree.grow id (fun _ => id) names

end FileTree

structure NamedFile where
  path : String
  content : Content
  deriving DecidableEq, Repr, Inhabited

def FileTree.named (tree : FileTree) (path : String) : Except PathFault NamedFile := do
  let place ← tree.locate path
  match place.node with
  | .file content => return { path, content }
  | .directory _ => .error .isDirectory

def FileTree.namedFiles (root : String) (tree : FileTree) : List NamedFile :=
  tree.node.files.map fun (names, content) => { path := Path.below root names, content }

end PageCheck

import PageCheck.Files.Tree
import PageCheck.Yaml.Reading

/-!
Scenarios and mappings in files. A scenario file is told by its extension, and so is the format of
a file; a file that is no `json` file is read as a block-structured document. Several scenarios are
loaded all or none.
-/
namespace PageCheck

def scenarioExtensions : List String := ["yaml", "yml", "json"]

def Path.isScenario (path : String) : Bool :=
  (Path.extension path).any fun found => found ∈ scenarioExtensions

def Path.isJson (path : String) : Bool := Path.extension path = some "json"

def FileTree.scenarioFiles (root : String) (tree : FileTree) : List NamedFile :=
  (tree.namedFiles root).filter fun file => Path.isScenario file.path

def PathFault.toFailure (fault : PathFault) : Failure := .unreadable .file fault.message

def NamedFile.text (file : NamedFile) : Except Failure String :=
  match file.content with
  | .text value => .ok value
  | .unreadable reason => .error (.unreadable .file reason)

section Reading

variable [Readers]

def Scenario.ofFile (file : NamedFile) : Except Failure Scenario := do
  let text ← file.text
  if Path.isJson file.path then Scenario.ofText text else Scenario.ofYaml text

def Mapping.orRefused (source : Source) (text : String) : Option Mapping → Except Failure Mapping
  | some m => .ok m
  | none => .error (.unreadable source (Readers.mapping source text))

def Mapping.ofFile (file : NamedFile) : Except Failure Mapping := do
  let text ← file.text
  if Path.isJson file.path then orRefused .json text ((Json.read text).bind Mapping.ofJson)
  else orRefused .yaml text (Mapping.ofYaml text)

def Scenario.ofFiles : List NamedFile → Except Failure (List (String × Scenario))
  | [] => .ok []
  | file :: rest => do
    let first ← Scenario.ofFile file
    let others ← Scenario.ofFiles rest
    return (file.path, first) :: others

def FileTree.loadScenarios (root : String) (tree : FileTree) :
    Except Failure (List (String × Scenario)) :=
  Scenario.ofFiles (tree.scenarioFiles root)

def FileTree.scenarioAt (tree : FileTree) (path : String) : Except Failure Scenario := do
  let file ← (tree.named path).mapError PathFault.toFailure
  Scenario.ofFile file

def FileTree.mappingAt (tree : FileTree) (path : String) : Except Failure Mapping := do
  let file ← (tree.named path).mapError PathFault.toFailure
  Mapping.ofFile file

end Reading

end PageCheck

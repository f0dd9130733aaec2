import PageCheck.Text.Blank

/-!
Paths as text: names with slashes between them. What a file holds is told by the extension of its
last name.
-/
namespace PageCheck.Path

def parts (path : String) : List String :=
  (Text.splitAtEach (· = '/') path.toList).map String.ofList

def stays (part : String) : Bool := part = "" || part = "."

def parent : String := ".."

structure IsName (name : String) : Prop where
  moves : stays name = false
  onward : name ≠ parent
  whole : '/' ∉ name.toList

instance (name : String) : Decidable (IsName name) :=
  decidable_of_iff (stays name = false ∧ name ≠ parent ∧ '/' ∉ name.toList)
    ⟨fun ⟨moves, onward, whole⟩ => ⟨moves, onward, whole⟩, fun ⟨moves, onward, whole⟩ =>
      ⟨moves, onward, whole⟩⟩

def fileName (path : String) : Option String :=
  match (parts path).reverse.find? fun part => !stays part with
  | some name => if name = parent then none else some name
  | none => none

def nameExtension (name : String) : Option String :=
  match (Text.splitAtEach (· = '.') name.toList).reverse with
  | last :: before :: more => if more = [] ∧ before = [] then none else some (String.ofList last)
  | _ => none

def extension (path : String) : Option String := (fileName path).bind nameExtension

def join (base name : String) : String :=
  if base = "" ∨ base.toList.getLast? = some '/' then base ++ name else base ++ "/" ++ name

def below (base : String) (names : List String) : String := names.foldl join base

end PageCheck.Path

import PageCheck.Files.Path
import PageCheck.Proofs.TextSearch

/-!
Paths as lists of components. They are ordered component by component, so what stands below a
directory is ordered by the names that lead to it, whatever characters these hold. The extension of
a name is what follows its last dot.
-/
namespace PageCheck.Path

inductive Component where
  | root | current | parent
  | name (text : String)
  deriving DecidableEq, Repr

namespace Component

def rank : Component → Nat
  | root => 0
  | current => 1
  | parent => 2
  | name _ => 3

def lt : Component → Component → Prop
  | name first, name second => first < second
  | first, second => first.rank < second.rank

instance : LT Component := ⟨lt⟩

theorem irreflexive (component : Component) : ¬component < component := by
  cases component with
  | name text => exact String.lt_irrefl text
  | root | current | parent => exact Nat.lt_irrefl _

def ofPart (part : String) : Component := if part = Path.parent then parent else name part

end Component

def components (path : String) : List Component :=
  let written := parts path
  let start : List Component :=
    if path.toList.head? = some '/' then [.root]
    else if written.head? = some "." then [.current]
    else []
  start ++ (written.filter fun part => !stays part).map .ofPart

def Before (path other : String) : Prop := components path < components other

theorem beforeElsewhere {path other : String} (before : Before path other) : path ≠ other := by
  rintro rfl
  have : Std.Irrefl (· < · : Component → Component → Prop) := ⟨Component.irreflexive⟩
  exact List.lt_irrefl _ before

theorem partsWhole {name : String} (whole : '/' ∉ name.toList) : parts name = [name] := by
  simp [parts, Text.splitWhole whole]

theorem partsSlash (front back : String) :
    parts (front ++ "/" ++ back) = parts front ++ parts back := by
  have written : (front ++ "/" ++ back).toList = front.toList ++ '/' :: back.toList := by simp
  simp only [parts, written, Text.splitBetween, List.map_append]

theorem partsTrailing (front : String) : parts (front ++ "/") = parts front ++ [""] := by
  have written := partsSlash front ""
  rwa [String.append_empty] at written

def stem (base : String) : List String :=
  if base = "" ∨ base.toList.getLast? = some '/' then (parts base).dropLast else parts base

theorem endsInSlash {base : String} (slash : base.toList.getLast? = some '/') :
    ∃ front, base = front ++ "/" := by
  obtain ⟨cs, same⟩ := List.getLast?_eq_some_iff.mp slash
  exact ⟨String.ofList cs, String.toList_injective (by simp [same])⟩

theorem partsStem (base : String) : parts base = stem base ∨ parts base = stem base ++ [""] := by
  unfold stem
  split
  · next bare =>
    rcases bare with rfl | slash
    · exact .inr rfl
    · obtain ⟨front, rfl⟩ := endsInSlash slash
      exact .inr (by rw [partsTrailing, List.dropLast_concat])
  · exact .inl rfl

theorem partsJoin (base : String) {name : String} (whole : '/' ∉ name.toList) :
    parts (join base name) = stem base ++ [name] := by
  unfold join stem
  split
  · next bare =>
    rcases bare with rfl | slash
    · exact (congrArg parts String.empty_append).trans (partsWhole whole)
    · obtain ⟨front, rfl⟩ := endsInSlash slash
      rw [partsSlash, partsWhole whole, partsTrailing, List.dropLast_concat]
  · rw [partsSlash, partsWhole whole]

theorem joinStarts (base name : String) : ∃ more, join base name = base ++ more := by
  unfold join
  split
  · exact ⟨name, rfl⟩
  · exact ⟨"/" ++ name, String.append_assoc ..⟩

theorem stemJoin (base : String) {name : String} (named : IsName name) :
    stem (join base name) = stem base ++ [name] := by
  rcases partsStem (join base name) with written | written
  · rw [← written, partsJoin base named.whole]
  · have same := (partsJoin base named.whole).symm.trans written
    have last : name = "" := List.singleton_inj.mp (List.append_inj_right' same rfl)
    exact absurd named.moves (by simp [last, stays])

theorem partsBelow (base : String) {names : List String} (some : names ≠ [])
    (named : ∀ name ∈ names, IsName name) : parts (below base names) = stem base ++ names := by
  induction names generalizing base with
  | nil => exact absurd rfl some
  | cons name rest ih =>
    have own := named name List.mem_cons_self
    show parts (below (join base name) rest) = _
    cases rest with
    | nil => exact partsJoin base own.whole
    | cons next rest =>
      have inRest : ∀ later ∈ next :: rest, IsName later := fun later member =>
        named later (List.mem_cons_of_mem _ member)
      rw [ih _ (List.cons_ne_nil _ _) inRest, stemJoin base own, List.append_assoc]
      rfl

theorem belowStarts (base : String) (names : List String) :
    ∃ more, below base names = base ++ more := by
  induction names generalizing base with
  | nil => exact ⟨"", (String.append_empty).symm⟩
  | cons name rest ih =>
    obtain ⟨next, joined⟩ := joinStarts base name
    obtain ⟨more, starts⟩ := ih (join base name)
    exact ⟨next ++ more, starts.trans (by rw [joined, String.append_assoc])⟩

theorem componentsJoin (base : String) {name : String} (named : IsName name) :
    components (join base name) = components base ++ [.name name] := by
  have dot : name ≠ "." := fun same => absurd named.moves (by simp [same, stays])
  by_cases given : base = ""
  · subst given
    have slash : name.toList.head? ≠ some '/' := fun same => named.whole (List.mem_of_head? same)
    simp [components, join, partsWhole named.whole, slash, dot, named.moves, Component.ofPart,
      named.onward, show parts "" = [""] from rfl, show stays "" = true from rfl]
  · have slash : (join base name).toList.head? = base.toList.head? := by
      obtain ⟨more, starts⟩ := joinStarts base name
      rw [starts, String.toList_append, List.head?_append_of_ne_nil]
      simpa using given
    have last : Component.ofPart name = .name name := if_neg named.onward
    have heads {part : String} (other : part ≠ ".") :
        (stem base ++ [part]).head? = some "." ↔ (stem base).head? = some "." := by
      cases stem base <;> simp [other]
    rcases partsStem base with written | written
    · simp [components, -List.head?_append, slash, partsJoin base named.whole, written, heads dot,
        named.moves, last]
    · simp [components, -List.head?_append, slash, partsJoin base named.whole, written, heads dot,
        heads (show "" ≠ "." by decide), named.moves, last, show stays "" = true from rfl]

theorem componentsBelow (base : String) {names : List String}
    (named : ∀ name ∈ names, IsName name) :
    components (below base names) = components base ++ names.map .name := by
  induction names generalizing base with
  | nil => simp [below]
  | cons name rest ih =>
    have inRest : ∀ later ∈ rest, IsName later := fun later member =>
      named later (List.mem_cons_of_mem _ member)
    show components (below (join base name) rest) = _
    rw [ih _ inRest, componentsJoin base (named name List.mem_cons_self)]
    simp

theorem beforeBelow (base : String) {names others : List String}
    (named : ∀ name ∈ names, IsName name) (named' : ∀ name ∈ others, IsName name)
    (before : names < others) : Before (below base names) (below base others) := by
  unfold Before
  rw [componentsBelow base named, componentsBelow base named']
  exact List.append_left_lt (List.map_lt (fun _ _ => id) before)

theorem insideBeforeSibling (base : String) {above names : List String} {name suffix : String}
    (named : ∀ part ∈ above ++ name :: names, IsName part) (sibling : IsName (name ++ suffix))
    (longer : suffix ≠ "") :
    Before (below base (above ++ name :: names)) (below base (above ++ [name ++ suffix])) := by
  have more : [] < suffix.toList := by
    obtain ⟨c, cs, written⟩ := List.exists_cons_of_ne_nil (mt String.toList_eq_nil_iff.mp longer)
    exact written ▸ List.nil_lt_cons c cs
  have order : name < name ++ suffix := by
    show name.toList < (name ++ suffix).toList
    have shorter : name.toList ++ [] < name.toList ++ suffix.toList := List.append_left_lt more
    simpa using shorter
  have inFront : ∀ part ∈ above, IsName part := fun part member =>
    named part (List.mem_append_left _ member)
  refine beforeBelow base named ?_ ?_
  · simpa [or_imp, forall_and] using ⟨inFront, sibling⟩
  · exact List.append_left_lt (List.cons_lt_cons_iff.mpr (.inl order))

def HasExtension (name extension : String) : Prop :=
  ∃ stem, stem ≠ "" ∧ name = stem ++ "." ++ extension ∧ '.' ∉ extension.toList

theorem nameExtensionDot (front : String) {extension : String} (free : '.' ∉ extension.toList) :
    nameExtension (front ++ "." ++ extension) = if front = "" then none else some extension := by
  have written : (front ++ "." ++ extension).toList = front.toList ++ '.' :: extension.toList := by
    simp
  rw [nameExtension, written, Text.splitBetween, Text.splitWhole free, List.reverse_append]
  cases pieces : (Text.splitAtEach (· = '.') front.toList).reverse with
  | nil => exact absurd (List.reverse_eq_nil_iff.mp pieces) (Text.splitNonempty _ _)
  | cons before more =>
    have alone :=
      calc more = [] ∧ before = []
        _ ↔ before :: more = [[]] := by simp [and_comm]
        _ ↔ Text.splitAtEach (· = '.') front.toList = [[]] := by
          rw [← pieces, List.reverse_eq_iff]
          rfl
        _ ↔ front = "" := Text.splitNothing.trans String.toList_eq_nil_iff
    simp [alone]

theorem nameExtensionIff {name extension : String} :
    nameExtension name = some extension ↔ HasExtension name extension := by
  constructor
  · intro found
    by_cases dotted : '.' ∈ name.toList.reverse
    · -- the first dot from the end is the last one
      obtain ⟨back, front, same, free⟩ := List.eq_append_cons_of_mem dotted
      obtain rfl : name = String.ofList front.reverse ++ "." ++ String.ofList back.reverse :=
        String.toList_injective (by simpa using congrArg List.reverse same)
      rw [nameExtensionDot _ (by simpa using free)] at found
      split at found
      · cases found
      · next some =>
        cases found
        exact ⟨_, some, rfl, by simpa using free⟩
    · rw [List.mem_reverse] at dotted
      simp [nameExtension, Text.splitWhole dotted] at found
  · rintro ⟨front, some, rfl, free⟩
    rw [nameExtensionDot front free, if_neg some]

theorem extensionBelow (base : String) (names : List String) {name : String}
    (named : IsName name) : extension (below base (names ++ [name])) = nameExtension name := by
  rw [below, List.foldl_append]
  simp [extension, fileName, partsJoin _ named.whole, named.moves, named.onward]

end PageCheck.Path

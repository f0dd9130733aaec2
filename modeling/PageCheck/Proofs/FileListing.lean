import PageCheck.Proofs.PathNames
import PageCheck.Proofs.SortedFields
import PageCheck.Proofs.Resolution
import PageCheck.Scenario.File

/-!
The scenario files of a directory. The walk through a directory meets every file at the end of its
names, in order of names, so in the order of paths. Scenarios are read in that order, all of them or
none.
-/
namespace PageCheck

namespace FileNode

inductive Leads : FileNode → List String → Content → Prop where
  | here {content} : Leads (file content) [] content
  | into {entries name node names content} (entry : (name, node) ∈ entries)
      (onward : Leads node names content) : Leads (directory entries) (name :: names) content

theorem filesOfEach (entries : Keyed FileNode) :
    filesOf entries = entries.flatMap fun entry =>
      entry.2.files.map fun (names, content) => (entry.1 :: names, content) := by
  induction entries with
  | nil => rfl
  | cons entry rest ih =>
    rw [filesOf, ih]
    rfl

theorem filesIff {node : FileNode} {names : List String} {content : Content} :
    (names, content) ∈ node.files ↔ Leads node names content := by
  induction names generalizing node with
  | nil =>
    cases node with
    | file held =>
      simp only [files, List.mem_singleton, Prod.mk.injEq, true_and]
      exact ⟨fun same => same ▸ .here, fun | .here => rfl⟩
    | directory entries =>
      simp only [files, filesOfEach, List.mem_flatMap, List.mem_map]
      exact ⟨fun ⟨_, _, _, _, same⟩ => by simp at same, nofun⟩
  | cons name rest ih =>
    cases node with
    | file held => exact ⟨fun member => by simp [files] at member, nofun⟩
    | directory entries =>
      simp only [files, filesOfEach, List.mem_flatMap, List.mem_map]
      constructor
      · rintro ⟨⟨other, node⟩, entry, ⟨names, held⟩, member, same⟩
        cases same
        exact .into entry (ih.mp member)
      · intro leads
        cases leads with
        | into entry onward => exact ⟨_, entry, _, ih.mpr onward, rfl⟩

theorem Leads.named {node : FileNode} {names : List String} {content : Content}
    (leads : Leads node names content) (proper : node.Proper) :
    ∀ name ∈ names, Path.IsName name := by
  induction leads with
  | here => simp
  | into entry _ ih =>
    cases proper with
    | directory _ named inside =>
      exact List.forall_mem_cons.mpr ⟨named _ entry, ih (inside _ entry)⟩

theorem filesIncreasing {node : FileNode} (proper : node.Proper) :
    node.files.Pairwise fun first later => first.1 < later.1 := by
  induction proper with
  | file content => simp [files]
  | @directory entries ordered named inside ih =>
    rw [files, filesOfEach, List.pairwise_flatMap]
    constructor
    · intro entry member
      rw [List.pairwise_map]
      exact (ih entry member).imp fun before => List.cons_lt_cons_iff.mpr (.inr ⟨rfl, before⟩)
    · refine ordered.imp fun before first inFirst later inLater => ?_
      obtain ⟨_, _, rfl⟩ := List.mem_map.mp inFirst
      obtain ⟨_, _, rfl⟩ := List.mem_map.mp inLater
      exact List.cons_lt_cons_iff.mpr (.inl before)

end FileNode

namespace FileTree

theorem enterEntry {tree : FileTree} {entries : Keyed FileNode} {name : String} {node : FileNode}
    (here : tree.node = .directory entries) (entry : (name, node) ∈ entries) :
    ∃ place, tree.enter name = .ok place ∧ place.node = node := by
  have proper := tree.nodeProper
  rw [here] at proper
  cases proper with
  | directory ordered named inside =>
    have own := named _ entry
    have found : Keyed.get? entries name = some node :=
      (Keyed.foundIff ordered.distinct).mpr entry
    have stands : tree.top.find (tree.names ++ [name]) = some node := by
      simp [FileNode.findAppend, tree.stands, here, FileNode.find, found]
    refine ⟨{ tree with names := tree.names ++ [name], node, stands }, ?_, rfl⟩
    unfold enter
    rw [here]
    simp only [own.moves, Bool.false_eq_true, if_false, if_neg own.onward, moveFinds stands]

theorem enterLeads {tree : FileTree} {names : List String} {content : Content}
    (leads : tree.node.Leads names content) :
    ∃ place, names.foldlM enter tree = .ok place ∧ place.node = .file content := by
  generalize here : tree.node = node at leads
  induction leads generalizing tree with
  | here => exact ⟨tree, rfl, here⟩
  | @into entries name node names content entry _ ih =>
    obtain ⟨middle, entered, there⟩ := enterEntry here entry
    obtain ⟨place, led, atFile⟩ := ih there
    refine ⟨place, ?_, atFile⟩
    rw [List.foldlM_cons, entered]
    exact led

theorem stemLeads {start tree : FileTree} {root : String}
    (led : (Path.parts root).foldlM enter start = .ok tree) :
    (Path.stem root).foldlM enter start = .ok tree := by
  rcases Path.partsStem root with written | written
  · rwa [written] at led
  · rw [written, List.foldlM_append] at led
    obtain ⟨middle, before, last⟩ := bindOk.mp led
    -- the empty part at the end stays where it is
    have same : middle = tree := by
      rw [List.foldlM_cons] at last
      obtain ⟨_, stayed, ⟨⟩⟩ := bindOk.mp last
      unfold enter at stayed
      split at stayed
      · cases stayed
      · cases stayed
        rfl
    rwa [same] at before

theorem locateBelow {world tree : FileTree} {root : String} {names : List String}
    {content : Content} (located : world.locate root = .ok tree) (some : names ≠ [])
    (leads : tree.node.Leads names content) :
    ∃ place, world.locate (Path.below root names) = .ok place ∧ place.node = .file content := by
  obtain ⟨more, starts⟩ := Path.belowStarts root names
  unfold locate at located ⊢
  split at located
  · cases located
  · next given =>
    have start : (Path.below root names).toList.head? = root.toList.head? := by
      rw [starts, String.toList_append, List.head?_append_of_ne_nil _ (by simpa using given)]
    rw [if_neg (by simp [starts, given]), start,
      Path.partsBelow root some (leads.named tree.nodeProper), List.foldlM_append]
    simp only [stemLeads located]
    exact enterLeads leads

end FileTree

theorem Path.isScenarioIff {path : String} :
    isScenario path = true ↔ ∃ told ∈ scenarioExtensions, extension path = some told := by
  simp [isScenario, Option.any_eq_true_iff_get, Option.eq_some_iff_get_eq]

inductive Stands (root : String) (node : FileNode) (extension : String) : NamedFile → Prop where
  | below {names name content} (leads : node.Leads (names ++ [name]) content)
      (told : Path.HasExtension name extension) :
      Stands root node extension { path := Path.below root (names ++ [name]), content }

section Listing

variable {root extension : String} {tree : FileTree} {file : NamedFile}

theorem Stands.extended (stands : Stands root tree.node extension file) :
    Path.extension file.path = some extension := by
  cases stands with
  | @below names name content leads told =>
    have named := leads.named tree.nodeProper name (by simp)
    exact (Path.extensionBelow root names named).trans (Path.nameExtensionIff.mpr told)

theorem scenarioFilesIff {entries : Keyed FileNode} (directory : tree.node = .directory entries) :
    file ∈ tree.scenarioFiles root ↔
      ∃ extension ∈ scenarioExtensions, Stands root tree.node extension file := by
  simp only [FileTree.scenarioFiles, FileTree.namedFiles, List.mem_filter, List.mem_map,
    Path.isScenarioIff]
  constructor
  · rintro ⟨⟨⟨names, content⟩, member, rfl⟩, told, scenario, found⟩
    have leads := FileNode.filesIff.mp member
    rcases List.eq_nil_or_concat' names with rfl | ⟨front, name, rfl⟩
    · rw [directory] at leads
      cases leads
    · have named := leads.named tree.nodeProper name (by simp)
      rw [Path.extensionBelow root front named, Path.nameExtensionIff] at found
      exact ⟨told, scenario, .below leads found⟩
  · rintro ⟨told, scenario, stands⟩
    refine ⟨?_, told, scenario, stands.extended⟩
    cases stands with
    | below leads _ => exact ⟨_, FileNode.filesIff.mpr leads, rfl⟩

theorem scenarioFilesOrdered (root : String) (tree : FileTree) :
    (tree.scenarioFiles root).Pairwise fun file later => Path.Before file.path later.path := by
  refine .filter _ (List.pairwise_map.mpr ?_)
  refine (FileNode.filesIncreasing tree.nodeProper).imp_of_mem fun inFirst inLater before => ?_
  exact Path.beforeBelow root ((FileNode.filesIff.mp inFirst).named tree.nodeProper)
    ((FileNode.filesIff.mp inLater).named tree.nodeProper) before

section Reading

variable [Readers]

theorem FileTree.scenarioThere {world place : FileTree} {path : String} {content : Content}
    (found : world.locate path = .ok place) (atFile : place.node = .file content) :
    world.scenarioAt path = Scenario.ofFile { path, content } := by
  simp only [scenarioAt, named, found, bind, Except.bind, atFile]
  rfl

theorem Stands.found {world : FileTree} (stands : Stands root tree.node extension file)
    (located : world.locate root = .ok tree) :
    world.scenarioAt file.path = Scenario.ofFile file := by
  cases stands with
  | @below names name content leads told =>
    obtain ⟨place, found, atFile⟩ := FileTree.locateBelow located (by simp) leads
    exact FileTree.scenarioThere found atFile

theorem Stands.format (stands : Stands root tree.node extension file) :
    Scenario.ofFile file = file.text >>= fun text =>
      if extension = "json" then Scenario.ofText text else Scenario.ofYaml text := by
  simp [Scenario.ofFile, Path.isJson, stands.extended]

end Reading

end Listing

section Loading

variable [Readers]

theorem Scenario.ofFilesOk {files : List NamedFile} {loaded : List (String × Scenario)} :
    ofFiles files = .ok loaded ↔
      List.Forall₂ (fun file pair => pair.1 = file.path ∧ ofFile file = .ok pair.2)
        files loaded := by
  induction files generalizing loaded with
  | nil => rw [List.forall₂_nil_left_iff, ofFiles, Except.ok.injEq, eq_comm]
  | cons file rest ih =>
    simp only [ofFiles, bindOk, List.forall₂_cons_left_iff, ← ih, Except.ok.injEq, pure,
      Except.pure]
    constructor
    · rintro ⟨first, read, others, readOthers, rfl⟩
      exact ⟨_, others, ⟨rfl, read⟩, readOthers, rfl⟩
    · rintro ⟨⟨_, first⟩, others, ⟨rfl, read⟩, readOthers, rfl⟩
      exact ⟨first, read, others, readOthers, rfl⟩

theorem Scenario.ofFilesError {files : List NamedFile} {failure : Failure} :
    ofFiles files = .error failure ↔
      ∃ before file after, files = before ++ file :: after ∧
        (∀ earlier ∈ before, ∃ s, ofFile earlier = .ok s) ∧ ofFile file = .error failure := by
  induction files with
  | nil => simp [ofFiles]
  | cons first rest ih =>
    cases read : ofFile first with
    | error e =>
      have stops : ofFiles (first :: rest) = .error e := by rw [ofFiles, read]; rfl
      rw [stops, Except.error.injEq]
      constructor
      · rintro rfl
        exact ⟨[], first, rest, rfl, fun _ => nofun, read⟩
      · rintro ⟨before, file, after, same, earlier, failed⟩
        cases before with
        | nil => cases same; exact Except.error.inj (read.symm.trans failed)
        | cons _ before =>
          cases same
          obtain ⟨s, ran⟩ := earlier first List.mem_cons_self
          cases read.symm.trans ran
    | ok s =>
      have onward : ofFiles (first :: rest) = .error failure ↔ ofFiles rest = .error failure := by
        rw [ofFiles, read]
        cases ofFiles rest with
        | ok others => exact ⟨nofun, nofun⟩
        | error e => exact .rfl
      rw [onward, ih]
      constructor
      · rintro ⟨before, file, after, rfl, earlier, failed⟩
        exact ⟨first :: before, file, after, rfl, List.forall_mem_cons.mpr ⟨⟨s, read⟩, earlier⟩,
          failed⟩
      · rintro ⟨before, file, after, same, earlier, failed⟩
        cases before with
        | nil => cases same; cases read.symm.trans failed
        | cons head before =>
          cases same
          exact ⟨before, file, after, rfl, fun file member => earlier file (.tail _ member), failed⟩

theorem Scenario.ofFilesReads {files : List NamedFile} :
    (∃ loaded, ofFiles files = .ok loaded) ↔ ∀ file ∈ files, ∃ s, ofFile file = .ok s := by
  induction files with
  | nil => exact ⟨fun _ _ => nofun, fun _ => ⟨[], rfl⟩⟩
  | cons file rest ih =>
    simp only [List.forall_mem_cons, ← ih, ofFiles, bindOk]
    constructor
    · rintro ⟨_, first, read, others, readOthers, _⟩
      exact ⟨⟨first, read⟩, others, readOthers⟩
    · rintro ⟨⟨first, read⟩, others, readOthers⟩
      exact ⟨_, first, read, others, readOthers, rfl⟩

/-- The files below a directory are listed once each and in order, and read all or none. -/
theorem everyScenarioOnce (root : String) {tree : FileTree} {entries : Keyed FileNode}
    (directory : tree.node = .directory entries) :
    let listed := tree.scenarioFiles root
    (∀ file, file ∈ listed ↔
      ∃ extension ∈ ["yaml", "yml", "json"], Stands root tree.node extension file) ∧
    listed.Pairwise (fun file later => Path.Before file.path later.path) ∧
    (∀ above names name suffix, (∀ part ∈ above ++ name :: names, Path.IsName part) →
      Path.IsName (name ++ suffix) → suffix ≠ "" →
      Path.Before (Path.below root (above ++ name :: names))
        (Path.below root (above ++ [name ++ suffix]))) ∧
    (listed.map NamedFile.path).Nodup ∧
    (∀ extension file, Stands root tree.node extension file →
      Scenario.ofFile file = file.text >>= fun text =>
        if extension = "json" then Scenario.ofText text else Scenario.ofYaml text) ∧
    ((∃ loaded, tree.loadScenarios root = .ok loaded) ↔
      ∀ file ∈ listed, ∃ s, Scenario.ofFile file = .ok s) ∧
    (∀ loaded, tree.loadScenarios root = .ok loaded ↔
      List.Forall₂ (fun file pair => pair.1 = file.path ∧ Scenario.ofFile file = .ok pair.2)
        listed loaded) ∧
    (∀ failure, tree.loadScenarios root = .error failure ↔
      ∃ before file after, listed = before ++ file :: after ∧
        (∀ earlier ∈ before, ∃ s, Scenario.ofFile earlier = .ok s) ∧
        Scenario.ofFile file = .error failure) ∧
    (∀ world : FileTree, world.locate root = .ok tree →
      ∀ file ∈ listed, world.scenarioAt file.path = Scenario.ofFile file) := by
  intro listed
  have ordered := scenarioFilesOrdered root tree
  refine ⟨fun file => scenarioFilesIff directory, ordered,
    fun above names name suffix => Path.insideBeforeSibling root, ?_,
    fun extension file stands => stands.format, Scenario.ofFilesReads,
    fun loaded => Scenario.ofFilesOk, fun failure => Scenario.ofFilesError, ?_⟩
  · exact List.pairwise_map.mpr (ordered.imp Path.beforeElsewhere)
  · intro world located file member
    obtain ⟨extension, -, stands⟩ := (scenarioFilesIff directory).mp member
    exact stands.found located

end Loading

def shop : FileTree :=
  ((FileTree.empty.addFile ["a", "z.json"] "[]").addFile ["a.yaml"] "- url: http://b/").addFile
    ["notes.txt"] ""

theorem insideDirectoryFirst :
    shop.node = .directory
      [("a", .directory [("z.json", .file (.text "[]"))]),
        ("a.yaml", .file (.text "- url: http://b/")), ("notes.txt", .file (.text ""))] ∧
    ∃ loaded, @FileTree.loadScenarios .mute "shop" shop = .ok loaded ∧
      loaded.map (·.1) = ["shop/a/z.json", "shop/a.yaml"] := by
  have directory : shop.node = .directory _ := rfl
  refine ⟨directory, ?_⟩
  obtain ⟨-, -, -, -, -, loads, pairs, -, -⟩ := @everyScenarioOnce .mute "shop" _ _ directory
  have listed : shop.scenarioFiles "shop" =
      [⟨"shop/a/z.json", .text "[]"⟩, ⟨"shop/a.yaml", .text "- url: http://b/"⟩] := rfl
  rw [listed] at loads pairs
  have readable {file : NamedFile} (ok : (@Scenario.ofFile .mute file).isOk = true) :
      ∃ s, @Scenario.ofFile .mute file = .ok s := by
    cases read : @Scenario.ofFile .mute file with
    | ok s => exact ⟨s, rfl⟩
    | error e => rw [read] at ok; cases ok
  obtain ⟨loaded, read⟩ := loads.mpr (by
    simp only [List.forall_mem_cons]
    exact ⟨readable (by decide +kernel), readable (by decide +kernel), fun _ => nofun⟩)
  refine ⟨loaded, read, ?_⟩
  cases (pairs loaded).mp read with
  | cons first others =>
    cases others with
    | cons second none => cases none; simp [first.1, second.1]

end PageCheck

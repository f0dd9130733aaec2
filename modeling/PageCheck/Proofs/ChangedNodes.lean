import PageCheck.Proofs.FirstShown

/-!
Pages on which nodes have been changed, though not in when they are there. Looking for what was not
changed finds the same handles, and these stand for the changed nodes.
-/
namespace PageCheck.Browser.World

variable {w : World} {h : Handle} {n : Node} {change : Nat → Node → Node} {p : Node → Bool}

def changed (w : World) (change : Nat → Node → Node) : World :=
  { w with session := { w.session with nodes := w.session.nodes.mapIdx change } }

def Stays (change : Nat → Node → Node) : Prop :=
  ∀ index n elapsed, (change index n).isPresent elapsed = n.isPresent elapsed

theorem handlesChanged (stays : Stays change) (blind : ∀ index n, p (change index n) = p n) :
    (w.changed change).session.handles w.now p = w.session.handles w.now p := by
  have nodes : (w.changed change).session.nodes.zipIdx =
      w.session.nodes.zipIdx.map fun found => (change found.2 found.1, found.2) := by
    refine List.ext_getElem? fun index => ?_
    simp only [changed, List.getElem?_zipIdx, List.getElem?_mapIdx, List.getElem?_map, Nat.zero_add]
    cases w.session.nodes[index]? <;> rfl
  rw [Session.handles, nodes, List.filter_map, List.map_map, Session.handles]
  refine congrArg (List.map _) (List.filter_congr fun found _ => ?_)
  exact congrArg₂ (· && ·) (stays found.2 found.1 _) (blind found.2 found.1)

theorem namesChanged (stays : Stays change) (named : w.Names h n) :
    (w.changed change).Names h (change h.index n) := by
  obtain ⟨stored, here⟩ := namesStored named
  have found : (if h.generation = (w.changed change).session.generation then
      (w.changed change).session.nodes[h.index]? else none) = some (change h.index n) := by
    split at stored
    · next current =>
      refine (if_pos current).trans ?_
      rw [changed, List.getElem?_mapIdx, stored]
      rfl
    · cases stored
  rw [Names, Session.node, found]
  exact if_pos ((stays h.index n _).trans here)

theorem ShownFirst.changed {l : Locator} (first : w.ShownFirst l h n) (stays : Stays change)
    (blind : ∀ index n, ((change index n).isMatch l && (change index n).frame = w.session.frame) =
      (n.isMatch l && n.frame = w.session.frame))
    (shown : (change h.index n).hidden = false) :
    (w.changed change).ShownFirst l h (change h.index n) where
  located := by
    obtain ⟨others, found⟩ := first.located
    exact ⟨others, (handlesChanged stays blind).trans found⟩
  named := namesChanged stays first.named
  shown := shown

theorem changeAtChanged (w : World) (index : Nat) (f : Node → Node) :
    { w with session := w.session.changeAt index f } =
      w.changed fun at_ n => if index = at_ then f n else n := by
  have nodes : w.session.nodes.modify index f =
      w.session.nodes.mapIdx fun at_ n => if index = at_ then f n else n := by
    refine List.ext_getElem? fun at_ => ?_
    rw [List.getElem?_modify, List.getElem?_mapIdx]
    rfl
  rw [Session.changeAt, nodes]
  rfl

theorem ShownFirst.changedAt {l : Locator} {f : Node → Node} (first : w.ShownFirst l h n)
    (stays : ∀ m elapsed, (f m).isPresent elapsed = m.isPresent elapsed)
    (blind : ∀ m, ((f m).isMatch l && (f m).frame = w.session.frame) =
      (m.isMatch l && m.frame = w.session.frame))
    (shown : (f n).hidden = false) :
    { w with session := w.session.changeAt h.index f }.ShownFirst l h (f n) := by
  have own : (if h.index = h.index then f n else n) = f n := if_pos rfl
  rw [changeAtChanged, ← own]
  refine first.changed (fun at_ m elapsed => ?_) (fun at_ m => ?_) ?_
  · split
    · exact stays m elapsed
    · rfl
  · split
    · exact blind m
    · rfl
  · exact (congrArg Node.hidden own).trans shown

theorem handlesFirst {others : List Handle}
    (found : w.session.handles w.now p = h :: others) :
    ∃ before n later, w.session.nodes = before ++ n :: later ∧ before.length = h.index ∧
      w.Names h n ∧ (w.session.isPresent w.now n && p n) = true ∧
      ∀ m ∈ before, (w.session.isPresent w.now m && p m) = false := by
  obtain ⟨⟨n, index⟩, rest, filtered, rfl, -⟩ := List.map_eq_cons_iff.mp found
  obtain ⟨before, later, split, none, chosen, -⟩ := List.filter_eq_cons_iff.mp filtered
  have nodes : w.session.nodes = before.map Prod.fst ++ n :: later.map Prod.fst := by
    rw [← List.zipIdx_map_fst 0 w.session.nodes, split]
    simp
  have stored : (w.session.nodes.zipIdx)[before.length]? = some (n, index) := by
    rw [split]
    simp
  have here : w.session.isPresent w.now n = true := (Bool.and_eq_true_iff.mp chosen).1
  have position : before.length = index := by
    obtain ⟨_, -, same⟩ := Option.map_eq_some_iff.mp (List.getElem?_zipIdx ▸ stored)
    exact (Nat.zero_add _).symm.trans (congrArg Prod.snd same)
  refine ⟨before.map Prod.fst, n, later.map Prod.fst, nodes, ?_, ?_, chosen, ?_⟩
  · rw [List.length_map, position]
  · refine presentNames ?_ here
    rw [← position, nodes]
    simp
  · rintro _ member
    obtain ⟨found, listed, rfl⟩ := List.mem_map.mp member
    exact Bool.eq_false_iff.mpr (none found listed)

end PageCheck.Browser.World

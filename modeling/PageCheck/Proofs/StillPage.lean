import PageCheck.Proofs.Attempts

/-!
Pages that stand still: no node of theirs has a time of appearance or removal that is still to
come. While one waits on such a page nothing is seen that could not be seen at once.
-/
namespace PageCheck.Browser

def Node.isSettled (n : Node) (elapsed : Nat) : Bool :=
  n.appearAfter.all (fun time => time ≤ elapsed) && n.removeAfter.all fun time => time ≤ elapsed

theorem Node.isPresentLater {n : Node} {elapsed later : Nat} (settled : n.isSettled elapsed = true)
    (after : elapsed ≤ later) : n.isPresent later = n.isPresent elapsed := by
  obtain ⟨appeared, removed⟩ := Bool.and_eq_true_iff.mp settled
  have here : n.appearAfter.all (fun time => time ≤ later) =
      n.appearAfter.all fun time => time ≤ elapsed := by
    cases appears : n.appearAfter with
    | none => rfl
    | some time =>
      have early : time ≤ elapsed := by simpa [appears] using appeared
      simp [early, Nat.le_trans early after]
  have gone : n.removeAfter.all (fun time => later < time) =
      n.removeAfter.all fun time => elapsed < time := by
    cases leaves : n.removeAfter with
    | none => rfl
    | some time =>
      have early : time ≤ elapsed := by simpa [leaves] using removed
      simp [Nat.not_lt.mpr early, Nat.not_lt.mpr (Nat.le_trans early after)]
  rw [isPresent, isPresent, here, gone]

namespace World

def Still (w : World) : Prop :=
  ∀ n ∈ w.session.nodes, n.isSettled (w.now - w.session.loadedAt) = true

instance (w : World) : Decidable w.Still := inferInstanceAs (Decidable (∀ n ∈ _, _))

namespace Still

variable {w : World}

theorem isPresent (still : w.Still) (time : Nat) {n : Node} (member : n ∈ w.session.nodes) :
    w.session.isPresent (w.now + time) n = w.session.isPresent w.now n :=
  Node.isPresentLater (still n member) (Nat.sub_le_sub_right (Nat.le_add_right _ _) _)

theorem present (still : w.Still) (time : Nat) (p : Node → Bool) :
    (w.pass time).present p = w.present p := by
  refine List.filter_congr fun n member => ?_
  show (w.session.isPresent (w.now + time) n && p n) = _
  rw [still.isPresent time member]

theorem matching (still : w.Still) (time : Nat) (l : Locator) :
    (w.pass time).matching l = w.matching l :=
  still.present time _

theorem handles (still : w.Still) (time : Nat) (p : Node → Bool) :
    w.session.handles (w.now + time) p = w.session.handles w.now p := by
  refine congrArg (List.map _) (List.filter_congr fun found member => ?_)
  rw [still.isPresent time (List.fst_mem_of_mem_zipIdx member)]

theorem valuesOf (still : w.Still) (time : Nat) (reading : Reading) (nodes : List Node) :
    (w.pass time).valuesOf reading nodes = w.valuesOf reading nodes := by
  cases reading with
  | select =>
    have options (select : Node) : (w.pass time).optionsOf select = w.optionsOf select :=
      still.present time _
    simp only [World.valuesOf, options]
  | _ => rfl

theorem extracted (still : w.Still) (time : Nat) (kind : Option ValueKind) (nodes : List Node) :
    (w.pass time).extracted kind nodes = w.extracted kind nodes := by
  cases nodes with
  | nil => rfl
  | cons first rest => simp only [World.extracted, still.valuesOf time]

theorem extraction (still : w.Still) (time : Nat) (kind : Option ValueKind) (target : Target) :
    (w.pass time).extraction kind target = w.extraction kind target := by
  match target with
  | .html => rfl
  | .url => rfl
  | .element (.reference _) => rfl
  | .element (.value l) =>
    show (w.pass time).extracted kind ((w.pass time).matching l) = w.extracted kind (w.matching l)
    rw [still.matching, still.extracted]

theorem presenceSeen (still : w.Still) (time : Nat) (l : Locator) (count : Option UInt64) :
    (w.pass time).presenceSeen l count = w.presenceSeen l count := by
  have found : (w.pass time).session.find (w.pass time).now l = w.session.find w.now l :=
    still.handles time _
  simp only [World.presenceSeen, still.matching, found]

theorem displayed (still : w.Still) (time : Nat) (l : Locator) :
    (w.pass time).displayed l = w.displayed l :=
  congrArg (List.filter _) (still.matching time l)

theorem absenceSeen (still : w.Still) (time : Nat) (l : Locator) :
    (w.pass time).absenceSeen l = w.absenceSeen l := by
  rw [World.absenceSeen, World.absenceSeen, still.displayed]

theorem valuesSeen (still : w.Still) (time : Nat) (check : ValueCheck) :
    (w.pass time).valuesSeen check = w.valuesSeen check := by
  simp only [World.valuesSeen, still.extraction]

end Still

end World

end PageCheck.Browser

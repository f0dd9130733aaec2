import Mathlib.Data.List.Infix
import PageCheck.Text.Blank
import PageCheck.Text.Find

/-!
Searching a text, told without the search: what `after?` finds is a prefix, what occurs in a text is
a contiguous part of it, and texts are split as lists are.
-/
namespace PageCheck.Text

theorem afterIffPrefix {front cs : List Char} : (after? front cs).isSome = true ↔ front <+: cs := by
  constructor
  · intro found
    obtain ⟨rest, atRest⟩ := Option.isSome_iff_exists.mp found
    exact ⟨rest, (appendOfAfter atRest).symm⟩
  · rintro ⟨rest, rfl⟩
    rw [afterAppend]
    rfl

theorem occursIffInfix {part cs : List Char} : occurs part cs = true ↔ part <:+: cs := by
  induction cs with
  | nil => simp [occurs]
  | cons c cs ih =>
    rw [occurs, Bool.or_eq_true, afterIffPrefix, ih, List.infix_cons_iff]

theorem splitAtEachSplits (p : Char → Bool) (cs : List Char) :
    splitAtEach p cs = cs.splitOnP p := by
  induction cs with
  | nil => simp [splitAtEach]
  | cons c rest ih =>
    rw [List.splitOnP_cons_eq_if_modifyHead, splitAtEach, ih]
    cases pieces : rest.splitOnP p with
    | nil => exact absurd pieces (List.splitOnP_ne_nil p rest)
    | cons piece pieces => rfl

theorem splitWhole {separator : Char} {cs : List Char} (whole : separator ∉ cs) :
    splitAtEach (· = separator) cs = [cs] := by
  rw [splitAtEachSplits]
  exact List.splitOnP_eq_singleton fun c member =>
    decide_eq_false fun same => whole (same ▸ member)

theorem splitBetween (separator : Char) (front back : List Char) :
    splitAtEach (· = separator) (front ++ separator :: back) =
      splitAtEach (· = separator) front ++ splitAtEach (· = separator) back := by
  simp only [splitAtEachSplits]
  exact List.splitOnP_append_cons front back (decide_eq_true rfl)

theorem splitNothing {p : Char → Bool} {cs : List Char} : splitAtEach p cs = [[]] ↔ cs = [] := by
  cases cs with
  | nil => simp [splitAtEach]
  | cons c rest =>
    obtain ⟨piece, pieces, split⟩ := List.exists_cons_of_ne_nil (splitNonempty p rest)
    rw [splitAtEach, split]
    split <;> simp

end PageCheck.Text

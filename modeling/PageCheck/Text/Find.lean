/-!
Searching inside a text: what follows a given beginning, whether a text occurs in another, and
the cut at the first occurrence.
-/
namespace PageCheck.Text

def after? : (front cs : List Char) → Option (List Char)
  | [], cs => some cs
  | _ :: _, [] => none
  | f :: front, c :: cs => if f = c then after? front cs else none

def occurs (part : List Char) : List Char → Bool
  | [] => part.isEmpty
  | c :: cs => (after? part (c :: cs)).isSome || occurs part cs

def cut (p : Char → Bool) (cs : List Char) : List Char × List Char :=
  (cs.takeWhile (fun c => !p c), cs.dropWhile (fun c => !p c))

theorem afterAppend (front rest : List Char) : after? front (front ++ rest) = some rest := by
  induction front with
  | nil => rfl
  | cons f front ih => simpa [after?] using ih

theorem appendOfAfter {front cs rest : List Char} (h : after? front cs = some rest) :
    cs = front ++ rest := by
  induction front generalizing cs with
  | nil => simpa [after?] using h
  | cons f front ih =>
    cases cs with
    | nil => simp [after?] at h
    | cons c cs =>
      simp only [after?] at h
      split at h
      · next same => simp [same, ih h]
      · simp at h

theorem cutJoined (p : Char → Bool) (cs : List Char) : (cut p cs).1 ++ (cut p cs).2 = cs :=
  List.takeWhile_append_dropWhile

end PageCheck.Text

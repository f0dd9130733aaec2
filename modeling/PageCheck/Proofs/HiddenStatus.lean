import PageCheck.Proofs.FailingEntries

/-!
What stands in front of a status. Marks are searched piece by piece between white space, but the
piece right behind a mark is passed over, since the mark has taken the white space between them. So
a text in front hides a status only when it ends in a mark that tells no status, one with digits of
another script (`shownUnlessTaken`).
-/
namespace PageCheck

namespace Text

abbrev pieces (cs : List Char) : List (List Char) := cs.splitOnP isBlank

inductive Pieces : List Char → List (List Char) → Prop where
  | last {word : List Char} (whole : ∀ c ∈ word, isBlank c = false) : Pieces word [word]
  | cut {word back : List Char} {c : Char} {pieces : List (List Char)}
      (whole : ∀ c ∈ word, isBlank c = false) (blank : isBlank c = true)
      (rest : Pieces back pieces) : Pieces (word ++ c :: back) (word :: pieces)

theorem Pieces.grow {c : Char} {cs : List Char} {pieces : List (List Char)}
    (other : isBlank c = false) (split : Pieces cs pieces) :
    Pieces (c :: cs) (pieces.modifyHead (c :: ·)) := by
  cases split with
  | last whole => exact .last (List.forall_mem_cons.mpr ⟨other, whole⟩)
  | cut whole blank rest => exact .cut (List.forall_mem_cons.mpr ⟨other, whole⟩) blank rest

theorem splitPieces (cs : List Char) : Pieces cs (pieces cs) := by
  induction cs with
  | nil => exact .last nofun
  | cons c cs ih =>
    rw [pieces, List.splitOnP_cons_eq_if_modifyHead]
    cases blank : isBlank c with
    | true =>
      have nothing : ∀ c ∈ ([] : List Char), isBlank c = false := nofun
      exact .cut nothing blank ih
    | false => exact ih.grow blank

theorem infixCut {part front back : List Char} {c : Char} (without : c ∉ part) :
    part <:+: front ++ c :: back ↔ part <:+: front ∨ part <:+: back := by
  have atCut {part : List Char} (without : c ∉ part) (begins : part <+: c :: back) : part = [] := by
    obtain nothing | ⟨rest, rfl, -⟩ := List.prefix_cons_iff.mp begins
    · exact nothing
    · exact (without List.mem_cons_self).elim
  rw [List.infix_append_iff, List.infix_cons_iff]
  constructor
  · rintro (inside | (begins | inside) | ⟨first, last, rfl, ends, begins⟩)
    · exact .inl inside
    · exact .inl (atCut without begins ▸ List.nil_infix)
    · exact .inr inside
    · have nothing := atCut (fun member => without (List.mem_append_right _ member)) begins
      rw [nothing, List.append_nil]
      exact .inl ends.isInfix
  · rintro (inside | inside)
    · exact .inl inside
    · exact .inr (.inl (.inr inside))

theorem asciiOfDigit {c : Char} {value : Nat} (digit : digitValue? 10 c = some value) :
    isAsciiDigit c = true := by
  by_cases own : '0' ≤ c ∧ c ≤ '9'
  · simpa [isAsciiDigit] using own
  · have large : 10 ≤ (if 'a' ≤ c ∧ c ≤ 'f' then c.toNat - 87
        else if 'A' ≤ c ∧ c ≤ 'F' then c.toNat - 55 else 10) := by
      split
      · next lower =>
        have least : 97 ≤ c.toNat := lower.1
        omega
      · split
        · next upper =>
          have least : 65 ≤ c.toNat := upper.1
          omega
        · exact Nat.le_refl 10
    rw [digitValue?, if_neg own, if_neg (Nat.not_lt.mpr large)] at digit
    cases digit

end Text

namespace Console

open Text

def takes (behind : Bool) (piece : List Char) : Bool := !behind && looksFailing piece

def marksAmong : (behind : Bool) → (pieces : List (List Char)) → List (List Char)
  | _, [] => []
  | behind, piece :: rest =>
    if takes behind piece then piece :: marksAmong true rest else marksAmong false rest

def endsInMark (behind : Bool) (pieces : List (List Char)) : Bool := pieces.foldl takes behind

theorem marksAmongAppend (behind : Bool) (front back : List (List Char)) :
    marksAmong behind (front ++ back) =
      marksAmong behind front ++ marksAmong (endsInMark behind front) back := by
  induction front generalizing behind with
  | nil => rfl
  | cons piece front ih =>
    rw [List.cons_append, marksAmong, marksAmong, endsInMark, List.foldl_cons]
    cases takes behind piece with
    | true => exact congrArg (piece :: ·) (ih true)
    | false => exact ih false

theorem marksAfterWord {word : List Char} (whole : ∀ c ∈ word, isBlank c = false)
    (back : List Char) : marksAfter 0 (word ++ back) = marksAfter 0 back := by
  induction word with
  | nil => rfl
  | cons c word ih =>
    obtain ⟨first, others⟩ := List.forall_mem_cons.mp whole
    rw [List.cons_append, marksAfterStep, first]
    exact ih others

theorem marksOfWord {word : List Char} (whole : ∀ c ∈ word, isBlank c = false)
    {back : List Char} (ends : (cut isBlank back).1 = []) :
    marks (word ++ back) =
      if looksFailing word then word :: marksAfter 1 back else marksAfter 0 back := by
  have first : (cut isBlank (word ++ back)).1 = word := by
    rw [cutWord whole, ends, List.append_nil]
  rw [marks, markIs, first, Option.guard]
  cases looks : looksFailing word with
  | true =>
    obtain ⟨a, b, c, rfl⟩ := looksThree looks
    rfl
  | false => exact marksAfterWord whole back

theorem marksPieces {text : List Char} {pieces : List (List Char)} (split : Pieces text pieces) :
    marks text = marksAmong false pieces ∧ marksAfter 0 text = marksAmong true pieces := by
  induction split with
  | @last word whole =>
    have here := marksOfWord whole (rfl : (Text.cut isBlank []).1 = [])
    have inside := marksAfterWord whole []
    rw [List.append_nil] at here inside
    exact ⟨here, inside⟩
  | @cut word back c pieces whole blank rest ih =>
    have ends : (Text.cut isBlank (c :: back)).1 = [] := by rw [cutBlank blank]
    have behind : marksAfter 1 (c :: back) = marksAfter 0 back := rfl
    rw [marksOfWord whole ends, marksAfterWord whole, marksAfterStep, blank, behind, ih.1, ih.2]
    exact ⟨rfl, rfl⟩

theorem amongLooks {behind : Bool} {pieces : List (List Char)} {mark : List Char}
    (member : mark ∈ marksAmong behind pieces) : looksFailing mark = true := by
  induction pieces generalizing behind with
  | nil => cases member
  | cons piece rest ih =>
    rw [marksAmong] at member
    split at member
    · next taken =>
      obtain rfl | later := List.mem_cons.mp member
      · exact (Bool.and_eq_true_iff.mp taken).2
      · exact ih later
    · exact ih member

theorem endingMark {pieces : List (List Char)} (ends : endsInMark false pieces = true) :
    ∃ front mark, pieces = front ++ [mark] ∧ mark ∈ marksAmong false pieces := by
  obtain rfl | ⟨front, mark, rfl⟩ := List.eq_nil_or_concat' pieces
  · cases ends
  · refine ⟨front, mark, rfl, ?_⟩
    rw [endsInMark, List.foldl_append] at ends
    rw [marksAmongAppend]
    refine List.mem_append_right _ ?_
    rw [marksAmong, show takes (endsInMark false front) mark = true from ends]
    exact List.mem_cons_self

theorem digitsOwn {a b c : Char} {n : Nat} (reads : natural? 10 [a, b, c] = some n) :
    isAsciiDigit b = true ∧ isAsciiDigit c = true := by
  simp only [natural?, List.isEmpty_cons, Bool.false_eq_true, if_false, List.foldlM_cons,
    Option.bind_eq_bind, Option.bind_eq_some_iff, Option.map_eq_some_iff] at reads
  obtain ⟨_, _, _, ⟨_, second, _⟩, _, ⟨_, third, _⟩, _⟩ := reads
  exact ⟨asciiOfDigit second, asciiOfDigit third⟩

theorem untoldIff {mark : List Char} (looks : looksFailing mark = true) :
    status? mark = none ↔ isForeign mark = true := by
  cases foreign : isForeign mark with
  | false =>
    obtain ⟨code, status, -⟩ := statusTold looks foreign
    rw [status]
    exact iff_of_false nofun nofun
  | true =>
    refine iff_of_true (Option.eq_none_iff_forall_ne_some.mpr fun code told => ?_) rfl
    obtain ⟨a, b, c, rfl⟩ := looksThree looks
    obtain ⟨reads, -⟩ := Option.filter_eq_some_iff.mp told
    obtain ⟨second, third⟩ := digitsOwn reads
    rw [isForeign, looks, second, third] at foreign
    cases foreign

def NamesError (cs : List Char) : Prop := ∃ name ∈ scriptErrors, name.toList <:+: cs

theorem namesAtSpace (front back : List Char) :
    NamesError (front ++ ' ' :: back) ↔ NamesError front ∨ NamesError back := by
  have without : ∀ name ∈ scriptErrors, ' ' ∉ name.toList := by decide
  constructor
  · rintro ⟨name, known, inside⟩
    exact ((infixCut (without name known)).mp inside).imp (⟨name, known, ·⟩) (⟨name, known, ·⟩)
  · rintro (⟨name, known, inside⟩ | ⟨name, known, inside⟩)
    · exact ⟨name, known, (infixCut (without name known)).mpr (.inl inside)⟩
    · exact ⟨name, known, (infixCut (without name known)).mpr (.inr inside)⟩

variable {url front text : String}

theorem ownNames : NamesScriptError (url ++ " - " ++ text) ↔
    NamesError (url.toList ++ [' ', '-']) ∨ NamesError text.toList := by
  have split : (url ++ " - " ++ text).toList =
      (url.toList ++ [' ', '-']) ++ ' ' :: text.toList := by
    simp
  show NamesError _ ↔ _
  rw [split, namesAtSpace]

theorem judgedOwn : scan url [url ++ " - " ++ text] =
    if namesScriptError (url ++ " - " ++ text) then some (.script (url ++ " - " ++ text))
    else ((marks text.toList).findSome? status?).map (.status · (url ++ " - " ++ text)) := by
  have own : after? (url.toList ++ separator) (url ++ " - " ++ text).toList = some text.toList :=
    textIff.mpr rfl
  have alone : scan url [url ++ " - " ++ text] = judge url (url ++ " - " ++ text) := by
    rw [scan, List.findSome?_cons]
    cases judge url (url ++ " - " ++ text) <;> rfl
  rw [alone, judge, own, Option.map_eq_bind]
  rfl

theorem passesIff : scan url [url ++ " - " ++ text] = none ↔
    ¬ NamesScriptError (url ++ " - " ++ text) ∧
      ∀ mark ∈ marksAmong false (pieces text.toList), isForeign mark = true := by
  have told : (marks text.toList).findSome? status? = none ↔
      ∀ mark ∈ marksAmong false (pieces text.toList), isForeign mark = true := by
    rw [(marksPieces (splitPieces text.toList)).1, List.findSome?_eq_none_iff]
    exact forall₂_congr fun mark member => untoldIff (amongLooks member)
  rw [judgedOwn, ← told, ← namesIff]
  cases namesScriptError (url ++ " - " ++ text) with
  | true => exact iff_of_false nofun fun passes => passes.1 rfl
  | false => exact Option.map_eq_none_iff.trans (and_iff_right nofun).symm

def endsForeign (front : String) : Bool := (pieces front.toList).getLast?.any isForeign

/-- The text in front tells nothing by itself, but ends in a mark, behind which the first piece of
the other text is passed over; and no piece after that one tells a status. -/
structure Hides (front text : String) : Prop where
  unnamed : ¬ NamesError front.toList
  untold : ∀ mark ∈ marksAmong false (pieces front.toList), isForeign mark = true
  marked : endsInMark false (pieces front.toList) = true
  passed : ∀ mark ∈ marksAmong true (pieces text.toList), isForeign mark = true

theorem Hides.foreign (hides : Hides front text) : endsForeign front = true := by
  obtain ⟨others, mark, split, member⟩ := endingMark hides.marked
  rw [endsForeign, split, List.getLast?_concat]
  exact hides.untold mark member

theorem frontText : (front ++ " " ++ text).toList = front.toList ++ ' ' :: text.toList := by
  simp

theorem passesBehindIff : scan url [url ++ " - " ++ front ++ " " ++ text] = none ↔
    ¬ NamesScriptError (url ++ " - " ++ text) ∧ ¬ NamesError front.toList ∧
      (∀ mark ∈ marksAmong false (pieces front.toList), isForeign mark = true) ∧
      ∀ mark ∈ marksAmong (endsInMark false (pieces front.toList)) (pieces text.toList),
        isForeign mark = true := by
  have whole : url ++ " - " ++ front ++ " " ++ text = url ++ " - " ++ (front ++ " " ++ text) := by
    simp only [String.append_assoc]
  have split : pieces (front ++ " " ++ text).toList =
      pieces front.toList ++ pieces text.toList := by
    rw [frontText]
    exact List.splitOnP_append_cons _ _ rfl
  rw [whole, passesIff, split, marksAmongAppend, List.forall_mem_append, ownNames, ownNames,
    frontText, namesAtSpace front.toList]
  tauto

/-- A text in front of a failing one hides the failure only when it ends in a foreign word, and it
does so just when that word is a mark and covers the only status of the text behind it. -/
theorem shownUnlessTaken {url front text : String}
    (failing : scan url [url ++ " - " ++ text] ≠ none) :
    (endsForeign front = false → scan url [url ++ " - " ++ front ++ " " ++ text] ≠ none) ∧
    (scan url [url ++ " - " ++ front ++ " " ++ text] = none ↔
      ¬ NamesScriptError (url ++ " - " ++ text) ∧ Hides front text) := by
  have hidden : scan url [url ++ " - " ++ front ++ " " ++ text] = none →
      ¬ NamesScriptError (url ++ " - " ++ text) ∧ Hides front text := by
    intro passes
    obtain ⟨unnamed, still, untold, behind⟩ := passesBehindIff.mp passes
    cases marked : endsInMark false (pieces front.toList) with
    | false =>
      rw [marked] at behind
      exact (failing (passesIff.mpr ⟨unnamed, behind⟩)).elim
    | true => exact ⟨unnamed, still, untold, marked, marked ▸ behind⟩
  refine ⟨fun own passes => ?_, hidden, ?_⟩
  · exact nomatch own.symm.trans (hidden passes).2.foreign
  · rintro ⟨unnamed, hides⟩
    refine passesBehindIff.mpr ⟨unnamed, hides.unnamed, hides.untold, ?_⟩
    rw [hides.marked]
    exact hides.passed

theorem shownBehindWord :
    scan "http://a/" ["http://a/" ++ " - " ++ "404"] ≠ none ∧
    endsForeign "4\u0660\u0660 then" = false ∧
    scan "http://a/" ["http://a/" ++ " - " ++ "4\u0660\u0660 then" ++ " " ++ "404"] ≠ none := by
  have failing : scan "http://a/" ["http://a/" ++ " - " ++ "404"] ≠ none := by decide
  have own : endsForeign "4\u0660\u0660 then" = false := by decide
  exact ⟨failing, own, (shownUnlessTaken failing).1 own⟩

theorem hiddenBehindForeign :
    scan "http://a/" ["http://a/" ++ " - " ++ "404"] ≠ none ∧
    scan "http://a/" ["http://a/" ++ " - " ++ "4\u0660\u0660" ++ " " ++ "404"] = none := by
  decide

end Console

end PageCheck

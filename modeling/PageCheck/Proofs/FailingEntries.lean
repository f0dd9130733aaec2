import PageCheck.Console
import PageCheck.Proofs.TextSearch

/-!
Which console entry a scan reports. Marks are searched from one white space to the next, and each
takes the white space after it; but the first mark is the first word that looks like a status, so
scanning finds the first failing entry and its first failing status (`scanFindsFirst`), as long as
no word is a status in the digits of another script.
-/
namespace PageCheck

namespace Text

theorem wordsAppend {c : Char} (blank : isBlank c = true) (front back : List Char) :
    words (front ++ c :: back) = words front ++ words back := by
  simp only [words, splitAtEachSplits, List.splitOnP_append_cons front back blank,
    List.filter_append]

theorem wordsBlank {c : Char} (blank : isBlank c = true) (back : List Char) :
    words (c :: back) = words back :=
  wordsAppend blank [] back

theorem wordsUncut {front : List Char} (whole : ∀ c ∈ front, isBlank c = false) :
    words front = [front].filter (· ≠ []) := by
  rw [words, splitAtEachSplits, List.splitOnP_eq_singleton whole]

theorem cutBlank {c : Char} (blank : isBlank c = true) (cs : List Char) :
    cut isBlank (c :: cs) = ([], c :: cs) := by
  simp [cut, blank]

theorem cutOther {c : Char} (other : isBlank c = false) (cs : List Char) :
    cut isBlank (c :: cs) = (c :: (cut isBlank cs).1, (cut isBlank cs).2) := by
  simp [cut, other]

theorem cutWord {word : List Char} (whole : ∀ c ∈ word, isBlank c = false) (back : List Char) :
    cut isBlank (word ++ back) = (word ++ (cut isBlank back).1, (cut isBlank back).2) := by
  induction word with
  | nil => rfl
  | cons c word ih =>
    obtain ⟨first, others⟩ := List.forall_mem_cons.mp whole
    rw [List.cons_append, cutOther first, ih others, List.cons_append]

theorem wordsCut (cs : List Char) :
    words cs = [(cut isBlank cs).1].filter (· ≠ []) ++ words (cut isBlank cs).2 := by
  have whole : ∀ c ∈ (cut isBlank cs).1, isBlank c = false := fun c member => by
    simpa using List.all_eq_true.mp List.all_takeWhile c member
  conv_lhs => rw [← cutJoined isBlank cs]
  rw [← wordsUncut whole]
  cases back : (cut isBlank cs).2 with
  | nil => simp [words, splitAtEach]
  | cons c rest =>
    have blank : isBlank c = true := by
      have first := List.head?_dropWhile_not (fun c => !isBlank c) cs
      rw [show cs.dropWhile (fun c => !isBlank c) = c :: rest from back] at first
      simpa using first
    rw [wordsAppend blank, wordsBlank blank]

theorem asciiIff {c : Char} : isAsciiDigit c = true ↔ 48 ≤ c.toNat ∧ c.toNat ≤ 57 := by
  simp [isAsciiDigit, Char.le_def, UInt32.le_iff_toNat_le, ← Char.toNat_val]

theorem asciiDecimal {c : Char} (ascii : isAsciiDigit c = true) : isDecimalDigit c = true := by
  have own : (decide (48 ≤ c.toNat) && decide (c.toNat ≤ 57)) = true := by
    simpa using asciiIff.mp ascii
  exact List.any_eq_true.mpr ⟨(48, 57), List.mem_cons_self, own⟩

def blankRanges : List (Nat × Nat) :=
  [(0x09, 0x0d), (0x20, 0x20), (0x85, 0x85), (0xa0, 0xa0), (0x1680, 0x1680), (0x2000, 0x200a),
   (0x2028, 0x2029), (0x202f, 0x202f), (0x205f, 0x205f), (0x3000, 0x3000)]

theorem blankInRange {c : Char} (blank : isBlank c = true) :
    ∃ range ∈ blankRanges, range.1 ≤ c.toNat ∧ c.toNat ≤ range.2 := by
  simp only [isBlank, Bool.or_eq_true, Bool.and_eq_true, decide_eq_true_eq, beq_iff_eq] at blank
  simp only [blankRanges, List.exists_mem_cons_iff, List.not_mem_nil, false_and, exists_false,
    or_false]
  grind

theorem decimalNotBlank {c : Char} (digit : isDecimalDigit c = true) : isBlank c = false := by
  have apart : ∀ range ∈ blankRanges, ∀ start ∈ digitZeros,
      range.2 < start ∨ start + 9 < range.1 := by
    decide
  refine Bool.eq_false_iff.mpr fun blank => ?_
  obtain ⟨range, listed, least, most⟩ := blankInRange blank
  rw [isDecimalDigit, inRanges, List.any_map] at digit
  obtain ⟨start, known, within⟩ := List.any_eq_true.mp digit
  have bounds : start ≤ c.toNat ∧ c.toNat ≤ start + 9 := by simpa using within
  have disjoint := apart range listed start known
  omega

theorem digitOfAscii {c : Char} (ascii : isAsciiDigit c = true) :
    digitValue? 10 c = some (c.toNat - 48) := by
  have bounds := asciiIff.mp ascii
  have within : '0' ≤ c ∧ c ≤ '9' := by simpa [isAsciiDigit] using ascii
  have small : c.toNat - 48 < 10 := by omega
  rw [digitValue?, if_pos within]
  exact if_pos small

end Text

namespace Console

open Text

def number (a b c : Char) : Nat := 100 * (a.toNat - 48) + 10 * (b.toNat - 48) + (c.toNat - 48)

def told? : List Char → Option Nat
  | [a, b, c] =>
    if isAsciiDigit a && isAsciiDigit b && isAsciiDigit c &&
        400 ≤ number a b c && number a b c ≤ 599 then some (number a b c)
    else none
  | _ => none

def looksFailing : List Char → Bool
  | [a, b, c] => (a = '4' || a = '5') && isDecimalDigit b && isDecimalDigit c
  | _ => false

def isForeign : List Char → Bool
  | [a, b, c] => looksFailing [a, b, c] && !(isAsciiDigit b && isAsciiDigit c)
  | _ => false

theorem statusDigits {a b c : Char} (first : isAsciiDigit a = true)
    (second : isAsciiDigit b = true) (third : isAsciiDigit c = true) :
    natural? 10 [a, b, c] = some (number a b c) := by
  simp only [natural?, List.foldlM, digitOfAscii first, digitOfAscii second, digitOfAscii third]
  simp [number]
  omega

theorem toldLooks {word : List Char} {code : Nat} (told : told? word = some code) :
    looksFailing word = true := by
  unfold told? at told
  split at told
  · next a b c =>
    split at told
    · next digits =>
      simp only [Bool.and_eq_true, decide_eq_true_eq] at digits
      obtain ⟨⟨⟨⟨first, second⟩, third⟩, least⟩, most⟩ := digits
      unfold number at least most
      have hundreds : a.toNat = '4'.toNat ∨ a.toNat = '5'.toNat := by
        have bounds := asciiIff.mp first
        have tens := asciiIff.mp second
        have ones := asciiIff.mp third
        show a.toNat = 52 ∨ a.toNat = 53
        omega
      rw [Char.toNat_inj, Char.toNat_inj] at hundreds
      simpa [looksFailing, asciiDecimal second, asciiDecimal third] using hundreds
    · cases told
  · cases told

theorem statusTold {word : List Char} (looks : looksFailing word = true)
    (own : isForeign word = false) : ∃ code, status? word = some code ∧ told? word = some code := by
  unfold looksFailing at looks
  split at looks
  · next a b c =>
    rw [isForeign, looksFailing, looks, Bool.true_and, Bool.not_eq_false', Bool.and_eq_true] at own
    obtain ⟨second, third⟩ := own
    obtain ⟨⟨first, -⟩, -⟩ : ((a = '4' ∨ a = '5') ∧ _) ∧ _ := by
      simpa only [Bool.and_eq_true, Bool.or_eq_true, decide_eq_true_eq] using looks
    have ascii : isAsciiDigit a = true := by rcases first with rfl | rfl <;> rfl
    have failing : 400 ≤ number a b c ∧ number a b c ≤ 599 := by
      have hundreds : a.toNat = 52 ∨ a.toNat = 53 := by rcases first with rfl | rfl <;> decide
      have tens := asciiIff.mp second
      have ones := asciiIff.mp third
      unfold number
      omega
    refine ⟨number a b c, ?_, ?_⟩
    · rw [status?, statusDigits ascii second third]
      simp [failing]
    · simp [told?, ascii, second, third, failing]
  · cases looks

theorem looksThree {word : List Char} (looks : looksFailing word = true) :
    ∃ a b c, word = [a, b, c] := by
  unfold looksFailing at looks
  split at looks
  · exact ⟨_, _, _, rfl⟩
  · cases looks

theorem looksNotBlank {word : List Char} (looks : looksFailing word = true) :
    ∀ c ∈ word, isBlank c = false := by
  obtain ⟨a, b, c, rfl⟩ := looksThree looks
  simp only [looksFailing, Bool.and_eq_true, Bool.or_eq_true, decide_eq_true_eq] at looks
  obtain ⟨⟨first, second⟩, third⟩ := looks
  have hundreds : isBlank a = false := by rcases first with rfl | rfl <;> rfl
  simp [hundreds, decimalNotBlank second, decimalNotBlank third]

theorem blankAhead {rest : List Char} :
    rest.head?.all isBlank = true ↔ (cut isBlank rest).1 = [] := by
  cases rest with
  | nil => exact iff_of_true rfl rfl
  | cons c rest => cases blank : isBlank c <;> simp [cut, blank]

theorem markIs (text : List Char) :
    mark? text = Option.guard looksFailing (cut isBlank text).1 := by
  rw [Option.guard]
  split
  · next looks =>
    obtain ⟨a, b, c, word⟩ := looksThree looks
    obtain ⟨back, rfl⟩ : ∃ back, text = [a, b, c] ++ back :=
      ⟨_, word ▸ (cutJoined isBlank text).symm⟩
    rw [word] at looks ⊢
    rw [cutWord (looksNotBlank looks)] at word
    have ends : (cut isBlank back).1 = [] := List.append_right_eq_self.mp word
    exact if_pos (Bool.and_eq_true_iff.mpr ⟨looks, blankAhead.mpr ends⟩)
  · next other =>
    match text with
    | [] => rfl
    | [_] => rfl
    | [_, _] => rfl
    | a :: b :: c :: rest =>
      refine if_neg fun marked => other ?_
      obtain ⟨looks, ends⟩ : looksFailing [a, b, c] = true ∧ _ := Bool.and_eq_true_iff.mp marked
      have word : cut isBlank ([a, b, c] ++ rest) = _ := cutWord (looksNotBlank looks) rest
      rw [blankAhead.mp ends] at word
      show looksFailing (cut isBlank ([a, b, c] ++ rest)).1 = true
      rw [word]
      exact looks

theorem firstMark {text : List Char} {more others : List (List Char)}
    (plain : ∀ word ∈ words text, isForeign word = false)
    (later : others.findSome? status? = (words (cut isBlank text).2).findSome? told?) :
    (match mark? text with
      | some mark => mark :: more
      | none => others).findSome? status? = (words text).findSome? told? := by
  rw [wordsCut] at plain ⊢
  rw [markIs]
  generalize (cut isBlank text).1 = word at plain ⊢
  cases looks : looksFailing word with
  | true =>
    have nonempty : word ≠ [] := by rintro rfl; cases looks
    have listed : [word].filter (· ≠ []) = [word] := by simp [nonempty]
    rw [listed] at plain ⊢
    obtain ⟨code, status, told⟩ := statusTold looks (plain word List.mem_cons_self)
    rw [Option.guard, if_pos looks, List.singleton_append, List.findSome?_cons, status,
      List.findSome?_cons, told]
  | false =>
    have silent : told? word = none := by
      cases told : told? word with
      | none => rfl
      | some code => cases looks.symm.trans (toldLooks told)
    have unread : ([word].filter (· ≠ [])).findSome? told? = none := by
      rw [List.findSome?_eq_none_iff]
      intro other member
      rw [List.mem_singleton.mp (List.mem_of_mem_filter member)]
      exact silent
    rw [Option.guard, if_neg (Bool.eq_false_iff.mp looks), List.findSome?_append, unread]
    exact later

theorem marksAfterStep (c : Char) (rest : List Char) :
    marksAfter 0 (c :: rest) = if isBlank c then marks rest else marksAfter 0 rest := by
  show (match (if isBlank c then mark? rest else none) with
    | some mark => mark :: marksAfter 4 rest
    | none => marksAfter 0 rest) = _
  cases isBlank c <;> rfl

theorem marksAfterTell {text : List Char}
    (plain : ∀ word ∈ words (cut isBlank text).2, isForeign word = false) :
    (marksAfter 0 text).findSome? status? = (words (cut isBlank text).2).findSome? told? := by
  induction text with
  | nil =>
    have nothing : words (cut isBlank []).2 = [] := rfl
    rw [nothing]
    rfl
  | cons c rest ih =>
    rw [marksAfterStep]
    cases blank : isBlank c with
    | false =>
      rw [cutOther blank] at plain ⊢
      exact ih plain
    | true =>
      rw [cutBlank blank, wordsBlank blank] at plain ⊢
      refine firstMark plain (ih fun word member => plain word ?_)
      rw [wordsCut]
      exact List.mem_append_right _ member

theorem marksTell {text : List Char} (plain : ∀ word ∈ words text, isForeign word = false) :
    (marks text).findSome? status? = (words text).findSome? told? := by
  refine firstMark plain (marksAfterTell fun word member => plain word ?_)
  rw [wordsCut]
  exact List.mem_append_right _ member

def NamesScriptError (entry : String) : Prop :=
  ∃ name ∈ scriptErrors, name.toList <:+: entry.toList

def TellsStatus (url entry : String) (code : Nat) : Prop :=
  ∃ text, entry = url ++ " - " ++ text ∧ (words text.toList).findSome? told? = some code

inductive Fails (url entry : String) : Failure → Prop where
  | script (named : NamesScriptError entry) : Fails url entry (.script entry)
  | status {code : Nat} (unnamed : ¬ NamesScriptError entry) (tells : TellsStatus url entry code) :
    Fails url entry (.status code entry)

theorem namesIff {entry : String} : namesScriptError entry = true ↔ NamesScriptError entry := by
  rw [namesScriptError, List.any_eq_true]
  exact exists_congr fun _ => and_congr_right fun _ => occursIffInfix

theorem textIff {url entry text : String} :
    after? (url.toList ++ separator) entry.toList = some text.toList ↔
      entry = url ++ " - " ++ text := by
  have between : " - ".toList = separator := rfl
  rw [← String.toList_inj, String.toList_append, String.toList_append, between]
  exact ⟨appendOfAfter, fun same => same ▸ afterAppend _ _⟩

theorem wordsOfText {url entry text : String} (own : entry = url ++ " - " ++ text)
    {word : List Char} (member : word ∈ words text.toList) : word ∈ words entry.toList := by
  have split : entry.toList = (url.toList ++ [' ', '-']) ++ ' ' :: text.toList := by
    rw [own, String.toList_append, String.toList_append, List.append_assoc, List.append_assoc]
    rfl
  rw [split, wordsAppend rfl]
  exact List.mem_append_right _ member

variable {url entry : String} {failure : Failure}

theorem statusIff (plain : ∀ word ∈ words entry.toList, isForeign word = false) {code : Nat} :
    (∃ text, after? (url.toList ++ separator) entry.toList = some text ∧
      (marks text).findSome? status? = some code) ↔ TellsStatus url entry code := by
  constructor
  · rintro ⟨cs, found, first⟩
    obtain ⟨text, rfl⟩ : ∃ text : String, cs = text.toList :=
      ⟨String.ofList cs, String.toList_ofList.symm⟩
    have own := textIff.mp found
    rw [marksTell fun word member => plain word (wordsOfText own member)] at first
    exact ⟨text, own, first⟩
  · rintro ⟨text, own, first⟩
    refine ⟨text.toList, textIff.mpr own, ?_⟩
    rw [marksTell fun word member => plain word (wordsOfText own member)]
    exact first

theorem judgeIff (plain : ∀ word ∈ words entry.toList, isForeign word = false) :
    judge url entry = some failure ↔ Fails url entry failure := by
  unfold judge
  split
  · next named =>
    have known := namesIff.mp named
    constructor
    · rintro ⟨⟩
      exact .script known
    · rintro (_ | ⟨unnamed, _⟩)
      · rfl
      · exact absurd known unnamed
  · next unnamed =>
    have unknown : ¬ NamesScriptError entry := fun known => unnamed (namesIff.mpr known)
    simp only [Option.bind_eq_bind, Option.bind_eq_some_iff, Option.pure_def, Option.some.injEq]
    constructor
    · rintro ⟨text, found, code, first, rfl⟩
      exact .status unknown ((statusIff plain).mp ⟨text, found, first⟩)
    · rintro (known | ⟨_, tells⟩)
      · exact absurd known unknown
      · obtain ⟨text, found, first⟩ := (statusIff plain).mpr tells
        exact ⟨text, found, _, first, rfl⟩

theorem failsNothing (plain : ∀ word ∈ words entry.toList, isForeign word = false) :
    judge url entry = none ↔ ∀ failure, ¬ Fails url entry failure := by
  rw [Option.eq_none_iff_forall_ne_some]
  exact forall_congr' fun _ => not_congr (judgeIff plain)

theorem cleanIff : (∀ failure, ¬ Fails url entry failure) ↔ ¬ NamesScriptError entry ∧
    ∀ text, entry = url ++ " - " ++ text → ∀ word ∈ words text.toList, told? word = none := by
  constructor
  · intro clean
    have unnamed : ¬ NamesScriptError entry := fun named => clean _ (.script named)
    refine ⟨unnamed, fun text own => List.findSome?_eq_none_iff.mp ?_⟩
    exact Option.eq_none_iff_forall_ne_some.mpr fun code first =>
      clean _ (.status unnamed ⟨text, own, first⟩)
  · rintro ⟨unnamed, silent⟩ failure (named | ⟨-, text, own, first⟩)
    · exact unnamed named
    · cases first.symm.trans (List.findSome?_eq_none_iff.mpr (silent text own))

/-- A scan reports the first entry that fails the page, by the script error it names, or else by
the first status it tells; without such an entry it reports nothing. -/
theorem scanFindsFirst {url : String} {entries : List String}
    (plain : ∀ entry ∈ entries, ∀ word ∈ words entry.toList, isForeign word = false) :
    (scan url entries = none ↔ ∀ entry ∈ entries, ¬ NamesScriptError entry ∧
      ∀ text, entry = url ++ " - " ++ text → ∀ word ∈ words text.toList, told? word = none) ∧
    ∀ failure, scan url entries = some failure ↔
      ∃ before entry after, entries = before ++ entry :: after ∧ Fails url entry failure ∧
        ∀ earlier ∈ before, ∀ other, ¬ Fails url earlier other := by
  constructor
  · rw [scan, List.findSome?_eq_none_iff]
    exact forall₂_congr fun entry member => (failsNothing (plain entry member)).trans cleanIff
  · intro failure
    rw [scan, List.findSome?_eq_some_iff]
    refine exists_congr fun before => exists_congr fun entry => exists_congr fun after =>
      and_congr_right ?_
    rintro rfl
    have member : entry ∈ before ++ entry :: after :=
      List.mem_append_right _ List.mem_cons_self
    refine and_congr (judgeIff (plain entry member)) ?_
    exact forall₂_congr fun earlier listed =>
      failsNothing (plain earlier (List.mem_append_left _ listed))

def brokenLines : List String := ["http://b/ - 500", "http://a/ - got\n404\t503 - TypeErro"]

theorem scanFindsBrokenLine :
    (∀ entry ∈ brokenLines, ∀ word ∈ words entry.toList, isForeign word = false) ∧
    scan "http://a/" brokenLines = some (.status 404 "http://a/ - got\n404\t503 - TypeErro") ∧
    ∃ before entry after, brokenLines = before ++ entry :: after ∧
      Fails "http://a/" entry (.status 404 "http://a/ - got\n404\t503 - TypeErro") ∧
      ∀ earlier ∈ before, ∀ other, ¬ Fails "http://a/" earlier other := by
  have plain : ∀ entry ∈ brokenLines, ∀ word ∈ words entry.toList, isForeign word = false := by
    decide
  have found : scan "http://a/" brokenLines =
      some (.status 404 "http://a/ - got\n404\t503 - TypeErro") :=
    rfl
  exact ⟨plain, found, ((scanFindsFirst plain).2 _).mp found⟩

end Console

end PageCheck

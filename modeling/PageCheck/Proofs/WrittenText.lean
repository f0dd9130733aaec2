import PageCheck.Json.Printer
import PageCheck.Json.Reader

/-!
Documents that are written without white space, and read again. A reader of at most so many
containers finds exactly the value that was written, unless that value is nested deeper; and what it
finds in any text is never nested deeper. All numbers are natural and fit into 64 bits.
-/
namespace PageCheck

namespace Json

theorem digitValue {d : Nat} (small : d < 10) : Text.digitValue? 10 d.digitChar = some d := by
  have each : ∀ d < 10, Text.digitValue? 10 d.digitChar = some d := by decide
  exact each d small

theorem digitAscii {d : Nat} (small : d < 10) : Text.isAsciiDigit d.digitChar = true := by
  have each : ∀ d < 10, Text.isAsciiDigit d.digitChar = true := by decide
  exact each d small

theorem takeDigit {total d : Nat} (small : d < 10) (fits : total * 10 + d ≤ maxNatural)
    (cs : List Char) : takeDigits total (d.digitChar :: cs) = takeDigits (total * 10 + d) cs := by
  rw [takeDigits, digitValue small]
  exact if_pos fits

theorem takeDecimal (n : Nat) (fits : n ≤ maxNatural) (cs : List Char) :
    takeDigits 0 (Text.decimal n ++ cs) = takeDigits n cs := by
  induction n using Nat.strongRecOn generalizing cs with
  | _ n ih =>
    unfold Text.decimal at *
    by_cases single : n < 10
    · rw [Nat.toDigits_of_lt_base single, List.singleton_append, takeDigit single (by omega)]
      congr 1
      omega
    · rw [Nat.toDigits_of_base_le (by decide) (by omega), List.append_assoc,
        ih (n / 10) (by omega) (by omega), List.singleton_append,
        takeDigit (Nat.mod_lt n (by decide)) (by omega)]
      congr 1
      omega

theorem decimalHead (n : Nat) : ∃ d rest, d < 10 ∧ Text.decimal n = d.digitChar :: rest ∧
    (d = 0 → n = 0) := by
  induction n using Nat.strongRecOn with
  | _ n ih =>
    unfold Text.decimal at *
    by_cases single : n < 10
    · exact ⟨n, [], single, Nat.toDigits_of_lt_base single, id⟩
    · obtain ⟨d, rest, small, written, leading⟩ := ih (n / 10) (by omega)
      refine ⟨d, rest ++ [(n % 10).digitChar], small, ?_, fun zero => ?_⟩
      · rw [Nat.toDigits_of_base_le (by decide) (by omega), written, List.cons_append]
      · have none := leading zero
        omega

def Ends (rest : List Char) : Prop := ∀ c ∈ rest.head?, c = ',' ∨ c = ']' ∨ c = '\x7d'

theorem endsWith {c : Char} {rest : List Char} (closing : c = ',' ∨ c = ']' ∨ c = '\x7d') :
    Ends (c :: rest) := by
  rintro _ ⟨⟩
  exact closing

theorem Ends.noDigit {rest : List Char} (ends : Ends rest) :
    ∀ c ∈ rest.head?, Text.isAsciiDigit c = false := by
  intro c first
  rcases ends c first with rfl | rfl | rfl <;> rfl

theorem Ends.takesNothing {n : Nat} {rest : List Char} (ends : Ends rest) :
    takeDigits n rest = (n, rest) := by
  cases rest with
  | nil => rfl
  | cons c rest =>
    have none : Text.digitValue? 10 c = none := by
      rcases ends c rfl with rfl | rfl | rfl <;> rfl
    rw [takeDigits, none]

theorem Ends.noMore {rest : List Char} (ends : Ends rest) :
    rest.takeWhile Text.isAsciiDigit = [] ∧ rest.dropWhile Text.isAsciiDigit = rest := by
  cases rest with
  | nil => exact ⟨rfl, rfl⟩
  | cons c rest =>
    have other := ends.noDigit c rfl
    exact ⟨List.takeWhile_cons_of_neg (by simp [other]), List.dropWhile_cons_of_neg (by simp [other])⟩

theorem readWhole {n : Nat} {c : Char} {cs rest : List Char} (digit : Text.isAsciiDigit c = true)
    (leading : ¬ (c = '0' ∧ cs.head?.any Text.isAsciiDigit))
    (taken : takeDigits 0 (c :: cs) = (n, rest)) (ends : Ends rest) :
    readUnsigned false (c :: cs) = some (.integer n, rest) := by
  simp only [readUnsigned, digit, leading, taken, ends.noMore]
  cases rest with
  | nil => rfl
  | cons c rest => rcases ends c rfl with rfl | rfl | rfl <;> rfl

theorem readDecimal {n : Nat} (fits : n ≤ maxNatural) {rest : List Char} (ends : Ends rest) :
    readNumber (Text.decimal n ++ rest) = some (.integer n, rest) := by
  have taken := (takeDecimal n fits rest).trans ends.takesNothing
  obtain ⟨d, more, small, written, leading⟩ := decimalHead n
  rw [written, List.cons_append] at taken ⊢
  have noZero : ¬ (d.digitChar = '0' ∧ (more ++ rest).head?.any Text.isAsciiDigit) := by
    rintro ⟨zero, another⟩
    obtain rfl := leading (Nat.digitChar_eq_zero.mp zero)
    obtain rfl : [] = more := (List.cons.inj written).2
    obtain ⟨c, first, digit⟩ := (Option.any_eq_true _ _).mp another
    rw [ends.noDigit c first] at digit
    cases digit
  have whole := readWhole (digitAscii small) noZero taken ends
  unfold readNumber
  split
  · next same => simp at same
  · exact whole

theorem readHexFirst {cs : List Char} {n : Nat} (read : readHex4 cs = some (n, []))
    (rest : List Char) : readHex4 (cs ++ rest) = some (n, rest) := by
  unfold readHex4 at read
  split at read
  · obtain ⟨value, found, same⟩ := Option.map_eq_some_iff.mp read
    cases same
    exact Option.map_eq_some_iff.mpr ⟨n, found, rfl⟩
  · cases read

theorem readControl {n : Nat} (control : n < 0x20) (rest : List Char) :
    readUnicodeEscape (Text.hex4 n ++ rest) = some (Char.ofNat n, rest) := by
  have each : ∀ n < 0x20, readHex4 (Text.hex4 n) = some (n, []) := by decide
  unfold readUnicodeEscape
  rw [readHexFirst (each n control)]
  -- no control is half of a surrogate pair
  show (if _ then _ else if _ then none else some (Char.ofNat n, rest)) = _
  rw [if_neg (by omega), if_neg (by omega)]

theorem readCharacter (fuel : Nat) (done : List Char) (c : Char) (cs : List Char) :
    readStringTail (fuel + 1) done (escapeChar c ++ cs) = readStringTail fuel (c :: done) cs := by
  unfold escapeChar
  split
  · next same => subst same; rfl
  split
  · next same => subst same; rfl
  split
  · next same => subst same; rfl
  split
  · next same => subst same; rfl
  split
  · next same => subst same; rfl
  split
  · next same => subst same; rfl
  split
  · next same => subst same; rfl
  split
  · next control =>
    have escape := readControl control cs
    rw [Char.ofNat_toNat] at escape
    show (readUnicodeEscape (Text.hex4 c.toNat ++ cs)).bind _ = _
    rw [escape]
    rfl
  · next quote slash _ _ _ _ _ visible =>
    rw [List.singleton_append, readStringTail, if_neg quote, if_neg slash, if_neg visible]

theorem readCharacters {fuel : Nat} {cs : List Char} (enough : cs.length < fuel)
    (done rest : List Char) :
    readStringTail fuel done (cs.flatMap escapeChar ++ '\x22' :: rest) =
      some (String.ofList (done.reverse ++ cs), rest) := by
  induction cs generalizing fuel done with
  | nil =>
    obtain ⟨fuel, rfl⟩ := Nat.exists_eq_add_one.mpr enough
    rw [List.append_nil]
    rfl
  | cons c cs ih =>
    obtain ⟨fuel, rfl⟩ := Nat.exists_eq_add_one.mpr (Nat.zero_lt_of_lt enough)
    rw [List.flatMap_cons, List.append_assoc, readCharacter, ih (Nat.lt_of_succ_lt_succ enough),
      List.reverse_cons, List.append_assoc]
    rfl

theorem readWritten {fuel : Nat} {text : String} (enough : text.toList.length < fuel)
    (rest : List Char) : readString fuel (writeText text ++ rest) = some (text, rest) := by
  have read := readCharacters enough [] rest
  rw [List.reverse_nil, List.nil_append, String.ofList_toList] at read
  rw [← read]
  rw [writeText, List.append_assoc, List.cons_append]
  rfl

theorem escapedLength (cs : List Char) : cs.length ≤ (cs.flatMap escapeChar).length := by
  induction cs with
  | nil => exact Nat.le_refl 0
  | cons c cs ih =>
    have some : 0 < (escapeChar c).length := by
      unfold escapeChar
      repeat' split
      all_goals exact Nat.succ_pos _
    rw [List.flatMap_cons, List.length_append, List.length_cons]
    omega

theorem writtenLength (text : String) : text.toList.length + 2 ≤ (writeText text).length := by
  have escaped := escapedLength text.toList
  rw [writeText, List.length_append, List.length_cons, List.length_singleton]
  omega

end Json

mutual

def Json.Plain : Json → Prop
  | .number n => ∃ k : Nat, k ≤ Json.maxNatural ∧ n = .integer k
  | .list items => Json.PlainItems items
  | .record fields => Json.PlainFields fields
  | _ => True

def Json.PlainItems : List Json → Prop
  | [] => True
  | item :: rest => item.Plain ∧ Json.PlainItems rest

def Json.PlainFields : List (String × Json) → Prop
  | [] => True
  | (_, value) :: rest => value.Plain ∧ Json.PlainFields rest

end

namespace Json

theorem plainItemsIff {items : List Json} : PlainItems items ↔ ∀ item ∈ items, item.Plain := by
  induction items with
  | nil => simp [PlainItems]
  | cons item rest ih => simp [PlainItems, ih]

theorem plainFieldsIff {fields : Fields} :
    PlainFields fields ↔ ∀ field ∈ fields, field.2.Plain := by
  induction fields with
  | nil => simp [PlainFields]
  | cons field rest ih => rw [PlainFields, ih, List.forall_mem_cons]

theorem plainNat {n : Nat} (fits : n ≤ maxNatural) : (nat n).Plain := ⟨n, fits, rfl⟩

theorem skipNothing {c : Char} {cs : List Char} (visible : isSpace c = false) :
    skipSpace (c :: cs) = c :: cs := List.dropWhile_cons_of_neg (by simp [visible])

theorem writtenHead : (value : Json) → value.Plain →
    ∃ c cs, value.write = c :: cs ∧ isSpace c = false ∧ c ≠ ']'
  | .null, _ => ⟨_, _, rfl, rfl, by decide⟩
  | .bool true, _ => ⟨_, _, rfl, rfl, by decide⟩
  | .bool false, _ => ⟨_, _, rfl, rfl, by decide⟩
  | .text _, _ => ⟨_, _, rfl, rfl, by decide⟩
  | .list _, _ => ⟨_, _, rfl, rfl, by decide⟩
  | .record _, _ => ⟨_, _, rfl, rfl, by decide⟩
  | .number _, plain => by
    obtain ⟨k, _, rfl⟩ := plain
    obtain ⟨d, more, small, written, _⟩ := decimalHead k
    have digits : ∀ d < 10, isSpace d.digitChar = false ∧ d.digitChar ≠ ']' := by decide
    exact ⟨_, more, written, digits d small⟩

theorem writtenItems (item next : Json) (more : List Json) :
    writeItems (item :: next :: more) = item.write ++ ',' :: writeItems (next :: more) := by
  rw [writeItems]
  exact nofun

theorem writtenFields (name : String) (value : Json) (next : String × Json)
    (more : List (String × Json)) :
    writeFields ((name, value) :: next :: more) =
      writeText name ++ ':' :: (value.write ++ ',' :: writeFields (next :: more)) := by
  rw [writeFields, List.append_assoc]
  · rfl
  · exact nofun

theorem writtenItemsHead {item : Json} {items : List Json} (plain : PlainItems (item :: items)) :
    ∃ c cs, writeItems (item :: items) = c :: cs ∧ isSpace c = false ∧ c ≠ ']' := by
  obtain ⟨c, cs, written, visible, filled⟩ := item.writtenHead plain.1
  cases items with
  | nil => exact ⟨c, cs, written, visible, filled⟩
  | cons next more =>
    refine ⟨c, cs ++ ',' :: writeItems (next :: more), ?_, visible, filled⟩
    rw [writtenItems, written, List.cons_append]

theorem writtenFieldsHead (field : String × Json) (fields : List (String × Json)) :
    ∃ cs, writeFields (field :: fields) = '\x22' :: cs := by
  cases fields with
  | nil => exact ⟨_, rfl⟩
  | cons next more => exact ⟨_, writtenFields field.1 field.2 next more⟩

theorem writtenLonger (value : Json) (plain : value.Plain) : 0 < value.write.length := by
  obtain ⟨c, cs, written, _⟩ := value.writtenHead plain
  rw [written]
  exact Nat.succ_pos _

def within {α : Type} (deepest depth : Nat) (found : α) (rest : List Char) :
    Option (α × List Char) :=
  if deepest ≤ depth then some (found, rest) else none

theorem withinBind {α β : Type} {deepest depth : Nat} {found : α} {rest : List Char}
    {next : α × List Char → Option β} :
    (within deepest depth found rest >>= next) =
      if deepest ≤ depth then next (found, rest) else none := by
  unfold within
  split <;> rfl

theorem withinBoth {α β : Type} {first second depth : Nat} {found : α} {rest : List Char}
    {build : α → β} :
    (if first ≤ depth then
      within second depth found rest >>= fun (found, rest) => some (build found, rest)
      else none) = within (max first second) depth (build found) rest := by
  rw [withinBind]
  unfold within
  simp only [Nat.max_le]
  by_cases shallow : first ≤ depth
  · rw [if_pos shallow]
    simp only [shallow, true_and]
  · rw [if_neg shallow, if_neg fun both => shallow both.1]

theorem withinContainer {α β : Type} {inner depth : Nat} {found : α} {rest : List Char}
    {build : α → β} :
    (within inner depth found rest).map (fun (found, rest) => (build found, rest)) =
      within (inner + 1) (depth + 1) (build found) rest := by
  unfold within
  simp only [Nat.add_le_add_iff_right]
  split <;> rfl

theorem readNumeral {k : Nat} (fits : k ≤ maxNatural) (fuel depth : Nat) {rest : List Char}
    (ends : Ends rest) :
    readValue (fuel + 1) depth (Text.decimal k ++ rest) = some (.number (.integer k), rest) := by
  have read := readDecimal fits ends
  obtain ⟨d, more, small, written, _⟩ := decimalHead k
  rw [written, List.cons_append] at read ⊢
  have digits : ∀ d < 10, isSpace d.digitChar = false ∧ d.digitChar ≠ '[' ∧
      d.digitChar ≠ '\x7b' ∧ d.digitChar ≠ '\x22' ∧ d.digitChar ≠ 'n' ∧ d.digitChar ≠ 't' ∧
      d.digitChar ≠ 'f' := by decide
  obtain ⟨visible, list, record, text, null, yes, no⟩ := digits d small
  rw [readValue, skipNothing visible]
  dsimp only
  rw [if_neg list, if_neg record, if_neg text, if_neg null, if_neg yes, if_neg no, read]
  rfl

theorem readText {fuel : Nat} {text : String} (enough : text.toList.length < fuel) (depth : Nat)
    (rest : List Char) :
    readValue (fuel + 1) depth (writeText text ++ rest) = some (.text text, rest) := by
  have read := readWritten enough rest
  show (readString fuel (writeText text ++ rest)).map _ = _
  rw [read]
  rfl

theorem readList {fuel depth : Nat} {c : Char} {cs : List Char} (visible : isSpace c = false)
    (filled : c ≠ ']') :
    readValue (fuel + 1) (depth + 1) ('[' :: c :: cs) =
      (readItems fuel depth (c :: cs)).map fun (items, rest) => (.list items, rest) := by
  rw [readValue, skipNothing rfl]
  dsimp only
  rw [if_pos rfl, skipNothing visible]
  split
  · next same => exact absurd (List.cons.inj same).1 filled
  · rfl

theorem readRecord {fuel depth : Nat} {cs : List Char} :
    readValue (fuel + 1) (depth + 1) ('\x7b' :: '\x22' :: cs) =
      (readFields fuel depth ('\x22' :: cs)).map fun (fields, rest) => (.record fields, rest) :=
  rfl

theorem readField {fuel depth : Nat} {name : String} {cs : List Char}
    (enough : name.toList.length < fuel) :
    readFields (fuel + 1) depth (writeText name ++ ':' :: cs) =
      readValue fuel depth cs >>= fun (value, rest) =>
        match skipSpace rest with
        | ',' :: rest => do
          let (fields, rest) ← readFields fuel depth rest
          some ((name, value) :: fields, rest)
        | '\x7d' :: rest => some ([(name, value)], rest)
        | _ => none := by
  rw [readFields]
  show (readString fuel (writeText name ++ _) >>= _) = _
  rw [readWritten enough]
  rfl

end Json

mutual

theorem Json.rereads : (value : Json) → value.Plain →
    (fuel depth : Nat) → (rest : List Char) → 2 * value.write.length ≤ fuel + 1 → Json.Ends rest →
    Json.readValue (fuel + 1) depth (value.write ++ rest) =
      Json.within value.depth depth value rest
  | .null, _, _, _, _, _, _ => rfl
  | .bool true, _, _, _, _, _, _ => rfl
  | .bool false, _, _, _, _, _, _ => rfl
  | .text content, _, fuel, depth, rest, enough, _ => by
    have longer := Json.writtenLength content
    rw [Json.write] at enough ⊢
    exact Json.readText (by omega) depth rest
  | .number _, ⟨k, fits, rfl⟩, fuel, depth, rest, _, ends => Json.readNumeral fits fuel depth ends
  | .list _, _, _, 0, _, _, _ => rfl
  | .list [], _, _, _ + 1, _, _, _ => (if_pos (Nat.le_add_left _ _)).symm
  | .list (item :: items), plain, fuel, depth + 1, rest, enough, _ => by
    -- fuel is spent on the list and on each of its items, and the brackets pay for the list
    rw [Json.write, List.length_append, List.length_cons, List.length_singleton] at enough
    obtain ⟨fuel, rfl⟩ := Nat.exists_eq_add_one.mpr (show 0 < fuel by omega)
    have read := Json.rereadsItems (item :: items) nofun plain fuel depth rest (by omega)
    obtain ⟨c, cs, written, visible, filled⟩ := Json.writtenItemsHead plain
    rw [Json.write, List.append_assoc, List.cons_append, Json.depth, ← Json.withinContainer, ← read]
    rw [written]
    exact Json.readList visible filled
  | .record _, _, _, 0, _, _, _ => rfl
  | .record [], _, _, _ + 1, _, _, _ => (if_pos (Nat.le_add_left _ _)).symm
  | .record (field :: fields), plain, fuel, depth + 1, rest, enough, _ => by
    rw [Json.write, List.length_append, List.length_cons, List.length_singleton] at enough
    obtain ⟨fuel, rfl⟩ := Nat.exists_eq_add_one.mpr (show 0 < fuel by omega)
    have read := Json.rereadsFields (field :: fields) nofun plain fuel depth rest (by omega)
    obtain ⟨cs, written⟩ := Json.writtenFieldsHead field fields
    rw [Json.write, List.append_assoc, List.cons_append, Json.depth, ← Json.withinContainer, ← read]
    rw [written]
    exact Json.readRecord

theorem Json.rereadsItems : (items : List Json) → items ≠ [] → Json.PlainItems items →
    (fuel depth : Nat) → (rest : List Char) → 2 * (Json.writeItems items).length ≤ fuel →
    Json.readItems (fuel + 1) depth (Json.writeItems items ++ ']' :: rest) =
      Json.within (Json.depthItems items) depth items rest
  | [], filled, _, _, _, _, _ => absurd rfl filled
  | [item], _, plain, fuel, depth, rest, enough => by
    have longer := item.writtenLonger plain.1
    rw [Json.writeItems] at enough ⊢
    obtain ⟨fuel, rfl⟩ := Nat.exists_eq_add_one.mpr (show 0 < fuel by omega)
    rw [Json.readItems, Json.rereads item plain.1 fuel _ _ enough (Json.endsWith (by decide)),
      Json.withinBind, Json.depthItems, Json.depthItems, Nat.max_zero]
    rfl
  | item :: next :: more, _, plain, fuel, depth, rest, enough => by
    rw [Json.writtenItems, List.length_append, List.length_cons] at enough
    obtain ⟨fuel, rfl⟩ := Nat.exists_eq_add_one.mpr (show 0 < fuel by omega)
    have following := Json.rereadsItems (next :: more) nofun plain.2 fuel depth rest (by omega)
    rw [Json.writtenItems, List.append_assoc, List.cons_append, Json.readItems,
      Json.rereads item plain.1 fuel _ _ (by omega) (Json.endsWith (by decide)), Json.withinBind,
      Json.depthItems]
    show (if _ then Json.readItems (fuel + 1) depth _ >>= _ else none) = _
    rw [following]
    exact Json.withinBoth

theorem Json.rereadsFields : (fields : List (String × Json)) → fields ≠ [] →
    Json.PlainFields fields →
    (fuel depth : Nat) → (rest : List Char) → 2 * (Json.writeFields fields).length ≤ fuel →
    Json.readFields (fuel + 1) depth (Json.writeFields fields ++ '\x7d' :: rest) =
      Json.within (Json.depthFields fields) depth fields rest
  | [], filled, _, _, _, _, _ => absurd rfl filled
  | [(name, value)], _, plain, fuel, depth, rest, enough => by
    have longer := Json.writtenLength name
    rw [Json.writeFields, List.length_append, List.length_cons] at enough
    obtain ⟨fuel, rfl⟩ := Nat.exists_eq_add_one.mpr (show 0 < fuel by omega)
    rw [Json.writeFields, List.append_assoc, List.cons_append, Json.readField (by omega),
      Json.rereads value plain.1 fuel _ _ (by omega) (Json.endsWith (by decide)),
      Json.withinBind, Json.depthFields, Json.depthFields, Nat.max_zero]
    rfl
  | (name, value) :: next :: more, _, plain, fuel, depth, rest, enough => by
    have longer := Json.writtenLength name
    rw [Json.writtenFields, List.length_append, List.length_cons, List.length_append,
      List.length_cons] at enough
    obtain ⟨fuel, rfl⟩ := Nat.exists_eq_add_one.mpr (show 0 < fuel by omega)
    have following := Json.rereadsFields (next :: more) nofun plain.2 fuel depth rest (by omega)
    rw [Json.writtenFields, List.append_assoc, List.cons_append, Json.readField (by omega),
      List.append_assoc, List.cons_append,
      Json.rereads value plain.1 fuel _ _ (by omega) (Json.endsWith (by decide)), Json.withinBind,
      Json.depthFields]
    show (if _ then Json.readFields (fuel + 1) depth _ >>= _ else none) = _
    rw [following]
    exact Json.withinBoth

end

theorem Json.readCompact {value : Json} (plain : value.Plain) :
    Json.read value.compact = if value.depth ≤ Json.depthLimit then some value else none := by
  have found := value.rereads plain (2 * value.write.length + 1) Json.depthLimit [] (by omega) nofun
  unfold Json.read Json.compact
  rw [String.toList_ofList]
  rw [List.append_nil] at found
  dsimp only
  rw [found]
  unfold Json.within
  by_cases shallow : value.depth ≤ Json.depthLimit
  · rw [if_pos shallow, if_pos shallow]
    rfl
  · rw [if_neg shallow, if_neg shallow]

structure Json.ReadsWithin (fuel : Nat) : Prop where
  value : ∀ {depth cs found rest}, Json.readValue fuel depth cs = some (found, rest) →
    found.depth ≤ depth
  items : ∀ {depth cs found rest}, Json.readItems fuel depth cs = some (found, rest) →
    Json.depthItems found ≤ depth
  fields : ∀ {depth cs found rest}, Json.readFields fuel depth cs = some (found, rest) →
    Json.depthFields found ≤ depth

namespace Json.ReadsWithin

variable {fuel depth : Nat} {cs rest : List Char} (inner : ReadsWithin fuel)

include inner

theorem nextValue {found : Json} (read : readValue (fuel + 1) depth cs = some (found, rest)) :
    found.depth ≤ depth := by
  unfold readValue at read
  split at read
  · cases read
  split at read
  · split at read
    · cases read
    split at read
    · cases read
      exact Nat.le_add_left 1 _
    · obtain ⟨_, within, same⟩ := Option.map_eq_some_iff.mp read
      cases same
      exact Nat.succ_le_succ (inner.items within)
  split at read
  · split at read
    · cases read
    split at read
    · cases read
      exact Nat.le_add_left 1 _
    · obtain ⟨_, within, same⟩ := Option.map_eq_some_iff.mp read
      cases same
      exact Nat.succ_le_succ (inner.fields within)
  -- what is left is flat
  repeat' split at read
  all_goals
    obtain ⟨_, _, same⟩ := Option.map_eq_some_iff.mp read
    cases same
    exact Nat.zero_le depth

theorem nextItems {found : List Json}
    (read : readItems (fuel + 1) depth cs = some (found, rest)) : depthItems found ≤ depth := by
  unfold readItems at read
  obtain ⟨⟨item, tail⟩, first, read⟩ := Option.bind_eq_some_iff.mp read
  dsimp only at read
  split at read
  · obtain ⟨⟨others, _⟩, following, same⟩ := Option.bind_eq_some_iff.mp read
    cases same
    exact Nat.max_le.mpr ⟨inner.value first, inner.items following⟩
  · cases read
    exact Nat.max_le.mpr ⟨inner.value first, Nat.zero_le depth⟩
  · cases read

theorem nextFields {found : List (String × Json)}
    (read : readFields (fuel + 1) depth cs = some (found, rest)) : depthFields found ≤ depth := by
  unfold readFields at read
  obtain ⟨⟨name, tail⟩, _, read⟩ := Option.bind_eq_some_iff.mp read
  dsimp only at read
  split at read
  case h_2 => cases read
  obtain ⟨_, _, read⟩ := Option.bind_eq_some_iff.mp read
  obtain ⟨⟨value, tail⟩, first, read⟩ := Option.bind_eq_some_iff.mp read
  dsimp only at read
  split at read
  · obtain ⟨⟨others, _⟩, following, same⟩ := Option.bind_eq_some_iff.mp read
    cases same
    exact Nat.max_le.mpr ⟨inner.value first, inner.fields following⟩
  · cases read
    exact Nat.max_le.mpr ⟨inner.value first, Nat.zero_le depth⟩
  · cases read

end Json.ReadsWithin

theorem Json.readWithin (fuel : Nat) : Json.ReadsWithin fuel := by
  induction fuel with
  | zero => exact ⟨nofun, nofun, nofun⟩
  | succ fuel ih => exact ⟨ih.nextValue, ih.nextItems, ih.nextFields⟩

theorem Json.readDepth {text : String} {value : Json} (read : Json.read text = some value) :
    value.depth ≤ Json.depthLimit := by
  unfold Json.read at read
  dsimp only at read
  split at read
  · next found =>
    split at read
    · cases read
      exact (Json.readWithin _).value found
    · cases read
  · cases read

end PageCheck

import PageCheck.Yaml.Scalar
import PageCheck.Yaml.Token

/-!
Cutting a text into tokens. What stands before a colon becomes a key only when the colon is met, so
the place where a key may begin is remembered, and the tokens of the map are put there afterwards.
-/
namespace PageCheck.Yaml

structure PossibleKey where
  required : Bool
  position : Nat
  place : Cursor
  deriving Repr, Inhabited

structure Scan where
  cursor : Cursor
  tokens : Array Token
  indent : Int
  outer : List Int
  flow : Nat
  keyAllowed : Bool
  keys : List (Option PossibleKey)
  deriving Repr, Inhabited

namespace Scan

def start (text : List Char) : Scan :=
  { cursor := .ofText text, tokens := #[], indent := -1, outer := [], flow := 0,
    keyAllowed := true, keys := [none] }

def inFlow (s : Scan) : Bool := s.flow ≠ 0

def push (s : Scan) (token : Token) : Scan := { s with tokens := s.tokens.push token }

def insertAt (s : Scan) (position : Nat) (token : Token) : Scan :=
  { s with tokens := s.tokens.insertIdxIfInBounds position token }

def skip (s : Scan) (n : Nat) : Scan := { s with cursor := s.cursor.skipMany n }

def longestKey : Nat := 1024

def isStale (here : Cursor) (key : PossibleKey) : Bool :=
  key.place.line < here.line || key.place.index + longestKey < here.index

def dropStaleKeys (s : Scan) : Option Scan :=
  let stale (key : Option PossibleKey) : Bool := key.any (isStale s.cursor)
  if s.keys.any fun key => stale key && key.any PossibleKey.required then none
  else some { s with keys := s.keys.map fun key => if stale key then none else key }

def dropKey (s : Scan) : Option Scan :=
  match s.keys with
  | some key :: rest => if key.required then none else some { s with keys := none :: rest }
  | _ => some s

def saveKey (s : Scan) : Option Scan :=
  if s.keyAllowed then
    (s.dropKey).map fun s =>
      let key := { required := !s.inFlow && s.indent = (s.cursor.column : Int),
                   position := s.tokens.size, place := s.cursor }
      { s with keys := some key :: s.keys.tail }
  else some s

def openBlock (s : Scan) (column : Nat) (position : Nat) (token : Token) : Scan :=
  if !s.inFlow && s.indent < (column : Int) then
    ({ s with outer := s.indent :: s.outer, indent := column }).insertAt position token
  else s

def closeBlocks (column : Int) (s : Scan) : Scan :=
  if s.inFlow then s
  else
    let closed := (s.indent :: s.outer).takeWhile fun indent => column < indent
    let left := (s.indent :: s.outer).drop closed.length
    { s with
      tokens := closed.foldl (fun tokens _ => tokens.push .blockEnd) s.tokens
      indent := left.headD (-1)
      outer := left.tail }

def skipBlank : (turns : Nat) → Scan → Scan
  | 0, s => s
  | turns + 1, s =>
    let c := s.cursor.skipWhile fun ch => ch = ' ' || ((s.inFlow || !s.keyAllowed) && ch = '\t')
    let c := if c.next '#' then c.skipWhile fun ch => !isBreak ch else c
    if c.nextIs isBreak then
      skipBlank turns { s with cursor := c.skipBreak, keyAllowed := s.keyAllowed || !s.inFlow }
    else { s with cursor := c }

def readVersionNumber (c : Cursor) : Option (Nat × Cursor) :=
  let digits := c.takeWhile Text.isAsciiDigit
  if 9 < digits.length then none
  else (Text.natural? 10 digits).map fun n => (n, c.skipMany digits.length)

def isAddressChar (verbatim : Bool) (c : Char) : Bool :=
  isWordChar c || c ∈ [';', '/', '?', ':', '@', '&', '=', '+', '$', '.', '%', '!', '~', '*', '\'',
    '(', ')'] || (verbatim && (c = ',' || c = '[' || c = ']'))

def decodeAddress (address : List Char) : Option String :=
  (bytes (address.length + 1) address).bind fun found =>
    String.fromUTF8? (ByteArray.mk found.toArray)
where
  bytes : (turns : Nat) → List Char → Option (List UInt8)
    | 0, _ => none
    | _, [] => some []
    | turns + 1, '%' :: rest =>
      match rest with
      | a :: b :: rest => do
        let byte ← Text.natural? 16 [a, b]
        let others ← bytes turns rest
        return byte.toUInt8 :: others
      | _ => none
    | turns + 1, c :: rest =>
      (bytes turns rest).map fun others => (String.singleton c).toUTF8.toList ++ others

def readAddress (verbatim : Bool) (c : Cursor) : Option (String × Cursor) :=
  let address := c.takeWhile (isAddressChar verbatim)
  if address.isEmpty then none
  else (decodeAddress address).map fun text => (text, c.skipMany address.length)

def readHandle (c : Cursor) : Option (String × Cursor) :=
  if c.next '!' then
    let word := c.skip.takeWhile isWordChar
    let after := c.skipMany (word.length + 1)
    if after.next '!' then some (String.ofList ('!' :: word ++ ['!']), after.skip)
    else some (String.ofList ('!' :: word), after)
  else none

def readDirective (c : Cursor) : Option (Token × Cursor) := do
  let name := c.skip.takeWhile isWordChar
  let after := c.skipMany (name.length + 1)
  if name.isEmpty || !after.blank then none
  else
    let body := after.skipWhile isSpace
    let (token, c) ← if name = ['Y', 'A', 'M', 'L'] then readVersion body
      else if name = ['T', 'A', 'G'] then readTagDirective body else none
    let c := c.skipWhile isSpace
    let c := if c.next '#' then c.skipWhile fun ch => !isBreak ch else c
    if c.endOfLine then some (token, c.skipBreak) else none
where
  readVersion (c : Cursor) : Option (Token × Cursor) := do
    let (major, c) ← readVersionNumber c
    if c.next '.' then
      let (minor, c) ← readVersionNumber c.skip
      return (.versionDirective major minor, c)
    else none
  readTagDirective (c : Cursor) : Option (Token × Cursor) := do
    let (handle, c) ← readHandle c
    if (handle ≠ "!" && handle.toList.getLast? ≠ some '!') || !c.nextIs isSpace then none
    else
      let (start, c) ← readAddress true (c.skipWhile isSpace)
      if c.blank then some (.tagDirective handle start, c) else none

def readName (c : Cursor) : Option (String × Cursor) :=
  let name := c.skip.takeWhile isWordChar
  let after := c.skipMany (name.length + 1)
  let ends := after.blank ||
    after.nextIs fun ch => ch ∈ ['?', ':', ',', ']', '\x7d', '%', '@', '\x60']
  if name.isEmpty || !ends then none else some (String.ofList name, after)

def readTag (flow : Bool) (c : Cursor) : Option (Token × Cursor) := do
  let (handle, ending, c) ←
    if c.skip.next '<' then
      match readAddress true (c.skipMany 2) with
      | some (ending, c) => if c.next '>' then some ("", ending, c.skip) else none
      | none => none
    else
      match readHandle c with
      | none => none
      | some (handle, after) =>
        if 2 ≤ handle.length && handle.toList.getLast? = some '!' then
          (readAddress false after).map fun (ending, c) => (handle, ending, c)
        else
          -- the word belongs to the address
          let address := c.skip.takeWhile (isAddressChar false)
          match decodeAddress address with
          | none => none
          | some ending =>
            let c := c.skipMany (address.length + 1)
            if ending.isEmpty then some ("", "!", c) else some ("!", ending, c)
  if c.blank || (flow && c.next ',') then some (.tag handle ending, c) else none

def endBlocks (s : Scan) : Option Scan :=
  ((s.closeBlocks (-1)).dropKey).map fun s => { s with keyAllowed := false }

def fetchDirective (s : Scan) : Option Scan := do
  let s ← s.endBlocks
  let (token, cursor) ← readDirective s.cursor
  return { s.push token with cursor }

def fetchBorder (token : Token) (s : Scan) : Option Scan :=
  s.endBlocks.map fun s => (s.skip 3).push token

def fetchFlowStart (token : Token) (s : Scan) : Option Scan :=
  s.saveKey.map fun s =>
    ({ s with keys := none :: s.keys, flow := s.flow + 1, keyAllowed := true }.skip 1).push token

def fetchFlowEnd (token : Token) (s : Scan) : Option Scan :=
  s.dropKey.map fun s =>
    let s := if s.inFlow then { s with keys := s.keys.tail, flow := s.flow - 1 } else s
    ({ s with keyAllowed := false }.skip 1).push token

def fetchFlowEntry (s : Scan) : Option Scan :=
  s.dropKey.map fun s => ({ s with keyAllowed := true }.skip 1).push .flowEntry

def fetchBlockEntry (s : Scan) : Option Scan :=
  if !s.inFlow && !s.keyAllowed then none
  else
    (s.openBlock s.cursor.column s.tokens.size .blockSequenceStart).dropKey.map fun s =>
      ({ s with keyAllowed := true }.skip 1).push .blockEntry

def fetchKey (s : Scan) : Option Scan :=
  if !s.inFlow && !s.keyAllowed then none
  else
    (s.openBlock s.cursor.column s.tokens.size .blockMappingStart).dropKey.map fun s =>
      ({ s with keyAllowed := !s.inFlow }.skip 1).push .key

def fetchValue (s : Scan) : Option Scan :=
  match s.keys with
  | some key :: rest =>
    let s := (s.insertAt key.position .key).openBlock key.place.column key.position
      .blockMappingStart
    some (({ s with keys := none :: rest, keyAllowed := false }.skip 1).push .value)
  | _ =>
    if !s.inFlow && !s.keyAllowed then none
    else
      let s := s.openBlock s.cursor.column s.tokens.size .blockMappingStart
      some (({ s with keyAllowed := !s.inFlow }.skip 1).push .value)

def fetchKeyed (read : Scan → Option (Token × Cursor)) (s : Scan) : Option Scan := do
  let s ← s.saveKey
  let (token, cursor) ← read s
  return { s.push token with cursor, keyAllowed := false }

def fetchAlias : Scan → Option Scan :=
  fetchKeyed fun s => (readName s.cursor).map fun (name, c) => (.alias name, c)

def fetchAnchor : Scan → Option Scan :=
  fetchKeyed fun s => (readName s.cursor).map fun (name, c) => (.anchor name, c)

def fetchTag : Scan → Option Scan := fetchKeyed fun s => readTag s.inFlow s.cursor

def fetchQuoted (quote : Char) : Scan → Option Scan :=
  fetchKeyed fun s => (readQuoted quote s.cursor).map fun (text, c) =>
    (.scalar { text, plain := false }, c)

def fetchBlockScalar (literal : Bool) (s : Scan) : Option Scan := do
  let s ← s.dropKey
  let (text, cursor) ← readBlock literal s.indent s.cursor
  return { s.push (.scalar { text, plain := false }) with cursor, keyAllowed := true }

def fetchPlain (s : Scan) : Option Scan := do
  let s ← s.saveKey
  let (text, cursor, broken) ← readPlain s.inFlow (s.indent + 1).toNat s.cursor
  return { s.push (.scalar { text, plain := true }) with cursor, keyAllowed := broken }

def indicators : List Char :=
  ['-', '?', ':', ',', '[', ']', '\x7b', '\x7d', '#', '&', '*', '!', '|', '>', '\'', '\x22', '%',
   '@', '\x60']

def beginsPlain (s : Scan) (ch : Char) : Bool :=
  let c := s.cursor
  !(isSpaceOrBreak ch || ch ∈ indicators) || (ch = '-' && !c.skip.nextIs isSpace) ||
    (!s.inFlow && (ch = '?' || ch = ':') && !c.blankAt 1)

def fetch (s : Scan) (ch : Char) : Option Scan :=
  let c := s.cursor
  if c.column = 0 && ch = '%' then s.fetchDirective
  else if c.separatesDocuments then
    s.fetchBorder (if ch = '-' then .documentStart else .documentEnd)
  else if ch = '[' then s.fetchFlowStart .flowSequenceStart
  else if ch = '\x7b' then s.fetchFlowStart .flowMappingStart
  else if ch = ']' then s.fetchFlowEnd .flowSequenceEnd
  else if ch = '\x7d' then s.fetchFlowEnd .flowMappingEnd
  else if ch = ',' then s.fetchFlowEntry
  else if ch = '-' && c.blankAt 1 then s.fetchBlockEntry
  else if ch = '?' && (s.inFlow || c.blankAt 1) then s.fetchKey
  else if ch = ':' && (s.inFlow || c.blankAt 1) then s.fetchValue
  else if ch = '*' then s.fetchAlias
  else if ch = '&' then s.fetchAnchor
  else if ch = '!' then s.fetchTag
  else if ch = '|' && !s.inFlow then s.fetchBlockScalar true
  else if ch = '>' && !s.inFlow then s.fetchBlockScalar false
  else if ch = '\'' || ch = '\x22' then s.fetchQuoted ch
  else if s.beginsPlain ch then s.fetchPlain
  else none

def finish (s : Scan) : Option Scan := (s.closeBlocks (-1)).dropKey

def run : (turns : Nat) → Scan → Option (List Token)
  | 0, _ => none
  | turns + 1, s => do
    let s ← (skipBlank (s.cursor.rest.length + 1) s).dropStaleKeys
    let s := s.closeBlocks s.cursor.column
    match s.cursor.rest with
    | [] => s.finish.map fun s => s.tokens.toList
    | ch :: _ =>
      let s ← s.fetch ch
      run turns s

end Scan

def Token.ofText (text : String) : Option (List Token) :=
  let cs := match text.toList with
    | '\ufeff' :: rest => rest
    | cs => cs
  if cs.all isAllowed then Scan.run (cs.length + 1) (.start cs) else none

end PageCheck.Yaml

import PageCheck.Text.Digit
import PageCheck.Yaml.Cursor

/-!
Reading the text of scalars: quoted, plain, and as blocks. Line breaks inside a scalar are folded
into spaces where its style says so. The first number of each loop bounds its turns; it is the
number of characters left.
-/
namespace PageCheck.Yaml

structure Gap where
  spaces : List Char
  first : List Char
  further : List Char
  broken : Bool
  deriving Repr, Inhabited

namespace Gap

def none : Gap := { spaces := [], first := [], further := [], broken := false }

def fold (g : Gap) : List Char :=
  if g.broken then
    if g.first = ['\n'] then if g.further.isEmpty then [' '] else g.further
    else g.first ++ g.further
  else g.spaces

def read : (turns : Nat) → Gap → Cursor → Gap × Cursor
  | 0, g, c => (g, c)
  | turns + 1, g, c =>
    match c.rest with
    | [] => (g, c)
    | ch :: _ =>
      if isSpace ch then
        read turns (if g.broken then g else { g with spaces := g.spaces ++ [ch] }) c.skip
      else if isBreak ch then
        let g :=
          if g.broken then { g with further := g.further ++ c.breakText }
          else { g with spaces := [], first := c.breakText, broken := true }
        read turns g c.skipBreak
      else (g, c)

end Gap

def escapes : List (Char × Char) :=
  [('0', '\x00'), ('a', '\x07'), ('b', '\x08'), ('t', '\t'), ('\t', '\t'), ('n', '\n'),
   ('v', '\x0b'), ('f', '\x0c'), ('r', '\r'), ('e', '\x1b'), (' ', ' '), ('\x22', '\x22'),
   ('/', '/'), ('\\', '\\'), ('N', '\u0085'), ('_', '\u00a0'), ('L', '\u2028'), ('P', '\u2029')]

def codeLengths : List (Char × Nat) := [('x', 2), ('u', 4), ('U', 8)]

def readEscape (c : Cursor) : Option (Char × Cursor) :=
  match c.rest with
  | [] => none
  | mark :: rest =>
    match escapes.lookup mark, codeLengths.lookup mark with
    | some ch, _ => some (ch, c.skip)
    | none, some length =>
      if rest.length < length then none
      else
        match Text.natural? 16 (rest.take length) with
        | none => none
        | some code =>
          if (0xd800 ≤ code ∧ code ≤ 0xdfff) ∨ 0x10ffff < code then none
          else some (Char.ofNat code, c.skipMany (length + 1))
    | none, none => none

def readQuotedRun (quote : Char) :
    (turns : Nat) → (done : List Char) → Cursor → Option (List Char × Cursor × Bool)
  | 0, _, _ => none
  | turns + 1, done, c =>
    match c.rest with
    | [] => some (done, c, false)
    | ch :: rest =>
      if isSpaceOrBreak ch then some (done, c, false)
      else if quote = '\'' then
        if ch = '\'' then
          if rest.head? = some '\'' then readQuotedRun quote turns ('\'' :: done) (c.skipMany 2)
          else some (done, c, false)
        else readQuotedRun quote turns (ch :: done) c.skip
      else if ch = quote then some (done, c, false)
      else if ch = '\\' then
        if rest.head?.any isBreak then some (done, c.skip.skipBreak, true)
        else
          match readEscape c.skip with
          | some (ch, c) => readQuotedRun quote turns (ch :: done) c
          | none => none
      else readQuotedRun quote turns (ch :: done) c.skip

def readQuotedTail (quote : Char) :
    (turns : Nat) → (done : List Char) → Cursor → Option (List Char × Cursor)
  | 0, _, _ => none
  | turns + 1, done, c =>
    if c.separatesDocuments || c.atEnd then none
    else
      match readQuotedRun quote (c.rest.length + 1) done c with
      | none => none
      | some (done, c, escaped) =>
        if c.next quote then some (done, c.skip)
        else
          let (gap, c) := Gap.read (c.rest.length + 1) { Gap.none with broken := escaped } c
          readQuotedTail quote turns (gap.fold.reverse ++ done) c

def readQuoted (quote : Char) (c : Cursor) : Option (String × Cursor) :=
  (readQuotedTail quote (c.rest.length + 1) [] c.skip).map fun (done, c) =>
    (String.ofList done.reverse, c)

def isFlowMark (c : Char) : Bool := c = ',' || c = '[' || c = ']' || c = '\x7b' || c = '\x7d'

inductive RunEnd where
  | space | mark | fault
  deriving DecidableEq, Repr

def readPlainRun (flow : Bool) :
    (turns : Nat) → (done : List Char) → Cursor → List Char × Cursor × RunEnd
  | 0, done, c => (done, c, .fault)
  | turns + 1, done, c =>
    match c.rest with
    | [] => (done, c, .space)
    | ch :: rest =>
      if isSpaceOrBreak ch then (done, c, .space)
      else if flow && ch = ':' && rest.head?.any (fun x => isFlowMark x || x = '?') then
        (done, c, .fault)
      else if (ch = ':' && c.blankAt 1) || (flow && isFlowMark ch) then (done, c, .mark)
      else readPlainRun flow turns (ch :: done) c.skip

def tabBefore (indent : Nat) : (turns : Nat) → (broken : Bool) → Cursor → Bool
  | 0, _, _ => false
  | turns + 1, broken, c =>
    match c.rest with
    | [] => false
    | ch :: _ =>
      if isSpace ch then
        (broken && c.column < indent && ch = '\t') || tabBefore indent turns broken c.skip
      else if isBreak ch then tabBefore indent turns true c.skipBreak
      else false

def readPlainTail (flow : Bool) (indent : Nat) :
    (turns : Nat) → (done : List Char) → Gap → Cursor → Option (List Char × Cursor × Bool)
  | 0, _, _, _ => none
  | turns + 1, done, gap, c =>
    if c.separatesDocuments || c.next '#' then some (done, c, gap.broken)
    else
      let (run, after, runEnd) := readPlainRun flow (c.rest.length + 1) [] c
      let taken := !run.isEmpty
      let done := if taken then run ++ gap.fold.reverse ++ done else done
      let gap := if taken then Gap.none else gap
      match runEnd with
      | .fault => none
      | .mark => some (done, after, gap.broken)
      | .space =>
        if after.atEnd then some (done, after, gap.broken)
        else if tabBefore indent (after.rest.length + 1) gap.broken after then none
        else
          let (gap, c) := Gap.read (after.rest.length + 1) gap after
          if !flow && c.column < indent then some (done, c, gap.broken)
          else readPlainTail flow indent turns done gap c

def readPlain (flow : Bool) (indent : Nat) (c : Cursor) : Option (String × Cursor × Bool) :=
  (readPlainTail flow indent (c.rest.length + 1) [] .none c).map fun (done, c, broken) =>
    (String.ofList done.reverse, c, broken)

inductive Chomping where
  | clip | strip | keep
  deriving DecidableEq, Repr

def readBlockHeader (c : Cursor) : Option (Chomping × Nat × Cursor) :=
  let (chomping, c) := readChomping c
  match readIndent c with
  | none => none
  | some (indent, c) =>
    if chomping = .clip then
      let (chomping, c) := readChomping c
      some (chomping, indent, c)
    else some (chomping, indent, c)
where
  readChomping (c : Cursor) : Chomping × Cursor :=
    if c.next '+' then (.keep, c.skip) else if c.next '-' then (.strip, c.skip) else (.clip, c)
  readIndent (c : Cursor) : Option (Nat × Cursor) :=
    match c.rest with
    | ch :: _ =>
      if ch = '0' then none
      else if Text.isAsciiDigit ch then some (ch.toNat - 48, c.skip)
      else some (0, c)
    | [] => some (0, c)

def readBlockBreaks (indent : Nat) :
    (turns : Nat) → (widest : Nat) → (breaks : List Char) → Cursor →
      Option (Nat × List Char × Cursor)
  | 0, _, _, _ => none
  | turns + 1, widest, breaks, c =>
    let room := if indent = 0 then c.rest.length else indent - c.column
    let c := c.skipMany ((c.rest.take room).takeWhile (· = ' ')).length
    let widest := max widest c.column
    if (indent = 0 || c.column < indent) && c.next '\t' then none
    else if c.nextIs isBreak then
      readBlockBreaks indent turns widest (breaks ++ c.breakText) c.skipBreak
    else some (widest, breaks, c)

def readBlockLines (literal : Bool) (indent : Nat) :
    (turns : Nat) → (done : List Char) → (wasSpaced : Bool) → (first further : List Char) →
      Cursor → Option (List Char × List Char × List Char × Cursor)
  | 0, _, _, _, _, _ => none
  | turns + 1, done, wasSpaced, first, further, c =>
    if c.column = indent && !c.atEnd then
      let spaced := c.nextIs isSpace
      let joint :=
        if !literal && first.head? = some '\n' && !wasSpaced && !spaced then
          if further.isEmpty then [' '] else further
        else first ++ further
      let line := c.takeWhile fun ch => !isBreak ch
      let c := c.skipMany line.length
      let done := line.reverse ++ joint.reverse ++ done
      let first := c.breakText
      match readBlockBreaks indent (c.rest.length + 1) 0 [] c.skipBreak with
      | none => none
      | some (_, further, c) => readBlockLines literal indent turns done spaced first further c
    else some (done, first, further, c)

def readBlock (literal : Bool) (outer : Int) (c : Cursor) : Option (String × Cursor) := do
  let (chomping, given, c) ← readBlockHeader c.skip
  let c := c.skipWhile isSpace
  let c := if c.next '#' then c.skipWhile fun ch => !isBreak ch else c
  if !c.endOfLine then none
  else
    let c := c.skipBreak
    let base := if 0 ≤ outer then outer.toNat else 0
    let fixed := if given = 0 then 0 else base + given
    let (widest, further, c) ← readBlockBreaks fixed (c.rest.length + 1) 0 [] c
    let indent := if fixed = 0 then max (max widest (outer + 1).toNat) 1 else fixed
    let (done, first, further, c) ← readBlockLines literal indent (c.rest.length + 1) [] false []
      further c
    let ending := match chomping with
      | .strip => []
      | .clip => first
      | .keep => first ++ further
    return (String.ofList (done.reverse ++ ending), c)

end PageCheck.Yaml

/-!
A place in a block-structured text: what is still to be read, and where it stands. Lines end at
line feeds, carriage returns, both together, and three further characters; columns count
characters.
-/
namespace PageCheck.Yaml

structure Cursor where
  rest : List Char
  index : Nat
  line : Nat
  column : Nat
  deriving Repr, Inhabited

def isSpace (c : Char) : Bool := c = ' ' || c = '\t'

def isBreak (c : Char) : Bool :=
  c = '\n' || c = '\r' || c = '\u0085' || c = '\u2028' || c = '\u2029'

def isSpaceOrBreak (c : Char) : Bool := isSpace c || isBreak c

def isAllowed (c : Char) : Bool :=
  let n := c.toNat
  n == 0x09 || n == 0x0a || n == 0x0d || (0x20 ≤ n && n ≤ 0x7e) || n == 0x85 ||
    (0xa0 ≤ n && n ≤ 0xfffd && n != 0xfeff) || 0x10000 ≤ n

def isWordChar (c : Char) : Bool := c.isAlphanum || c = '_' || c = '-'

namespace Cursor

def ofText (text : List Char) : Cursor := { rest := text, index := 0, line := 0, column := 0 }

def atEnd (c : Cursor) : Bool := c.rest.isEmpty

def nextIs (c : Cursor) (p : Char → Bool) : Bool := c.rest.head?.any p

def next (c : Cursor) (expected : Char) : Bool := c.rest.head? = some expected

def blankAt (c : Cursor) (n : Nat) : Bool := (c.rest.drop n).head?.all isSpaceOrBreak

def blank (c : Cursor) : Bool := c.blankAt 0

def endOfLine (c : Cursor) : Bool := c.rest.head?.all isBreak

def skip (c : Cursor) : Cursor :=
  match c.rest with
  | [] => c
  | _ :: rest => { c with rest, index := c.index + 1, column := c.column + 1 }

def skipMany (c : Cursor) : Nat → Cursor
  | 0 => c
  | n + 1 => c.skip.skipMany n

def skipBreak (c : Cursor) : Cursor :=
  match c.rest with
  | '\r' :: '\n' :: rest => { rest, index := c.index + 2, line := c.line + 1, column := 0 }
  | ch :: rest =>
    if isBreak ch then { rest, index := c.index + 1, line := c.line + 1, column := 0 } else c
  | [] => c

def breakText (c : Cursor) : List Char :=
  match c.rest with
  | [] => []
  | ch :: _ => if ch = '\u2028' || ch = '\u2029' then [ch] else ['\n']

def skipWhile (p : Char → Bool) (c : Cursor) : Cursor :=
  c.skipMany (c.rest.takeWhile p).length

def takeWhile (p : Char → Bool) (c : Cursor) : List Char := c.rest.takeWhile p

def separatesDocuments (c : Cursor) : Bool :=
  c.column = 0 && c.blankAt 3 &&
    (c.rest.take 3 = ['-', '-', '-'] || c.rest.take 3 = ['.', '.', '.'])

end Cursor

end PageCheck.Yaml

import PageCheck.Text.Digit
import PageCheck.Text.Find

/-!
Strings of one line and of several lines, with escapes or taken literally. Each reader takes the
text after the opening quotes and returns the string and what follows it; its first number bounds
its turns by the length of the text.
-/
namespace PageCheck.Toml

def isSpace (c : Char) : Bool := c = ' ' || c = '\t'

def isPlain (c : Char) : Bool := c = '\t' || (0x20 ≤ c.toNat && c.toNat ≠ 0x7f)

def afterBreak? : List Char → Option (List Char)
  | '\n' :: rest => some rest
  | '\r' :: '\n' :: rest => some rest
  | _ => none

def readCode (length : Nat) (cs : List Char) : Option (Char × List Char) :=
  if cs.length < length then none
  else
    match Text.natural? 16 (cs.take length) with
    | none => none
    | some code =>
      if (0xd800 ≤ code ∧ code ≤ 0xdfff) ∨ 0x10ffff < code then none
      else some (Char.ofNat code, cs.drop length)

def readEscape : List Char → Option (Char × List Char)
  | '\x22' :: rest => some ('\x22', rest)
  | '\\' :: rest => some ('\\', rest)
  | 'b' :: rest => some ('\x08', rest)
  | 'f' :: rest => some ('\x0c', rest)
  | 'n' :: rest => some ('\n', rest)
  | 'r' :: rest => some ('\r', rest)
  | 't' :: rest => some ('\t', rest)
  | 'u' :: rest => readCode 4 rest
  | 'U' :: rest => readCode 8 rest
  | _ => none

def readBasic : (turns : Nat) → (done : List Char) → List Char → Option (String × List Char)
  | 0, _, _ => none
  | _, _, [] => none
  | turns + 1, done, c :: rest =>
    if c = '\x22' then some (String.ofList done.reverse, rest)
    else if c = '\\' then
      (readEscape rest).bind fun (c, rest) => readBasic turns (c :: done) rest
    else if isPlain c then readBasic turns (c :: done) rest
    else none

def readLiteral (cs : List Char) : Option (String × List Char) :=
  match Text.cut (· = '\'') cs with
  | (content, _ :: rest) =>
    if content.all isPlain then some (String.ofList content, rest) else none
  | (_, []) => none

def closing? (quote : Char) (cs : List Char) : Option (List Char × List Char) :=
  (Text.after? [quote, quote, quote] cs).map fun rest =>
    let extra := (rest.take 2).takeWhile (· = quote)
    (extra, rest.drop extra.length)

def skipBlankLines : (turns : Nat) → List Char → List Char
  | 0, cs => cs
  | turns + 1, cs =>
    match afterBreak? cs with
    | some rest => skipBlankLines turns rest
    | none =>
      match cs with
      | c :: rest => if isSpace c then skipBlankLines turns rest else cs
      | [] => []

def afterJoin? (cs : List Char) : Option (List Char) :=
  (afterBreak? (cs.dropWhile isSpace)).map (skipBlankLines cs.length)

def readLines (quote : Char) (escapes : Bool) :
    (turns : Nat) → (done : List Char) → List Char → Option (String × List Char)
  | 0, _, _ => none
  | turns + 1, done, cs =>
    match closing? quote cs with
    | some (extra, rest) => some (String.ofList (extra ++ done).reverse, rest)
    | none =>
      match afterBreak? cs with
      | some rest => readLines quote escapes turns ('\n' :: done) rest
      | none =>
        match cs with
        | [] => none
        | c :: rest =>
          if escapes ∧ c = '\\' then
            match afterJoin? rest with
            | some rest => readLines quote escapes turns done rest
            | none =>
              (readEscape rest).bind fun (c, rest) => readLines quote escapes turns (c :: done) rest
          else if isPlain c then readLines quote escapes turns (c :: done) rest
          else none

def readMultiline (quote : Char) (escapes : Bool) (cs : List Char) : Option (String × List Char) :=
  readLines quote escapes (cs.length + 1) [] ((afterBreak? cs).getD cs)

def readLineString : List Char → Option (String × List Char)
  | '\x22' :: rest => readBasic (rest.length + 1) [] rest
  | '\'' :: rest => readLiteral rest
  | _ => none

def readString : List Char → Option (String × List Char)
  | '\x22' :: '\x22' :: '\x22' :: rest => readMultiline '\x22' true rest
  | '\'' :: '\'' :: '\'' :: rest => readMultiline '\'' false rest
  | cs => readLineString cs

end PageCheck.Toml

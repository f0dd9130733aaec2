import PageCheck.Failure
import PageCheck.Text.Blank
import PageCheck.Text.Digit
import PageCheck.Text.Find

/-!
Judging console entries. An entry fails a page when it names a script error, or when it is logged
against the page's address and holds a failing status code that stands alone between white space.
-/
namespace PageCheck.Console

def scriptErrors : List String :=
  ["SyntaxError", "EvalError", "ReferenceError", "RangeError", "TypeError", "URIError"]

def namesScriptError (entry : String) : Bool :=
  scriptErrors.any fun name => Text.occurs name.toList entry.toList

/-- Three digits that look like a failing status, at the beginning of a text, with white space or
the end after them. Digits of every script count. -/
def mark? : List Char → Option (List Char)
  | a :: b :: c :: rest =>
    if (a = '4' || a = '5') && Text.isDecimalDigit b && Text.isDecimalDigit c &&
        rest.head?.all Text.isBlank then some [a, b, c]
    else none
  | _ => none

/-- The marks that follow white space, after the first `skip` characters. A mark takes the white
space after it, which therefore cannot begin the next one. -/
def marksAfter : (skip : Nat) → List Char → List (List Char)
  | _, [] => []
  | skip + 1, _ :: rest => marksAfter skip rest
  | 0, c :: rest =>
    match if Text.isBlank c then mark? rest else none with
    | some mark => mark :: marksAfter 4 rest
    | none => marksAfter 0 rest

def marks (text : List Char) : List (List Char) :=
  match mark? text with
  | some mark => mark :: marksAfter 4 text
  | none => marksAfter 0 text

def status? (mark : List Char) : Option Nat :=
  (Text.natural? 10 mark).filter fun code => 400 ≤ code && code ≤ 599

def separator : List Char := [' ', '-', ' ']

def judge (url entry : String) : Option Failure :=
  if namesScriptError entry then some (.script entry)
  else do
    let text ← Text.after? (url.toList ++ separator) entry.toList
    let code ← (marks text).findSome? status?
    return .status code entry

def scan (url : String) (entries : List String) : Option Failure := entries.findSome? (judge url)

end PageCheck.Console

import PageCheck.Locator
import PageCheck.Json.Printer
import PageCheck.Text.Quoted

/-!
Why a check fails. A `Fault` is a mistake in a scenario, a `HostError` comes from the browser, and
a `Failure` is either of them, or a verdict on a page, or a failed read. Causes are data; each type
has one function that words them. The words for a failed read come from elsewhere.
-/
namespace PageCheck

inductive HostError where
  | timeout (awaited : String)
  | noAlert
  | stale (element : String)
  | command (reason : String)
  | session (reason : String)
  deriving DecidableEq, Repr, Inhabited

namespace HostError

def message : HostError → String
  | timeout awaited => "Timeout waiting for: " ++ awaited
  | noAlert => "No alert is open"
  | stale element => "Stale element: " ++ element
  | command reason => "Command failed: " ++ reason
  | session reason => "Session error: " ++ reason

def isTransient : HostError → Bool
  | timeout _ | stale _ => true
  | _ => false

end HostError

inductive Shape where
  | natural | count | list | text | textOrRecord | nothing
  deriving DecidableEq, Repr, Inhabited

def Shape.describe : Shape → String
  | .natural => "u64"
  | .count => "usize"
  | .list => "a sequence"
  | .text => "a string"
  | .textOrRecord => "string or map"
  | .nothing => "unit"

def Json.describe : Json → String
  | .null => "null"
  | .bool true => "boolean `true`"
  | .bool false => "boolean `false`"
  | .number (.integer value) => "integer `" ++ (Number.integer value).toText ++ "`"
  | .number (.real value) => "floating point `" ++ (Number.real value).toText ++ "`"
  | .text value => "string " ++ Text.quoted value
  | .list _ => "sequence"
  | .record _ => "map"

inductive ShapeFault where
  | wrongKind (found : Json) (expected : Shape)
  | outOfRange (found : Json) (expected : Shape)
  | notDeferred
  | unknownAnswer (found : String)
  | notSingle
  deriving Repr, Inhabited

def ShapeFault.message : ShapeFault → String
  | .wrongKind found expected =>
    "invalid type: " ++ found.describe ++ ", expected " ++ expected.describe
  | .outOfRange found expected =>
    "invalid value: " ++ found.describe ++ ", expected " ++ expected.describe
  | .notDeferred => "data did not match any variant of untagged enum Deferred"
  | .unknownAnswer found => "unknown variant `" ++ found ++ "`, expected `accept` or `dismiss`"
  | .notSingle => "invalid value: map, expected map with a single key"

inductive Family where
  | action | assertion
  deriving DecidableEq, Repr, Inhabited

def Family.describe : Family → String
  | .action => "action"
  | .assertion => "assertion"

inductive Fault where
  | noDirective (family : Family)
  | manyDirectives (family : Family) (keys : List String)
  | unknownDirective (family : Family) (key : String)
  | missingModifier (directive modifier : String)
  | unsupported (key directive : String)
  | singleValueOnly (directive : String)
  | bothValues (directive : String)
  | noValues (directive : String)
  | manyAttributes (directive : String) (keys : List String)
  | namelessAttribute (key : String)
  | attributeConflict (key other : String)
  | misfit (key : String) (why : ShapeFault)
  | clearType (found : String)
  | unknownFrame (found : String)
  | unknownTarget (found : String)
  | unknownType (found : String)
  | typeRecord
  | typeValue (found : Json)
  | unknownPredicate (name : String)
  | manyValues (values : List String)
  | wrongEntry (key expected found : String)
  | unresolved (key : String)
  | stated (message : String)
  deriving Repr, Inhabited

def Fault.message : Fault → String
  | .noDirective family => family.describe ++ " has no directive"
  | .manyDirectives family keys =>
    family.describe ++ " has more than one directive: " ++ String.intercalate ", " keys
  | .unknownDirective family key => "unknown " ++ family.describe ++ " directive `" ++ key ++ "`"
  | .missingModifier directive modifier => "`" ++ directive ++ "` requires a `" ++ modifier ++ "`"
  | .unsupported key directive => "`" ++ key ++ "` is not supported by `" ++ directive ++ "`"
  | .singleValueOnly directive => "`" ++ directive ++ "` accepts only a single `value`"
  | .bothValues directive => "`" ++ directive ++ "` declares both `value` and `values`"
  | .noValues directive => "`" ++ directive ++ "` requires `value` or `values`"
  | .manyAttributes directive keys =>
    "`" ++ directive ++ "` declares more than one attr_ key: " ++ String.intercalate ", " keys
  | .namelessAttribute key => "`" ++ key ++ "` names no attribute"
  | .attributeConflict key other => "`" ++ key ++ "` cannot be combined with `" ++ other ++ "`"
  | .misfit key why => "invalid `" ++ key ++ "`: " ++ why.message
  | .clearType found => "`clear` does not support type `" ++ found ++ "`"
  | .unknownFrame found =>
    "`switchTo` expects a locator or `default`, found `" ++ found ++ "`"
  | .unknownTarget found =>
    "unknown pseudo-locator `" ++ found ++ "`; expected `html`, `url` or a locator"
  | .unknownType found => "unknown type `" ++ found ++ "`"
  | .typeRecord => "`type` object must be exactly `\x7battr: <name>\x7d`"
  | .typeValue found => "invalid type `" ++ found.compact ++ "`"
  | .unknownPredicate name => "unknown predicate `" ++ name ++ "`"
  | .manyValues values =>
    "Multiple values were detected `" ++ String.intercalate ", " values ++
      "`; `likes` needs exactly one"
  | .wrongEntry key expected found =>
    "placeholder `" ++ key ++ "` must map to " ++ expected ++ ", found " ++ found
  | .unresolved key => "placeholder `" ++ key ++ "` was used before being resolved"
  | .stated message => message

structure Mismatch where
  directive : String
  target : String
  kind : String
  expected : List String
  actual : List String
  deriving DecidableEq, Repr, Inhabited

def Mismatch.verb (m : Mismatch) : String :=
  if m.directive = "equals" then "is not"
  else if m.directive = "notEquals" then "should not be"
  else if m.directive = "likes" then "does not like"
  else if m.directive = "notLikes" then "should not like"
  else if m.directive = "checked" then "does not have checked"
  else if m.directive = "unchecked" then "should not have checked"
  else if m.directive = "selected" then "does not have selected"
  else if m.directive = "unselected" then "should not have selected"
  else "does not satisfy"

def Mismatch.message (m : Mismatch) : String :=
  m.directive ++ ": " ++ m.kind ++ " of " ++ m.target ++ " " ++ m.verb ++ " `" ++
    String.intercalate ", " m.expected ++ "` actual `" ++ String.intercalate ", " m.actual ++ "`"

inductive Source where
  | file | json | yaml
  deriving DecidableEq, Repr, Inhabited

/-- What the readers of documents say of a text that they refuse. -/
class Readers where
  scenario : Source → (text : String) → String
  mapping : Source → (text : String) → String
  settings : (text : String) → String

@[reducible]
def Readers.mute : Readers where
  scenario _ _ := ""
  mapping _ _ := ""
  settings _ := ""

structure PageContext where
  url : String
  step : String
  html : String
  deriving DecidableEq, Repr, Inhabited

inductive Failure where
  | noSuchElement (directive locator : String) (timeout : Nat)
  | elementExists (directive locator : String) (timeout : Nat)
  | mismatch (found : Mismatch)
  | script (entry : String)
  | status (code : Nat) (entry : String)
  | missingPlaceholder (key : String)
  | scenario (fault : Fault)
  | host (error : HostError)
  | unreadable (source : Source) (reason : String)
  | reported (context : PageContext) (cause : Failure)
  deriving Repr, Inhabited

namespace Failure

def name : Failure → String
  | noSuchElement .. => "NoSuchElementError"
  | elementExists .. => "ElementExistsError"
  | mismatch _ => "NotMatchError"
  | script _ => "JavascriptError"
  | status .. => "StatusCodeError"
  | missingPlaceholder _ => "MissingPlaceholderError"
  | scenario _ => "ConfigurationError"
  | host _ => "DriverError"
  | unreadable .. => "ParseError"
  | reported _ cause => cause.name

def isConfiguration : Failure → Bool
  | scenario _ | missingPlaceholder _ => true
  | reported _ cause => cause.isConfiguration
  | _ => false

def root : Failure → Failure
  | reported _ cause => cause.root
  | other => other

def isReported : Failure → Bool
  | reported .. => true
  | _ => false

def message : Failure → String
  | noSuchElement directive locator timeout =>
    directive ++ ": waiting for element to be located " ++ locator ++ " timed out after " ++
      toString timeout ++ " ms"
  | elementExists directive locator timeout =>
    directive ++ ": element located by " ++ locator ++ " still exists after " ++
      toString timeout ++ " ms"
  | mismatch found => found.message
  | script entry => "Javascript error was detected: " ++ entry
  | status code entry =>
    "The response error was detected (status " ++ toString code ++ "): " ++ entry
  | missingPlaceholder key => "Placeholder `" ++ key ++ "` is not defined"
  | scenario fault => "Invalid scenario: " ++ fault.message
  | host error => "Driver error: " ++ error.message
  | unreadable .file reason => "IO error: " ++ reason
  | unreadable .json reason => "JSON error: " ++ reason
  | unreadable .yaml reason => "YAML error: " ++ reason
  | reported context cause =>
    context.url ++ "\nJSON: " ++ context.step ++ "\nMessage: " ++ cause.message ++ "\n" ++
      context.html

end Failure

end PageCheck

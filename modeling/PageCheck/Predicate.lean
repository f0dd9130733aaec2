import PageCheck.Keyed
import PageCheck.Text.Find
import PageCheck.Text.Quoted

/-!
Predicates on lists of values, under the names by which `satisfies` calls them, and some rules to
make predicates of.
-/
namespace PageCheck

abbrev Predicates := Keyed (List String → Bool)

def Predicates.register (name : String) (predicate : List String → Bool) (known : Predicates) :
    Predicates :=
  Keyed.insert name predicate known

def Predicates.describe (known : Predicates) : String :=
  "PredicateRegistry \x7b predicates: [" ++
    String.intercalate ", " (known.names.map Text.quoted) ++ "] \x7d"

inductive Rule where
  | count (n : Nat)
  | joined (text : String)
  | all (text : String)
  | always
  | never
  deriving DecidableEq, Repr, Inhabited

def Rule.test : Rule → List String → Bool
  | .count n, values => values.length = n
  | .joined text, values => String.intercalate "," values = text
  | .all text, values => values.all fun value => Text.occurs text.toList value.toList
  | .always, _ => true
  | .never, _ => false

end PageCheck

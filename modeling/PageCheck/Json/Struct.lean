import PageCheck.Json.Basic

/-!
Records with fixed fields. Such a record may also be written as the list of its fields' values in
their fixed order, trailing ones missing; no field may be written twice.
-/
namespace PageCheck.Json

def distinct : List String → Bool
  | [] => true
  | name :: rest => !(name ∈ rest) && distinct rest

theorem distinctIff (names : List String) : distinct names = true ↔ names.Nodup := by
  induction names with
  | nil => simp [distinct]
  | cons name rest ih => simp [distinct, ih]

def closedFields (names : List String) : Json → Option Fields
  | .record fields =>
    if fields.all (fun field => field.1 ∈ names) && distinct (Keyed.names fields) then some fields
    else none
  | .list items => if items.length ≤ names.length then some (names.zip items) else none
  | _ => none

def openFields (names : List String) : Json → Option Fields
  | .record fields =>
    let known := fields.filter fun field => field.1 ∈ names
    if distinct (Keyed.names known) then some known else none
  | other => closedFields names other

end PageCheck.Json

/-
Records in JSON: a record is an object with its fields by name, or an array with its fields in
order.
-/
import PageScript.Json.Basic
import PageScript.Number.Binary

namespace PageScript.Json

/-- The fields of a record with the given names, as far as they are there. An object may have other
fields besides; an array may be shorter but not longer. -/
def record? (names : List String) : Json → Option (List (Option Json))
  | .obj fields => some (names.map fun name => (Json.obj fields).field? name)
  | .arr items =>
    if items.length ≤ names.length then
      some (items.map some ++ List.replicate (names.length - items.length) none)
    else none
  | _ => none

/-- A field that is a text if it is there, and otherwise a given one. -/
def textOr? (default : String) : Option Json → Option String
  | none => some default
  | some value => value.text?

def number? : Json → Option Float
  | .int n => some (Number.ofFraction (decide (n < 0)) n.natAbs 1)
  | .float x => some x
  | _ => none

end PageScript.Json

/-
JSON values.

Whole numbers and other numbers are told apart, since they are written differently. An object is a
list of named fields in the order in which they are written.
-/

namespace PageScript

/-- A JSON value. -/
inductive Json where
  | null
  | bool (value : Bool)
  | int (value : Int)
  | float (value : Float)
  | str (value : String)
  | arr (items : List Json)
  | obj (fields : List (String × Json))
  deriving Inhabited

namespace Json

/-- A list of named values with one entry set: an entry of that name is replaced, and a new one
goes in front of the first greater name. -/
def setField (name : String) (value : Json) : List (String × Json) → List (String × Json)
  | [] => [(name, value)]
  | (other, old) :: rest =>
    if name = other then (name, value) :: rest
    else if name < other then (name, value) :: (other, old) :: rest
    else (other, old) :: setField name value rest

/-- An object with its fields in the order of their names; of two fields of one name the later
one stays. -/
def ofFields (fields : List (String × Json)) : Json :=
  .obj (fields.foldl (fun sorted (name, value) => setField name value sorted) [])

def field? (name : String) : Json → Option Json
  | .obj fields => (fields.find? fun f => f.1 = name).map Prod.snd
  | _ => none

def text? : Json → Option String
  | .str s => some s
  | _ => none

def bool? : Json → Option Bool
  | .bool b => some b
  | _ => none

def items? : Json → Option (List Json)
  | .arr items => some items
  | _ => none

/-- A double as a JSON value; what is no finite number has none and becomes null. -/
def ofFloat (x : Float) : Json :=
  if x.isNaN || x.isInf then .null else .float x

end Json

end PageScript

/-
JSON values as text.

`compact` puts nothing between tokens; `pretty` puts each item and field on a line of its own,
indented by two blanks a level. A number that is not held as a whole number always shows a point or
an exponent, so it reads back as one.
-/
import PageScript.Json.Basic
import PageScript.Number.Decimal

namespace PageScript.Json

-- ======== scalars

def hexFour (n : Nat) : List Char :=
  let ds := Nat.toDigits 16 n
  List.replicate (4 - ds.length) '0' ++ ds

def escapedChar (c : Char) : List Char :=
  if c = '"' ∨ c = '\\' then ['\\', c]
  else if c = '\n' then ['\\', 'n']
  else if c = '\r' then ['\\', 'r']
  else if c = '\t' then ['\\', 't']
  else if c.toNat = 8 then ['\\', 'b']
  else if c.toNat = 12 then ['\\', 'f']
  else if c.toNat < 0x20 then '\\' :: 'u' :: hexFour c.toNat
  else [c]

def stringText (s : String) : String :=
  String.ofList ('"' :: s.toList.flatMap escapedChar ++ ['"'])

/-- A positive decimal as JSON text: positional from 10^-5 up to 10^16 and with a signed exponent
outside that range, always with a point or an exponent. -/
def digitsText (d : Number.Digits) : String :=
  let ds := Nat.toDigits 10 d.significand
  let point : Int := ds.length + d.exponent
  if 0 ≤ d.exponent ∧ point ≤ 16 then d.positional ++ ".0"
  else if -5 < point ∧ point ≤ 16 then d.positional
  else
    let mantissa :=
      match ds with
      | first :: second :: rest => String.ofList (first :: '.' :: second :: rest)
      | ds => String.ofList ds
    mantissa ++ (if point < 1 then "e" else "e+") ++ Number.intText (point - 1)

def floatText (x : Float) : String :=
  match Number.decode x with
  | .finite negative m q =>
    let sign := if negative then "-" else ""
    if m = 0 then sign ++ "0.0" else sign ++ digitsText (Number.shortest .even m q)
  | _ => "null"

-- ======== values

mutual

def compact : Json → String
  | .null => "null"
  | .bool value => if value then "true" else "false"
  | .int value => Number.intText value
  | .float value => floatText value
  | .str value => stringText value
  | .arr items => "[" ++ String.intercalate "," (compactItems items) ++ "]"
  | .obj fields => "\x7b" ++ String.intercalate "," (compactFields fields) ++ "\x7d"

def compactItems : List Json → List String
  | [] => []
  | item :: rest => compact item :: compactItems rest

def compactFields : List (String × Json) → List String
  | [] => []
  | (name, value) :: rest => (stringText name ++ ":" ++ compact value) :: compactFields rest

end

/-- Lines between an opening and a closing bracket, one level deeper than `indent`. -/
def bracketed (indent : Nat) (opening closing : String) : List String → String
  | [] => opening ++ closing
  | lines =>
    let margin := String.ofList ('\n' :: List.replicate (indent + 2) ' ')
    opening ++ margin ++ String.intercalate ("," ++ margin) lines ++
      String.ofList ('\n' :: List.replicate indent ' ') ++ closing

mutual

/-- A value over several lines, its first line already indented by `indent` blanks. -/
def prettyFrom (indent : Nat) : Json → String
  | .arr items => bracketed indent "[" "]" (prettyItems (indent + 2) items)
  | .obj fields => bracketed indent "\x7b" "\x7d" (prettyFields (indent + 2) fields)
  | .null => "null"
  | .bool value => if value then "true" else "false"
  | .int value => Number.intText value
  | .float value => floatText value
  | .str value => stringText value

def prettyItems (indent : Nat) : List Json → List String
  | [] => []
  | item :: rest => prettyFrom indent item :: prettyItems indent rest

def prettyFields (indent : Nat) : List (String × Json) → List String
  | [] => []
  | (name, value) :: rest =>
    (stringText name ++ ": " ++ prettyFrom indent value) :: prettyFields indent rest

end

def pretty (value : Json) : String :=
  prettyFrom 0 value

end PageScript.Json

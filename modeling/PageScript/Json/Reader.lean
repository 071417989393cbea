/-
Reading JSON text.

The whole text has to be one value with blanks around it. Arrays and objects may nest 127 deep.
A number without point and exponent that fits 64 bits is a whole number, any other number is the
nearest double, and one past the largest double is refused. Of two fields of one name the later one
stays.
-/
import PageScript.Json.Basic
import PageScript.Number.Decimal

namespace PageScript.Json

-- ======== scalars

def isSpace (c : Char) : Bool :=
  c = ' ' || c = '\t' || c = '\n' || c = '\r'

def skipSpace (cs : List Char) : List Char :=
  cs.dropWhile isSpace

def unit? (a b c d : Char) : Option Nat := do
  let digits ← [a, b, c, d].mapM Number.hexValue?
  return digits.foldl (fun n v => n * 16 + v) 0

def shortEscape? (c : Char) : Option Char :=
  match c with
  | '"' => some '"'
  | '\\' => some '\\'
  | '/' => some '/'
  | 'b' => some '\x08'
  | 'f' => some '\x0c'
  | 'n' => some '\n'
  | 'r' => some '\r'
  | 't' => some '\t'
  | _ => none

/-- Reads the rest of a string up to its closing quote. A character above U+FFFF may be written as
a pair of surrogates; a surrogate outside a pair is refused. -/
def readString : List Char → Option (List Char × List Char)
  | '"' :: rest => some ([], rest)
  | '\\' :: 'u' :: a :: b :: c :: d :: rest =>
    match unit? a b c d with
    | none => none
    | some unit =>
      if unit < 0xD800 ∨ 0xE000 ≤ unit then
        (readString rest).map fun (cs, tail) => (Char.ofNat unit :: cs, tail)
      else if 0xDC00 ≤ unit then none
      else
        match rest with
        | '\\' :: 'u' :: a' :: b' :: c' :: d' :: after =>
          match unit? a' b' c' d' with
          | none => none
          | some low =>
            if 0xDC00 ≤ low ∧ low < 0xE000 then
              let point := 0x10000 + (unit - 0xD800) * 0x400 + (low - 0xDC00)
              (readString after).map fun (cs, tail) => (Char.ofNat point :: cs, tail)
            else none
        | _ => none
  | '\\' :: letter :: rest =>
    match shortEscape? letter with
    | some c => (readString rest).map fun (cs, tail) => (c :: cs, tail)
    | none => none
  | c :: rest =>
    if c.toNat < 0x20 then none
    else (readString rest).map fun (cs, tail) => (c :: cs, tail)
  | [] => none
  termination_by cs => cs.length

/-- A number with at least one digit in each part that is there, no leading zero and no leading
plus; `none` where the text in front is no number. -/
def readNumber (cs : List Char) : Option (Json × List Char) :=
  let (negative, body) :=
    match cs with
    | '-' :: rest => (true, rest)
    | rest => (false, rest)
  let units := body.takeWhile Char.isDigit
  let rest := body.dropWhile Char.isDigit
  if units = [] ∨ (units.head? = some '0' ∧ units.length ≠ 1) then none
  else
    let places? : Option (List Char × List Char) :=
      match rest with
      | '.' :: after =>
        let ds := after.takeWhile Char.isDigit
        if ds = [] then none else some (ds, after.dropWhile Char.isDigit)
      | _ => some ([], rest)
    match places? with
    | none => none
    | some (places, rest) =>
      let power? : Option (Option Int × List Char) :=
        match rest with
        | c :: after =>
          if c = 'e' ∨ c = 'E' then
            let (down, ds) := Number.splitSign after
            let digits := ds.takeWhile Char.isDigit
            if digits = [] then none
            else
              let n : Int := Number.digitsValue digits
              some (some (if down then -n else n), ds.dropWhile Char.isDigit)
          else some (none, rest)
        | [] => some (none, rest)
      match power? with
      | none => none
      | some (power, rest) =>
        let n := Number.digitsValue units
        let signed : Int := if negative then -(n : Int) else n
        let fits := if negative then n ≠ 0 ∧ n ≤ 2 ^ 63 else n < 2 ^ 64
        if places = [] ∧ power = none ∧ fits then some (.int signed, rest)
        else
          let x := Number.nearestDecimal negative (Number.digitsValue (units ++ places))
            (power.getD 0 - places.length)
          if x.isInf then none else some (.float x, rest)

def dropWord? (word : List Char) (cs : List Char) : Option (List Char) :=
  if word.isPrefixOf cs then some (cs.drop word.length) else none

-- ======== values

mutual

/-- Reads a value that may nest `depth` deep. -/
def readValue : (fuel depth : Nat) → List Char → Option (Json × List Char)
  | 0, _, _ => none
  | fuel + 1, depth, cs =>
    match skipSpace cs with
    | 'n' :: rest => (dropWord? ['u', 'l', 'l'] rest).map fun rest => (.null, rest)
    | 't' :: rest => (dropWord? ['r', 'u', 'e'] rest).map fun rest => (.bool true, rest)
    | 'f' :: rest => (dropWord? ['a', 'l', 's', 'e'] rest).map fun rest => (.bool false, rest)
    | '"' :: rest => (readString rest).map fun (s, rest) => (.str (String.ofList s), rest)
    | '[' :: rest =>
      match depth with
      | 0 => none
      | depth + 1 =>
        match skipSpace rest with
        | ']' :: rest => some (.arr [], rest)
        | rest => (readItems fuel depth rest).map fun (items, rest) => (.arr items, rest)
    | '\x7b' :: rest =>
      match depth with
      | 0 => none
      | depth + 1 =>
        match skipSpace rest with
        | '\x7d' :: rest => some (.obj [], rest)
        | rest => (readFields fuel depth rest).map fun (fields, rest) => (ofFields fields, rest)
    | rest => readNumber rest

def readItems : (fuel depth : Nat) → List Char → Option (List Json × List Char)
  | 0, _, _ => none
  | fuel + 1, depth, cs =>
    match readValue fuel depth cs with
    | none => none
    | some (item, rest) =>
      match skipSpace rest with
      | ']' :: rest => some ([item], rest)
      | ',' :: rest =>
        (readItems fuel depth rest).map fun (items, rest) => (item :: items, rest)
      | _ => none

def readFields : (fuel depth : Nat) → List Char → Option (List (String × Json) × List Char)
  | 0, _, _ => none
  | fuel + 1, depth, cs =>
    match skipSpace cs with
    | '"' :: rest =>
      match readString rest with
      | none => none
      | some (name, rest) =>
        match skipSpace rest with
        | ':' :: rest =>
          match readValue fuel depth rest with
          | none => none
          | some (value, rest) =>
            let entry := (String.ofList name, value)
            match skipSpace rest with
            | '\x7d' :: rest => some ([entry], rest)
            | ',' :: rest =>
              (readFields fuel depth rest).map fun (fields, rest) => (entry :: fields, rest)
            | _ => none
        | _ => none
    | _ => none

end

def depthLimit : Nat := 127

def parse? (s : String) : Option Json :=
  let cs := s.toList
  match readValue (2 * cs.length + 2) depthLimit cs with
  | some (value, rest) => if skipSpace rest = [] then some value else none
  | none => none

/-- The fields of the object that a text writes, each as often as it stands there. -/
def writtenFields (s : String) : List (String × Json) :=
  let cs := s.toList
  match skipSpace cs with
  | '\x7b' :: rest => ((readFields (2 * cs.length + 2) depthLimit rest).map Prod.fst).getD []
  | _ => []

end PageScript.Json

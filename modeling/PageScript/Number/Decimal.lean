/-
Doubles as decimal text: how a script's number is read and how a number is written.

Numbers are written with the fewest digits that read back, always positionally, and a whole number
below 10^15 carries no fraction and no negative zero. Reading takes an optional sign, digits with
an optional point and an optional exponent, or one of the words for infinity and not-a-number, and
gives the nearest double.
-/
import PageScript.Number.Shortest

namespace PageScript.Number

-- ======== writing

def natText (n : Nat) : String :=
  String.ofList (Nat.toDigits 10 n)

def intText (n : Int) : String :=
  if n < 0 then "-" ++ natText n.natAbs else natText n.natAbs

def Digits.positional (d : Digits) : String :=
  let ds := Nat.toDigits 10 d.significand
  if 0 ≤ d.exponent then
    String.ofList (ds ++ List.replicate d.exponent.toNat '0')
  else
    let places := (-d.exponent).toNat
    if places < ds.length then
      String.ofList (ds.take (ds.length - places) ++ '.' :: ds.drop (ds.length - places))
    else
      String.ofList ('0' :: '.' :: List.replicate (places - ds.length) '0' ++ ds)

/-- A double in positional notation: the fewest digits that read back, a tie going up. -/
def positionalText (x : Float) : String :=
  match decode x with
  | .nan => "NaN"
  | .infinite negative => if negative then "-inf" else "inf"
  | .finite negative m q =>
    let sign := if negative then "-" else ""
    if m = 0 then sign ++ "0" else sign ++ (shortest .up m q).positional

/-- A number the way scripts write it: a whole number below 10^15 as an integer, so that minus
zero is `0`, and any other number in positional notation. -/
def text (x : Float) : String :=
  match whole? x with
  | some n => if n.natAbs < 10 ^ 15 then intText n else positionalText x
  | none => positionalText x

-- ======== reading

def hexValue? (c : Char) : Option Nat :=
  if '0' ≤ c ∧ c ≤ '9' then some (c.toNat - '0'.toNat)
  else if 'a' ≤ c ∧ c ≤ 'f' then some (c.toNat - 'a'.toNat + 10)
  else if 'A' ≤ c ∧ c ≤ 'F' then some (c.toNat - 'A'.toNat + 10)
  else none

def digitsValue (ds : List Char) : Nat :=
  ds.foldl (fun n c => 10 * n + (c.toNat - '0'.toNat)) 0

/-- The double nearest to `± significand · 10 ^ exponent`. Far outside the range of doubles the
answer is known without computing the power. -/
def nearestDecimal (negative : Bool) (significand : Nat) (exponent : Int) : Float :=
  let point := digitCount significand + exponent
  if significand = 0 ∨ point < -400 then ofFraction negative 0 1
  else if 400 < point then ofFraction negative (10 ^ 400) 1
  else ofFraction negative (significand * 10 ^ exponent.toNat) (10 ^ (-exponent).toNat)

/-- Takes a sign off the front of a text: whether it is a minus, and what follows. -/
def splitSign : List Char → Bool × List Char
  | '-' :: rest => (true, rest)
  | '+' :: rest => (false, rest)
  | rest => (false, rest)

/-- The exponent part of a decimal, `e` or `E` with an optional sign and at least one digit;
no text at all is exponent zero. -/
def exponentValue? : List Char → Option Int
  | [] => some 0
  | c :: rest =>
    if c = 'e' ∨ c = 'E' then
      let (negative, ds) := splitSign rest
      if ds ≠ [] ∧ ds.all Char.isDigit then
        some (if negative then -(digitsValue ds : Int) else digitsValue ds)
      else none
    else none

/-- A decimal without its sign: digits with at most one point among them and at least one digit,
then an optional exponent. -/
def unsigned? (negative : Bool) (cs : List Char) : Option Float :=
  let units := cs.takeWhile Char.isDigit
  let rest := cs.dropWhile Char.isDigit
  let (places, tail) :=
    match rest with
    | '.' :: after => (after.takeWhile Char.isDigit, after.dropWhile Char.isDigit)
    | _ => ([], rest)
  if units = [] ∧ places = [] then none
  else
    (exponentValue? tail).map fun e =>
      nearestDecimal negative (digitsValue (units ++ places)) (e - places.length)

/-- Reads a number from characters; see `parse?`. -/
def ofChars? (cs : List Char) : Option Float :=
  let (negative, rest) := splitSign cs
  let lower := rest.map Char.toLower
  if lower = "inf".toList ∨ lower = "infinity".toList then
    some (ofFraction negative (10 ^ 400) 1)
  else if lower = "nan".toList then some (0.0 / 0.0)
  else unsigned? negative rest

/-- The number that a text writes, the whole text: `-01.20`, `.5`, `1e3`, `inf`, `nan`. -/
def parse? (s : String) : Option Float :=
  ofChars? s.toList

end PageScript.Number

/-
Numbers with a given count of digits.

A number is a quotient of natural numbers. It is written with so many places behind the point, or
with one digit in front of the point and an exponent, rounded to the nearest such text, a half going
to the even digit.
-/
import PageScript.Number.Decimal

namespace PageScript.Number

/-- The number nearest to a quotient that has at most `bits` binary digits, as a quotient. -/
def narrow (bits num den : Nat) : Nat × Nat :=
  if num = 0 ∨ den = 0 then (0, 1)
  else
    let guess : Int := (num.log2 : Int) - den.log2 - bits
    let (n, d) := inUnits num den guess
    let q := if n / d < 2 ^ bits then guess else guess + 1
    let (n, d) := inUnits num den q
    let m := divNearest n d
    if 0 ≤ q then (m * 2 ^ q.toNat, 1) else (m, 2 ^ (-q).toNat)

def inTens (num den : Nat) (power : Int) : Nat × Nat :=
  if 0 ≤ power then (num, den * 10 ^ power.toNat) else (num * 10 ^ (-power).toNat, den)

/-- Digits with a point in front of the last `places` of them. -/
def pointed (digits : List Char) (places : Nat) : String :=
  if places = 0 then String.ofList digits
  else
    let ds := List.replicate (places + 1 - digits.length) '0' ++ digits
    String.ofList (ds.take (ds.length - places) ++ '.' :: ds.drop (ds.length - places))

def fixedText (places num den : Nat) : String :=
  let (n, d) := inTens num den (-(places : Int))
  pointed (Nat.toDigits 10 (divNearest n d)) places

/-- The digits of a quotient, one and `places` more, and the power of ten of the first one. -/
def leadingDigits (places num den : Nat) : List Char × Int :=
  if num = 0 then (List.replicate (places + 1) '0', 0)
  else
    let guess : Int := (digitCount num : Int) - digitCount den - 1
    let (n, d) := inTens num den (guess + 1)
    let power := if n < d then guess else guess + 1
    let (n, d) := inTens num den (power - places)
    let ds := Nat.toDigits 10 (divNearest n d)
    if ds.length > places + 1 then (ds.take (places + 1), power + 1) else (ds, power)

def exponentText (power : Int) : String :=
  let ds := natText power.natAbs
  (if power < 0 then "-" else "+") ++ (if ds.length < 2 then "0" ++ ds else ds)

/-- A quotient with one digit in front of the point, so many behind it, and an exponent. -/
def scientificText (places num den : Nat) : String :=
  let (ds, power) := leadingDigits places num den
  pointed ds places ++ "e" ++ exponentText power

/-- Drops zeros off the end of a fraction, and the point if nothing else is behind it. -/
def dropZeros (s : String) : String :=
  if s.toList.contains '.' then
    let front := s.toList.reverse.dropWhile (· = '0')
    let front := if front.head? = some '.' then front.drop 1 else front
    String.ofList front.reverse
  else s

/-- A quotient with so many digits that count, written whichever way is shorter; zeros at the end
stay only if they are asked for. -/
def generalText (digits : Nat) (keepZeros : Bool) (num den : Nat) : String :=
  let digits := max digits 1
  let (ds, power) := leadingDigits (digits - 1) num den
  let trim (s : String) : String := if keepZeros then s else dropZeros s
  if -4 ≤ power ∧ power < digits then
    trim (fixedText ((digits : Int) - 1 - power).toNat num den)
  else trim (pointed ds (digits - 1)) ++ "e" ++ exponentText power

end PageScript.Number

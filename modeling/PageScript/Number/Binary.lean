/-
Doubles as exact numbers.

A finite double is a sign, a natural mantissa and a power of two. `decode` reads those parts off
the bits, `ofFraction` goes the other way and gives the double nearest to a quotient of natural
numbers, a half going to the even mantissa. Whole-number roundings are then arithmetic on `Nat`,
so they are exact and a proof can follow them.
-/
import PageScript.Number.Builtin

namespace PageScript.Number

-- ======== parts

/-- What a double stands for: `finite negative m q` is `± m · 2 ^ q`. -/
inductive Parts where
  | nan
  | infinite (negative : Bool)
  | finite (negative : Bool) (mantissa : Nat) (exponent : Int)
  deriving Repr, DecidableEq

def decode (x : Float) : Parts :=
  let bits := x.toBits.toNat
  let negative := decide (2 ^ 63 ≤ bits)
  let exponent : Nat := bits / 2 ^ 52 % 2 ^ 11
  let fraction : Nat := bits % 2 ^ 52
  if exponent = 2047 then
    if fraction = 0 then .infinite negative else .nan
  else if exponent = 0 then .finite negative fraction (-1074)
  else .finite negative (2 ^ 52 + fraction) ((exponent : Int) - 1075)

/-- The quotient `num / den` rounded to a natural number, a half going to the even neighbour. -/
def divNearest (num den : Nat) : Nat :=
  let below := num / den
  let twice := 2 * (num % den)
  if den < twice ∨ (twice = den ∧ below % 2 = 1) then below + 1 else below

/-- The quotient `num / den` in units of `2 ^ q`, as a fraction of natural numbers. -/
def inUnits (num den : Nat) (q : Int) : Nat × Nat :=
  if 0 ≤ q then (num, den * 2 ^ q.toNat) else (num * 2 ^ (-q).toNat, den)

/-- The bits, sign apart, of the double nearest to `num / den`; past the largest double they are
those of infinity. -/
def nearestBits (num den : Nat) : Nat :=
  if num = 0 then 0
  else
    let guess : Int := (num.log2 : Int) - den.log2 - 52
    let (n, d) := inUnits num den guess
    let q := max (if n / d < 2 ^ 52 then guess - 1 else guess) (-1074)
    let (n, d) := inUnits num den q
    let m := divNearest n d
    let (m, q) := if m = 2 ^ 53 then (2 ^ 52, q + 1) else (m, q)
    if 971 < q then 2047 * 2 ^ 52
    else if m < 2 ^ 52 then m
    else (q + 1075).toNat * 2 ^ 52 + (m - 2 ^ 52)

/-- The double nearest to `± num / den`. -/
def ofFraction (negative : Bool) (num den : Nat) : Float :=
  Float.ofBits (UInt64.ofNat ((if negative then 2 ^ 63 else 0) + nearestBits num den))

-- ======== whole numbers

/-- The value without its fraction; the sign stays, also on a zero. -/
def truncate (x : Float) : Float :=
  match decode x with
  | .finite negative m q => if 0 ≤ q then x else ofFraction negative (m / 2 ^ (-q).toNat) 1
  | _ => x

def round (x : Float) : Float :=
  match decode x with
  | .finite negative m q =>
    if 0 ≤ q then x
    else
      let unit := 2 ^ (-q).toNat
      ofFraction negative ((2 * m + unit) / (2 * unit)) 1
  | _ => x

def whole? (x : Float) : Option Int :=
  match decode x with
  | .finite negative m q =>
    let signed (n : Nat) : Int := if negative then -(n : Int) else n
    if 0 ≤ q then some (signed (m * 2 ^ q.toNat))
    else if m % 2 ^ (-q).toNat = 0 then some (signed (m / 2 ^ (-q).toNat))
    else none
  | _ => none

def nonnegative (x : Float) : Float :=
  if 0 < x then x else 0

/-- The lesser of two values; a value that is no number gives way to the other. -/
def least (a b : Float) : Float :=
  if a.isNaN then b else if b.isNaN then a else if b < a then b else a

/-- The greater of two values; a value that is no number gives way to the other. -/
def greatest (a b : Float) : Float :=
  if a.isNaN then b else if b.isNaN then a else if a < b then b else a

/-- The nearest natural number to a value, at least zero and at most `limit`; a half goes away
from zero and what is no number counts as zero. -/
def roundedNat (limit : Nat) (x : Float) : Nat :=
  match decode (nonnegative x) with
  | .finite _ m q =>
    if 0 ≤ q then min limit (m * 2 ^ q.toNat)
    else
      let unit := 2 ^ (-q).toNat
      min limit ((2 * m + unit) / (2 * unit))
  | .infinite _ => limit
  | .nan => 0

end PageScript.Number

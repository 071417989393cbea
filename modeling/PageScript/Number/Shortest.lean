/-
The fewest decimal digits that read back as a given double.

The reals that round to `m · 2 ^ q` form an interval around it. `shortest` looks at the grids of
one, two, … seventeen significant digits in turn and takes the first grid with a point in the
interval; of two such points it takes the nearer one. All of it is exact arithmetic on natural
numbers.
-/
import PageScript.Number.Binary

namespace PageScript.Number

/-- The decimal number `significand · 10 ^ exponent`. -/
structure Digits where
  significand : Nat
  exponent : Int
  deriving Repr, DecidableEq

/-- Where two grid points are equally near, the one to take. -/
inductive Tie where
  | up
  | even
  deriving Repr, DecidableEq

/-- How many decimal digits a natural number has; zero has none. -/
def digitCount (n : Nat) : Nat :=
  if n = 0 then 0 else (Nat.toDigits 10 n).length

/-- The `e` with `10 ^ (e - 1) ≤ num / den < 10 ^ e`, for a positive quotient. -/
def decimalPoint (num den : Nat) : Int :=
  if den ≤ num then digitCount (num / den)
  else 1 - (digitCount ((den + num - 1) / num - 1) : Int)

/-- Drops zeros at the end of the significand, at most `fuel` of them. -/
def Digits.trimmed : Nat → Digits → Digits
  | 0, d => d
  | fuel + 1, d =>
    if d.significand ≠ 0 ∧ d.significand % 10 = 0 then
      Digits.trimmed fuel ⟨d.significand / 10, d.exponent + 1⟩
    else d

/-- The value `m · 2 ^ q` and the ends of its rounding interval, in units of `2 ^ (q - 2)`. -/
structure Interval where
  lower : Nat
  value : Nat
  upper : Nat
  closed : Bool
  exponent : Int

/-- The reals that round to `m · 2 ^ q`. Below a power of two doubles lie twice as dense, so the
lower half of the interval is then half as long. -/
def Interval.around (m : Nat) (q : Int) : Interval where
  lower := 4 * m - (if m = 2 ^ 52 ∧ -1074 < q then 1 else 2)
  value := 4 * m
  upper := 4 * m + 2
  closed := m % 2 = 0
  exponent := q - 2

/-- The best point of the interval on the grid of multiples of `10 ^ k`, if there is one. -/
def Interval.onGrid? (i : Interval) (tie : Tie) (k : Int) : Option Digits :=
  let binary := 2 ^ i.exponent.toNat * 10 ^ (-k).toNat
  let decimal := 10 ^ k.toNat * 2 ^ (-i.exponent).toNat
  let lower := i.lower * binary
  let value := i.value * binary
  let upper := i.upper * binary
  let fits (j : Nat) : Bool :=
    if i.closed then lower ≤ j * decimal ∧ j * decimal ≤ upper
    else lower < j * decimal ∧ j * decimal < upper
  let below := value / decimal
  let above := below + 1
  let nearerAbove :=
    let down := value - below * decimal
    let up := above * decimal - value
    up < down ∨ (up = down ∧ (tie = .up ∨ below % 2 = 1))
  match fits below && below ≠ 0, fits above with
  | true, true => some ⟨if nearerAbove then above else below, k⟩
  | true, false => some ⟨below, k⟩
  | false, true => some ⟨above, k⟩
  | false, false => none

/-- The shortest decimal that rounds to `m · 2 ^ q`, and of those the nearest; `m` is positive. -/
def shortest (tie : Tie) (m : Nat) (q : Int) : Digits :=
  let interval := Interval.around m q
  let point := decimalPoint (m * 2 ^ q.toNat) (2 ^ (-q).toNat)
  let found := (List.range 17).findSome? fun (n : Nat) => interval.onGrid? tie (point - n - 1)
  (found.getD ⟨0, 0⟩).trimmed 400

end PageScript.Number

/-
Times counted from the start of 1970: `@0`, `@-1.5`.
-/
import PageScript.Number.Decimal

namespace PageScript.Shell.Date

/-- The time that a text means: seconds from the start of 1970, and billionths. -/
def parse? (text : String) : Option (Int × Nat) :=
  match text.toList with
  | '@' :: cs =>
    let (sign, cs) : Int × List Char := match cs with
      | '-' :: cs => (-1, cs)
      | '+' :: cs => (1, cs)
      | cs => (1, cs)
    let (whole, back) := cs.span Char.isDigit
    let fraction := back.drop 1
    let n := sign * Number.digitsValue whole
    let nanos := Number.digitsValue (fraction.take 9 ++ List.replicate (9 - fraction.length) '0')
    if whole.isEmpty || back = ['.'] || !fraction.all Char.isDigit || !(back.take 1).all (· = '.') then
      none
    else if sign = -1 ∧ nanos > 0 then some (n - 1, 1000000000 - nanos)
    else some (n, nanos)
  | _ => none

end PageScript.Shell.Date

/-
Base64: bytes as text, three bytes to four digits.

A text is read only in its canonical form: full groups of four, with pads only at the end, and with
zeros where the pads leave bits over.
-/

namespace PageScript.Bytes

def sextet? (c : Char) : Option Nat :=
  let n := c.toNat
  if 'A'.toNat ≤ n ∧ n ≤ 'Z'.toNat then some (n - 'A'.toNat)
  else if 'a'.toNat ≤ n ∧ n ≤ 'z'.toNat then some (n - 'a'.toNat + 26)
  else if '0'.toNat ≤ n ∧ n ≤ '9'.toNat then some (n - '0'.toNat + 52)
  else if c = '+' then some 62
  else if c = '/' then some 63
  else none

def ofBase64Digits? : List Char → Option (List UInt8)
  | [] => some []
  | [a, b, '=', '='] => do
    let (a, b) := (← sextet? a, ← sextet? b)
    if b % 16 = 0 then some [UInt8.ofNat (a * 4 + b / 16)] else none
  | [a, b, c, '='] => do
    let (a, b, c) := (← sextet? a, ← sextet? b, ← sextet? c)
    if c % 4 = 0 then some [UInt8.ofNat (a * 4 + b / 16), UInt8.ofNat (b % 16 * 16 + c / 4)]
    else none
  | a :: b :: c :: d :: rest => do
    let (a, b, c, d) := (← sextet? a, ← sextet? b, ← sextet? c, ← sextet? d)
    let others ← ofBase64Digits? rest
    some (UInt8.ofNat (a * 4 + b / 16) :: UInt8.ofNat (b % 16 * 16 + c / 4) ::
      UInt8.ofNat (c % 4 * 64 + d) :: others)
  | _ => none

def ofBase64? (s : String) : Option (List UInt8) :=
  ofBase64Digits? s.toList

end PageScript.Bytes

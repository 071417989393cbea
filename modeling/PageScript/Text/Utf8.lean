/-
Reading bytes as UTF-8 text.

`decode?` refuses bytes that are no UTF-8. `decodeLossy` never refuses: wherever a sequence breaks
off, what was read of it becomes one replacement character, and reading goes on with the byte that
did not fit. It is a machine with one state per number of bytes still owed, so a byte below 0x80,
such as a line end, always leaves it between characters.
-/

namespace PageScript.Text

def replacement : Char := '�'

/-- Between characters, or inside one: the bytes still owed, the value read so far, and the least
and the greatest byte that may come next. -/
inductive Utf8State where
  | start
  | inside (owed : Nat) (value low high : Nat)
  deriving Repr, DecidableEq

def Utf8State.first (b : Nat) : List Char × Utf8State :=
  if b < 0x80 then ([Char.ofNat b], .start)
  else if 0xC2 ≤ b ∧ b ≤ 0xDF then ([], .inside 1 (b - 0xC0) 0x80 0xBF)
  else if b = 0xE0 then ([], .inside 2 0 0xA0 0xBF)
  else if b = 0xED then ([], .inside 2 0xD 0x80 0x9F)
  else if 0xE1 ≤ b ∧ b ≤ 0xEF then ([], .inside 2 (b - 0xE0) 0x80 0xBF)
  else if b = 0xF0 then ([], .inside 3 0 0x90 0xBF)
  else if 0xF1 ≤ b ∧ b ≤ 0xF3 then ([], .inside 3 (b - 0xF0) 0x80 0xBF)
  else if b = 0xF4 then ([], .inside 3 4 0x80 0x8F)
  else ([replacement], .start)

/-- What a byte does in any state: the characters it completes, and the state after it. -/
def Utf8State.step : Utf8State → Nat → List Char × Utf8State
  | .start, b => first b
  | .inside owed value low high, b =>
    if low ≤ b ∧ b ≤ high then
      let value := value * 64 + (b - 0x80)
      if owed ≤ 1 then ([Char.ofNat value], .start)
      else ([], .inside (owed - 1) value 0x80 0xBF)
    else
      let (chars, state) := first b
      (replacement :: chars, state)

def decodeFrom : Utf8State → List UInt8 → List Char
  | .start, [] => []
  | .inside .., [] => [replacement]
  | state, b :: rest =>
    let (chars, next) := state.step b.toNat
    chars ++ decodeFrom next rest

def decodeLossy (bytes : List UInt8) : String :=
  String.ofList (decodeFrom .start bytes)

def decode? (bytes : List UInt8) : Option String :=
  String.fromUTF8? ⟨bytes.toArray⟩

def encode (s : String) : List UInt8 :=
  s.toUTF8.toList

end PageScript.Text

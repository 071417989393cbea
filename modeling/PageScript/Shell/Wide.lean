/-
Texts by their characters, where shells hold them by their bytes.

A wide text has one character for each character. A byte that belongs to none is kept as a stray, a
character that no text has, so that a text can be made wide and narrow again without a loss.
-/
import PageScript.Shell.Glob
import PageScript.Shell.Quotation

namespace PageScript.Shell

-- ======== strays

def strayBase : Nat := 0x10FE00

def isStray (c : Char) : Bool :=
  strayBase + 0x80 ≤ c.toNat && c.toNat ≤ strayBase + 0xFF

/-- The character for a byte: a stray, unless it is one by itself. -/
def strayOf (n : Nat) : Char :=
  if n < 0x80 then Char.ofNat n else Char.ofNat (strayBase + n % 256)

def widen (s : String) : String :=
  if s.toList.all fun c => c.toNat < 0x80 then s
  else
    String.ofList ((characters s).map fun (found, bytes) =>
      found.getD (strayOf (bytes.headD '\x00').toNat))

def narrow (s : String) : String :=
  if s.toList.all fun c => c.toNat < 0x80 then s
  else
    String.ofList (s.toList.flatMap fun c =>
      if isStray c then [Char.ofNat (c.toNat - strayBase)] else (pack c.toString).toList)

def wideBytes (s : String) : Stream :=
  bytesOf (narrow s)

-- ======== case

def capitals : List (Nat × Nat × Nat) :=
  [(0x41, 0x5A, 32), (0xC0, 0xD6, 32), (0xD8, 0xDE, 32), (0x391, 0x3A1, 32), (0x3A3, 0x3AB, 32),
    (0x410, 0x42F, 32), (0x400, 0x40F, 80), (0x531, 0x556, 48)]

def pairedLetters : List (Nat × Nat) :=
  [(0x100, 0x12F), (0x132, 0x137), (0x14A, 0x177), (0x1E00, 0x1E95), (0x460, 0x481),
    (0x48A, 0x4BF), (0x4D0, 0x52F)]

def oddPairedLetters : List (Nat × Nat) :=
  [(0x139, 0x148), (0x179, 0x17E), (0x4C1, 0x4CE)]

/-- The other letter of a pair of neighbours, for the capital of it or for the small one. -/
def neighbour? (capital : Bool) (n : Nat) : Option Nat :=
  let first : Bool := n % 2 = 0
  let among (ranges : List (Nat × Nat)) : Bool := ranges.any fun (lo, hi) => lo ≤ n && n ≤ hi
  if (among pairedLetters && first = capital) || (among oddPairedLetters && first = !capital) then
    some (if capital then n + 1 else n - 1)
  else none

def wideLower (c : Char) : Char :=
  let n := c.toNat
  match capitals.find? fun (lo, hi, _) => lo ≤ n && n ≤ hi with
  | some (_, _, d) => Char.ofNat (n + d)
  | none => Char.ofNat ((neighbour? true n).getD (if n = 0x178 then 0xFF else n))

def wideUpper (c : Char) : Char :=
  let n := c.toNat
  match capitals.find? fun (lo, hi, d) => lo + d ≤ n && n ≤ hi + d with
  | some (_, _, d) => Char.ofNat (n - d)
  | none =>
    Char.ofNat ((neighbour? false n).getD
      (if n = 0xFF then 0x178 else if n = 0x3C2 then 0x3A3 else n))

-- ======== classes

def letterRanges : List (Nat × Nat) :=
  [(0xAA, 0xAA), (0xB5, 0xB5), (0xBA, 0xBA), (0xC0, 0xD6), (0xD8, 0xF6), (0xF8, 0x2C1),
    (0x370, 0x373), (0x376, 0x377), (0x37A, 0x37D), (0x37F, 0x37F), (0x386, 0x386),
    (0x388, 0x3F5), (0x3F7, 0x481), (0x48A, 0x52F), (0x531, 0x556), (0x560, 0x588),
    (0x5D0, 0x5EA), (0x620, 0x64A), (0x66E, 0x6D3), (0x904, 0x939), (0xE01, 0xE30),
    (0x10A0, 0x10FF), (0x1100, 0x11FF), (0x1E00, 0x1FBC), (0x2C00, 0x2CE4), (0x3041, 0x3096),
    (0x30A1, 0x30FA), (0x3105, 0x312F), (0x3131, 0x318E), (0x3400, 0x4DBF), (0x4E00, 0x9FFF),
    (0xAC00, 0xD7A3), (0xF900, 0xFAD9), (0xFF21, 0xFF3A), (0xFF41, 0xFF5A), (0xFF66, 0xFFDC),
    (0x20000, 0x323AF)]

def spaceRanges : List (Nat × Nat) :=
  [(0x1680, 0x1680), (0x2000, 0x2006), (0x2008, 0x200A), (0x2028, 0x2029), (0x205F, 0x205F),
    (0x3000, 0x3000)]

def punctuationRanges : List (Nat × Nat) :=
  [(0xA1, 0xA9), (0xAB, 0xB4), (0xB6, 0xB9), (0xBB, 0xBF), (0xD7, 0xD7), (0xF7, 0xF7),
    (0x2C2, 0x2DF), (0x300, 0x36F), (0x2010, 0x2027), (0x202A, 0x205E), (0x2070, 0x20C0),
    (0x2100, 0x2BFF), (0x3001, 0x3020), (0xFE00, 0xFE0F), (0x1F000, 0x1FAFF)]

def asChars (ranges : List (Nat × Nat)) : List (Char × Char) :=
  ranges.map fun (lo, hi) => (Char.ofNat lo, Char.ofNat hi)

def wideClassRanges (name : String) : List (Char × Char) :=
  let capitalRanges := (capitals.drop 1).map fun (lo, hi, _) => (lo, hi)
  let smallRanges := (0xDF, 0xDF) :: (capitals.drop 1).map fun (lo, hi, d) => (lo + d, hi + d)
  let turns (odd : Nat) : List (Nat × Nat) :=
    (pairedLetters.flatMap fun (lo, hi) =>
      (List.range (hi + 1 - lo)).filterMap fun i =>
        if (lo + i) % 2 = odd then some (lo + i, lo + i) else none)
  classRanges name ++ asChars (match name with
    | "alpha" | "alnum" => letterRanges
    | "upper" => capitalRanges ++ turns 0
    | "lower" => smallRanges ++ turns 1
    | "space" => spaceRanges
    | "blank" => spaceRanges.filter fun r => r.1 ≠ 0x2028
    | "punct" => punctuationRanges
    | "graph" => letterRanges ++ punctuationRanges
    | "print" => (0xA0, 0xA0) :: letterRanges ++ punctuationRanges ++ spaceRanges
    | "cntrl" => [(0x80, 0x9F), (0x2028, 0x2029)]
    | _ => [])

end PageScript.Shell

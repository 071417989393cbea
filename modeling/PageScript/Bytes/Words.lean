/-
Words made of bytes, and the blocks that digests are taken of.

A digest reads its bytes block by block. Behind the bytes comes a byte with one bit set, then as
many zeros as complete a block together with the number of bits, which stands at the very end.
-/
import PageScript.Number.Builtin

namespace PageScript.Bytes

/-- Bytes in groups of so many; the last group can be shorter. Each group takes one of `fuel`. -/
def groupsFrom (size : Nat) : (fuel : Nat) → List UInt8 → List (List UInt8)
  | 0, _ => []
  | _, [] => []
  | fuel + 1, b :: rest => (b :: rest).take size :: groupsFrom size fuel ((b :: rest).drop size)

/-- Bytes in groups of so many; the last group can be shorter. -/
def groups (size : Nat) (bytes : List UInt8) : List (List UInt8) :=
  groupsFrom size bytes.length bytes

def ofBigEndian (bytes : List UInt8) : Nat :=
  bytes.foldl (fun n b => n * 256 + b.toNat) 0

def ofLittleEndian (bytes : List UInt8) : Nat :=
  ofBigEndian bytes.reverse

def littleEndian : (size : Nat) → Nat → List UInt8
  | 0, _ => []
  | size + 1, n => UInt8.ofNat n :: littleEndian size (n / 256)

def bigEndian (size n : Nat) : List UInt8 :=
  (littleEndian size n).reverse

/-- Bytes with what completes them to whole blocks, the bytes of their number of bits at the end. -/
def padded (block : Nat) (length : List UInt8) (bytes : List UInt8) : List UInt8 :=
  let used := (bytes.length + 1 + length.length) % block
  bytes ++ 0x80 :: List.replicate ((block - used) % block) 0 ++ length

/-- The whole part of a root of a number: the greatest `r` with so many `bits` whose power is at
most the number. -/
def root (degree : Nat) : (bits : Nat) → Nat → Nat
  | 0, _ => 0
  | bits + 1, n =>
    let r := 2 * root degree bits (n / 2 ^ degree)
    if (r + 1) ^ degree ≤ n then r + 1 else r

def isPrime (n : Nat) : Bool :=
  2 ≤ n && (List.range n).all fun d => d < 2 || n % d ≠ 0

def primes : List Nat :=
  (List.range 410).filter isPrime

def rootFraction (degree bits n : Nat) : Nat :=
  root degree (bits + 16) (n * 2 ^ (degree * bits)) % 2 ^ bits

end PageScript.Bytes

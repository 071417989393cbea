/-
The digest SHA-256.

The constants are the first bits behind the point of roots of primes.
-/
import PageScript.Bytes.Words

namespace PageScript.Bytes.Sha2

/-- The width of words in bits, and how far they are turned. The last number of `early` and of `late` is
how far they are shifted. -/
structure Shape where
  width : Nat
  rounds : Nat
  upper : Nat × Nat × Nat
  lower : Nat × Nat × Nat
  early : Nat × Nat × Nat
  late : Nat × Nat × Nat
  deriving Repr, DecidableEq, Inhabited

def narrow : Shape :=
  { width := 32, rounds := 64, upper := (2, 13, 22), lower := (6, 11, 25), early := (7, 18, 3)
    late := (17, 19, 10) }

/-- The eight words that a digest is made of. -/
structure State (w : Nat) where
  a : BitVec w
  b : BitVec w
  c : BitVec w
  d : BitVec w
  e : BitVec w
  f : BitVec w
  g : BitVec w
  h : BitVec w
  deriving Repr, DecidableEq, Inhabited

namespace State

def toList {w : Nat} (s : State w) : List (BitVec w) :=
  [s.a, s.b, s.c, s.d, s.e, s.f, s.g, s.h]

def ofNats (w : Nat) (ns : List Nat) : State w :=
  let word (i : Nat) : BitVec w := BitVec.ofNat w (ns.getD i 0)
  ⟨word 0, word 1, word 2, word 3, word 4, word 5, word 6, word 7⟩

def add {w : Nat} (s t : State w) : State w :=
  ⟨s.a + t.a, s.b + t.b, s.c + t.c, s.d + t.d, s.e + t.e, s.f + t.f, s.g + t.g, s.h + t.h⟩

end State

/-- A word turned by three amounts, the results added bit by bit. -/
def turn {w : Nat} (by3 : Nat × Nat × Nat) (x : BitVec w) : BitVec w :=
  x.rotateRight by3.1 ^^^ x.rotateRight by3.2.1 ^^^ x.rotateRight by3.2.2

/-- A word turned by two amounts and shifted by a third one, the results added bit by bit. -/
def shift {w : Nat} (by3 : Nat × Nat × Nat) (x : BitVec w) : BitVec w :=
  x.rotateRight by3.1 ^^^ x.rotateRight by3.2.1 ^^^ (x >>> by3.2.2)

/-- The constants of the rounds: cube roots of the first primes. -/
def constants (shape : Shape) : List (BitVec shape.width) :=
  (primes.take shape.rounds).map fun p => BitVec.ofNat shape.width (rootFraction 3 shape.width p)

/-- The words of a block, and those that are made from them: one for each round. -/
def schedule (shape : Shape) (block : List UInt8) : List (BitVec shape.width) :=
  let given := ((groups (shape.width / 8) block).map fun bytes =>
    BitVec.ofNat shape.width (ofBigEndian bytes)).toArray
  let extend (ws : Array (BitVec shape.width)) : Array (BitVec shape.width) :=
    let back (i : Nat) : BitVec shape.width := ws.getD (ws.size - i) 0
    ws.push (shift shape.late (back 2) + back 7 + shift shape.early (back 15) + back 16)
  (Nat.repeat extend (shape.rounds - 16) given).toList

def round (shape : Shape) (s : State shape.width) (constant word : BitVec shape.width) :
    State shape.width :=
  let choice := (s.e &&& s.f) ^^^ (~~~s.e &&& s.g)
  let most := (s.a &&& s.b) ^^^ (s.a &&& s.c) ^^^ (s.b &&& s.c)
  let first := s.h + turn shape.lower s.e + choice + constant + word
  let second := turn shape.upper s.a + most
  ⟨first + second, s.a, s.b, s.c, s.d + first, s.e, s.f, s.g⟩

def absorb (shape : Shape) (constants : List (BitVec shape.width)) (s : State shape.width)
    (block : List UInt8) : State shape.width :=
  s.add (((constants.zip (schedule shape block)).foldl fun t (k, w) => round shape t k w) s)

/-- The first `size` bytes of what comes of some bytes, from a state. -/
def digest (shape : Shape) (start : List Nat) (size : Nat) (bytes : List UInt8) : List UInt8 :=
  let length := bigEndian (shape.width / 4) (8 * bytes.length)
  let all := constants shape
  let final := (groups (2 * shape.width) (padded (2 * shape.width) length bytes)).foldl
    (absorb shape all) (State.ofNats shape.width start)
  (final.toList.flatMap fun w => bigEndian (shape.width / 8) w.toNat).take size

/-- Square roots of eight primes from the `skip`th on. -/
def roots (skip bits : Nat) : List Nat :=
  ((primes.drop skip).take 8).map (rootFraction 2 bits)

def sha256 : List UInt8 → List UInt8 :=
  digest narrow (roots 0 32) 32

end PageScript.Bytes.Sha2

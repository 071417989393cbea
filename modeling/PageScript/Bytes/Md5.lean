/-
The digest MD5.
-/
import PageScript.Bytes.Words

namespace PageScript.Bytes.Md5

/-- The four words that a digest is made of. -/
structure State where
  a : UInt32 := 0x67452301
  b : UInt32 := 0xEFCDAB89
  c : UInt32 := 0x98BADCFE
  d : UInt32 := 0x10325476
  deriving Repr, DecidableEq, Inhabited

/-- The constants of the rounds: the first bits behind the point of the sines of 1 to 64. -/
def constants : List UInt32 := [
  0xD76AA478, 0xE8C7B756, 0x242070DB, 0xC1BDCEEE, 0xF57C0FAF, 0x4787C62A, 0xA8304613, 0xFD469501,
  0x698098D8, 0x8B44F7AF, 0xFFFF5BB1, 0x895CD7BE, 0x6B901122, 0xFD987193, 0xA679438E, 0x49B40821,
  0xF61E2562, 0xC040B340, 0x265E5A51, 0xE9B6C7AA, 0xD62F105D, 0x02441453, 0xD8A1E681, 0xE7D3FBC8,
  0x21E1CDE6, 0xC33707D6, 0xF4D50D87, 0x455A14ED, 0xA9E3E905, 0xFCEFA3F8, 0x676F02D9, 0x8D2A4C8A,
  0xFFFA3942, 0x8771F681, 0x6D9D6122, 0xFDE5380C, 0xA4BEEA44, 0x4BDECFA9, 0xF6BB4B60, 0xBEBFBC70,
  0x289B7EC6, 0xEAA127FA, 0xD4EF3085, 0x04881D05, 0xD9D4D039, 0xE6DB99E5, 0x1FA27CF8, 0xC4AC5665,
  0xF4292244, 0x432AFF97, 0xAB9423A7, 0xFC93A039, 0x655B59C3, 0x8F0CCC92, 0xFFEFF47D, 0x85845DD1,
  0x6FA87E4F, 0xFE2CE6E0, 0xA3014314, 0x4E0811A1, 0xF7537E82, 0xBD3AF235, 0x2AD7D2BB, 0xEB86D391]

/-- How far words are turned in the rounds of each quarter, over and over. -/
def turns : List (List UInt32) :=
  [[7, 12, 17, 22], [5, 9, 14, 20], [4, 11, 16, 23], [6, 10, 15, 21]]

def turn (n : UInt32) (x : UInt32) : UInt32 :=
  (x <<< n) ||| (x >>> (32 - n))

/-- How three words are mixed in a round, and which word of the block the round takes. -/
def mix (i : Nat) (b c d : UInt32) : UInt32 × Nat :=
  match i / 16 with
  | 0 => ((b &&& c) ||| (~~~b &&& d), i)
  | 1 => ((d &&& b) ||| (~~~d &&& c), (5 * i + 1) % 16)
  | 2 => (b ^^^ c ^^^ d, (3 * i + 5) % 16)
  | _ => (c ^^^ (b ||| ~~~d), 7 * i % 16)

def round (words : Array UInt32) (s : State) (i : Nat) (constant : UInt32) : State :=
  let (mixed, place) := mix i s.b s.c s.d
  let amount := (turns.getD (i / 16) []).getD (i % 4) 0
  let sum := s.a + mixed + constant + words.getD place 0
  { a := s.d, b := s.b + turn amount sum, c := s.b, d := s.c }

def absorb (s : State) (block : List UInt8) : State :=
  let words := ((groups 4 block).map fun bytes => UInt32.ofNat (ofLittleEndian bytes)).toArray
  let t := constants.zipIdx.foldl (fun t (constant, i) => round words t i constant) s
  { a := s.a + t.a, b := s.b + t.b, c := s.c + t.c, d := s.d + t.d }

def md5 (bytes : List UInt8) : List UInt8 :=
  let s := (groups 64 (padded 64 (littleEndian 8 (8 * bytes.length)) bytes)).foldl absorb {}
  [s.a, s.b, s.c, s.d].flatMap fun w => littleEndian 4 w.toNat

end PageScript.Bytes.Md5

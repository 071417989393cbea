/-
Texts as shells and programs hold them: one character for each byte.
-/
import PageScript.Disk.Path
import PageScript.Number.Decimal
import PageScript.Text.Utf8

namespace PageScript.Shell

abbrev Stream := List UInt8

def toChars (bytes : Stream) : List Char :=
  bytes.map fun b => Char.ofNat b.toNat

def ofChars (cs : List Char) : Stream :=
  cs.map fun c => UInt8.ofNat c.toNat

def bytesOf (s : String) : Stream :=
  ofChars s.toList

def ofBytes (bytes : Stream) : String :=
  String.ofList (toChars bytes)

def pack (s : String) : String :=
  ofBytes (Text.encode s)

def unpack (s : String) : String :=
  Text.decodeLossy (bytesOf s)

def pathOf (s : String) : Path :=
  ⟨unpack s⟩

def lineFeed : UInt8 := 0x0A

/-- The lines of a stream, each with the byte that ends it; the last one may have none. -/
def linesOf (bytes : Stream) (mark : UInt8 := lineFeed) : List Stream :=
  match bytes with
  | [] => []
  | b :: rest =>
    if b = mark then [b] :: linesOf rest mark
    else
      match linesOf rest mark with
      | [] => [[b]]
      | line :: lines => (b :: line) :: lines

def bareLine (line : Stream) (mark : UInt8 := lineFeed) : Stream :=
  if line.getLast? = some mark then line.dropLast else line

def lineTexts (bytes : Stream) (mark : UInt8 := lineFeed) : List String :=
  (linesOf bytes mark).map fun line => ofBytes (bareLine line mark)

def asLines (lines : List String) (mark : UInt8 := lineFeed) : Stream :=
  lines.flatMap fun line => bytesOf line ++ [mark]

def decimal? (s : String) : Option Nat :=
  if s ≠ "" ∧ s.toList.all Char.isDigit then some (Number.digitsValue s.toList) else none

def integer? (s : String) : Option Int :=
  match s.toList with
  | '-' :: ds => (decimal? (String.ofList ds)).map fun n => -(n : Int)
  | '+' :: ds => (decimal? (String.ofList ds)).map fun n => (n : Int)
  | _ => (decimal? s).map fun n => (n : Int)

end PageScript.Shell

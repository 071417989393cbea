/-
Bytes as digits: `base32` and `base64`.

A coding takes the bits of some bytes in groups, each of which is a digit. What is cut short at the
end is filled up with zeros, and with pads up to a full group of digits.
-/
import PageScript.Shell.Program.Dump

namespace PageScript.Shell.Program

/-- How bytes are written as digits. -/
structure Coding where
  digits : List Char
  /-- How many bits a digit has. -/
  bits : Nat
  /-- How many digits stand together. -/
  group : Nat
  /-- Whether a group that is cut short stands for nothing. -/
  whole : Bool := false

namespace Coding

def span (first last : Char) : List Char :=
  (List.range (last.toNat + 1 - first.toNat)).map fun i => Char.ofNat (first.toNat + i)

def base64 : Coding :=
  { digits := span 'A' 'Z' ++ span 'a' 'z' ++ span '0' '9' ++ ['+', '/'], bits := 6, group := 4 }

def base32 : Coding :=
  { digits := span 'A' 'Z' ++ span '2' '7', bits := 5, group := 8, whole := true }

def value? (c : Coding) (digit : Char) : Option Nat :=
  c.digits.findIdx? (· = digit)

def groupText (c : Coding) (bytes : Stream) : List Char :=
  let count := (8 * bytes.length + c.bits - 1) / c.bits
  let number :=
    bytes.foldl (fun n b => n * 256 + b.toNat) 0 * 2 ^ (count * c.bits - 8 * bytes.length)
  let digits := (List.range count).map fun i =>
    c.digits.getD (number / 2 ^ (c.bits * (count - 1 - i)) % 2 ^ c.bits) '0'
  digits ++ List.replicate (c.group - count) '='

def encode (c : Coding) (bytes : Stream) : List Char :=
  (chunksOf (c.group * c.bits / 8) (bytes.length + 1) bytes).flatMap c.groupText

/-- The bytes of one group from a byte on, as far as its digits are fine, and whether all are. -/
def groupBytes (c : Coding) (digits : List Char) : (fuel : Nat) → (done : Nat) → Stream × Bool
  | 0, _ => ([], true)
  | fuel + 1, done =>
    let used := (8 * done + c.bits - 1) / c.bits
    let needed := (8 * (done + 1) + c.bits - 1) / c.bits
    let rest := digits.drop used
    if 0 < done && !rest.isEmpty && rest.all (· = '=') && digits.length = c.group then
      ([], true)
    else
      match (digits.take needed).mapM c.value? with
      | none => ([], false)
      | some values =>
        if values.length < needed then ([], false)
        else
          let number := values.foldl (fun n v => n * 2 ^ c.bits + v) 0
          let byte := UInt8.ofNat (number / 2 ^ (needed * c.bits - 8 * (done + 1)) % 256)
          let (more, fine) := c.groupBytes digits fuel (done + 1)
          (byte :: more, fine)

def decodeGroups (c : Coding) : List (List Char) → Stream × Bool
  | [] => ([], true)
  | digits :: rest =>
    if c.whole && digits.length < c.group then ([], false)
    else
      match c.groupBytes digits (c.group * c.bits / 8) 0 with
      | (bytes, false) => (bytes, false)
      | (bytes, true) =>
        let (more, fine) := c.decodeGroups rest
        (bytes ++ more, fine)

def decode (c : Coding) (digits : List Char) : Stream × Bool :=
  c.decodeGroups (chunksOf c.group (digits.length + 1) digits)

end Coding

def encoding (c : Coding) (call : Call) (o : Options) : Effect :=
  let width := match o.value? 'w' with
    | none => some 76
    | some text => decimal? text
  match width, o.operands with
  | none, _ => .complaining call 1 ("invalid wrap size: " ++ quoted ((o.value? 'w').getD ""))
  | _, _ :: extra :: _ => .misused call 1 ("extra operand " ++ quoted extra)
  | some width, operands =>
    let wording (file : String) (e : IoError) : String :=
      if e = .isDirectory then "read error: " ++ reason e else nameText file ++ ": " ++ reason e
    let (bytes, effect) := call.gathered operands 1 wording
    if effect.status ≠ 0 then effect
    else if o.has 'd' then
      let digits := (toChars bytes).filter (· ≠ '\n')
      let (bytes, fine) :=
        c.decode (if o.has 'i' then digits.filter fun d => d = '=' || (c.value? d).isSome else digits)
      let effect := effect.send bytes
      if fine then effect else effect.complain call 1 "invalid input"
    else
      let digits := ofChars (c.encode bytes)
      if width = 0 then effect.send digits
      else effect.send ((chunksOf width (digits.length + 1) digits).flatMap (· ++ [0x0A]))

def encodingIn (c : Coding) (call : Call) : Effect :=
  call.withOptions 1
    { flags := "di".toList, valued := "w".toList
      long := [("decode", 'd'), ("ignore-garbage", 'i'), ("wrap", 'w')] }
    (encoding c call)

end PageScript.Shell.Program

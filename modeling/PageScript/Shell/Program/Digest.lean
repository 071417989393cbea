/-
Sums and digests of files: `cksum`, `md5sum` and `sha256sum`.

A line holds the digest of a file and its name.
-/
import PageScript.Bytes.Md5
import PageScript.Bytes.Sha2
import PageScript.Shell.Program.Basic

namespace PageScript.Shell.Program

-- ======== sums

def sumBit (r : UInt32) : UInt32 :=
  if r &&& 0x80000000 ≠ 0 then (r <<< 1) ^^^ 0x04C11DB7 else r <<< 1

def sumByte (r : UInt32) (b : UInt8) : UInt32 :=
  Nat.repeat sumBit 8 (r ^^^ (b.toUInt32 <<< 24))

/-- The bytes of a length, the lowest first; each takes one of `fuel`. -/
def lengthBytes : (fuel : Nat) → Nat → Stream
  | 0, _ => []
  | _, 0 => []
  | fuel + 1, n => UInt8.ofNat (n % 256) :: lengthBytes fuel (n / 256)

def checksum (bytes : Stream) : Nat :=
  ((bytes ++ lengthBytes 8 bytes.length).foldl sumByte 0 ^^^ 0xFFFFFFFF).toNat

def checkLine (bytes : Stream) : String :=
  Number.natText (checksum bytes) ++ " " ++ Number.natText bytes.length

-- ======== digests

/-- A kind of digest: what it is called, and how it is made. -/
structure Digest where
  tag : String
  make : Stream → Stream

namespace Digest

def table : List (String × Digest) :=
  [("md5", ⟨"MD5", Bytes.Md5.md5⟩), ("sha256", ⟨"SHA256", Bytes.Sha2.sha256⟩)]

def hex (bytes : Stream) : String :=
  String.join (bytes.map fun b => String.ofList ((Nat.toDigits 16 (256 + b.toNat)).drop 1))

end Digest

def isIntricate (name : String) : Bool :=
  name.toList.any fun c => c = '\\' || c = '\n' || c = '\r'

def spelledName (name : String) : String :=
  String.join (name.toList.map fun c =>
    match c with
    | '\\' => "\\\\"
    | '\n' => "\\n"
    | '\r' => "\\r"
    | c => c.toString)

/-- How digests are written. -/
structure DigestForm where
  /-- Whether the kind of the digest stands in front. -/
  tagged : Bool := false
  starred : Bool := false
  /-- Whether lines end with no byte of a text, and nothing is spelled out. -/
  zero : Bool := false

def DigestForm.line (form : DigestForm) (digest : Digest) (file : String) (bytes : Stream) :
    Stream :=
  let spells := !form.zero && isIntricate file
  let name := if spells then spelledName file else file
  let text := Digest.hex (digest.make bytes)
  asLines
    [(if spells then "\\" else "") ++
      (if form.tagged then digest.tag ++ " (" ++ name ++ ") = " ++ text
      else text ++ (if form.starred then " *" else "  ") ++ name)]
    (if form.zero then 0 else lineFeed)

-- ======== programs

def digestProgram (name : String) (call : Call) : Effect :=
  call.withOptions 1
    { flags := ['b', 't', 'z']
      long := [("binary", 'b'), ("tag", 'T'), ("text", 't'), ("zero", 'z')] }
    fun o =>
      if o.has 'T' && o.last? ['b', 't'] = some 't' then
        .misused call 1 "--tag does not support --text mode"
      else
        let form : DigestForm :=
          { tagged := o.has 'T', starred := o.last? ['b', 't'] = some 'b', zero := o.has 'z' }
        let files := if o.operands.isEmpty then ["-"] else o.operands
        files.foldl
          (fun effect file =>
            match call.take effect file, Digest.table.lookup name with
            | .ok (bytes, effect), some digest => effect.send (form.line digest file bytes)
            | .ok (_, effect), none => effect
            | .error e, _ => effect.complain call 1 (nameText file ++ ": " ++ reason e))
          { disk := call.disk }

def cksum (call : Call) : Effect :=
  call.withOptions 1 {} fun o =>
    call.feedEach o.operands fun file bytes =>
      asLines [checkLine bytes ++ (if o.operands.isEmpty then "" else " " ++ file)]

end PageScript.Shell.Program

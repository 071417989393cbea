/-
Bytes as text: `od`.
-/
import PageScript.Shell.Program.Print

namespace PageScript.Shell.Program

-- ======== od

/-- How bytes are shown: in units of so many bytes, each as a number or as a character. -/
inductive DumpKind where
  | number (base size : Nat) (signed : Bool)
  | char
  | named
  deriving Repr, DecidableEq, Inhabited

def byteNames : List String :=
  ["nul", "soh", "stx", "etx", "eot", "enq", "ack", "bel", "bs", "ht", "nl", "vt", "ff", "cr", "so",
    "si", "dle", "dc1", "dc2", "dc3", "dc4", "nak", "syn", "etb", "can", "em", "sub", "esc", "fs",
    "gs", "rs", "us", "sp"]

def DumpKind.width : DumpKind → Nat
  | .char | .named => 4
  | .number base size signed =>
    let digits := match base, size with
      | 16, _ => 2 * size
      | 8, 1 => 3
      | 8, 2 => 6
      | 8, 4 => 11
      | 8, _ => 22
      | _, 1 => 3
      | _, 2 => 5
      | _, 4 => 10
      | _, _ => 20
    1 + digits + (if signed then 1 else 0)

def DumpKind.size : DumpKind → Nat
  | .number _ size _ => size
  | _ => 1

def charText (b : UInt8) : String :=
  match b.toNat with
  | 0 => "\\0"
  | 7 => "\\a"
  | 8 => "\\b"
  | 9 => "\\t"
  | 10 => "\\n"
  | 11 => "\\v"
  | 12 => "\\f"
  | 13 => "\\r"
  | n =>
    if 32 ≤ n ∧ n ≤ 126 then (Char.ofNat n).toString
    else
      let ds := Nat.toDigits 8 n
      String.ofList (List.replicate (3 - ds.length) '0' ++ ds)

def DumpKind.unit (k : DumpKind) (bytes : Stream) : String :=
  let text := match k with
    | .char => charText (bytes.headD 0)
    | .named =>
      let n := (bytes.headD 0).toNat % 128
      if n = 127 then "del" else (byteNames[n]?).getD (Char.ofNat n).toString
    | .number base size signed =>
      let n : Nat := bytes.foldr (fun b n => n * 256 + b.toNat) 0
      if signed && n ≥ 2 ^ (8 * size - 1) then Number.intText ((n : Int) - 2 ^ (8 * size))
      else
        let ds := Nat.toDigits base n
        let digits := k.width - 1
        if base = 10 then Number.natText n
        else String.ofList (List.replicate (digits - ds.length) '0' ++ ds)
  ({ width := k.width } : Layout).pad text

/-- A list parted into stretches of a length; each takes one of `fuel`. -/
def chunksOf {α : Type} (size : Nat) : (fuel : Nat) → List α → List (List α)
  | 0, _ => []
  | _, [] => []
  | fuel + 1, items => items.take size :: chunksOf size fuel (items.drop size)

/-- What is wrong with ways to show bytes. -/
inductive KindFault where
  | strange (c : Char)
  | badSize (size : Nat)
  deriving Repr, DecidableEq, Inhabited

def KindFault.message (text : String) : KindFault → String
  | .strange c => "invalid character " ++ ticked c.toString ++ " in type string " ++ quoted text
  | .badSize size =>
    "invalid type string " ++ quoted text ++ ";\nthis system doesn't provide a " ++
      Number.natText size ++ "-byte integral type"

def readKindSize (cs : List Char) : Except KindFault (Nat × List Char) :=
  match cs with
  | 'C' :: rest => .ok (1, rest)
  | 'S' :: rest => .ok (2, rest)
  | 'I' :: rest => .ok (4, rest)
  | 'L' :: rest => .ok (8, rest)
  | _ =>
    let ds := cs.takeWhile Char.isDigit
    let size := if ds.isEmpty then 4 else Number.digitsValue ds
    if [1, 2, 4, 8].contains size then .ok (size, cs.drop ds.length) else .error (.badSize size)

/-- Reads ways to show bytes, one behind the other, each with whether characters are shown beside
it; each takes one of `fuel`. -/
def readKinds : (fuel : Nat) → List Char → Except KindFault (List (DumpKind × Bool))
  | 0, _ => .ok []
  | _, [] => .ok []
  | fuel + 1, c :: rest => do
    let number (base : Nat) (signed : Bool) : Except KindFault (DumpKind × List Char) := do
      let (size, rest) ← readKindSize rest
      return (.number base size signed, rest)
    let (kind, rest) ← match c with
      | 'c' => pure (.char, rest)
      | 'a' => pure (.named, rest)
      | 'x' => number 16 false
      | 'o' => number 8 false
      | 'u' => number 10 false
      | 'd' => number 10 true
      | _ => throw (.strange c)
    match rest with
    | 'z' :: rest => return (kind, true) :: (← readKinds fuel rest)
    | rest => return (kind, false) :: (← readKinds fuel rest)

def offsetText (base : Char) (n : Nat) : String :=
  let padded (width base : Nat) : String :=
    let ds := Nat.toDigits base n
    String.ofList (List.replicate (width - ds.length) '0' ++ ds)
  match base with
  | 'n' => ""
  | 'x' => padded 6 16
  | 'd' => padded 7 10
  | _ => padded 7 8

def od (call : Call) : Effect :=
  call.withOptions 1
    { flags := "abcdosxvi".toList, valued := "AjNtwS".toList
      long := [("address-radix", 'A'), ("skip-bytes", 'j'), ("read-bytes", 'N'), ("format", 't'),
        ("output-duplicates", 'v'), ("width", 'w')] }
    fun o =>
      let ofLetter (g : Char × String) : Except String (List (DumpKind × Bool)) :=
        match g.1 with
        | 'a' => .ok [(.named, false)]
        | 'b' => .ok [(.number 8 1 false, false)]
        | 'c' => .ok [(.char, false)]
        | 'd' => .ok [(.number 10 2 false, false)]
        | 'o' => .ok [(.number 8 2 false, false)]
        | 's' => .ok [(.number 10 2 true, false)]
        | 'i' => .ok [(.number 10 4 true, false)]
        | 'x' => .ok [(.number 16 2 false, false)]
        | 't' => (readKinds (g.2.length + 1) g.2.toList).mapError (·.message g.2)
        | 'A' =>
          if "doxn".toList.contains (g.2.toList.headD ' ') then .ok []
          else .error ("invalid output address radix " ++
            quoted (String.ofList (g.2.toList.take 1)) ++
            "; it must be one character from [doxn]")
        | 'j' | 'N' =>
          if (decimal? g.2).isSome then .ok []
          else .error ("invalid -" ++ g.1.toString ++ " argument " ++ ticked g.2)
        | _ => .ok []
      match o.given.mapM ofLetter with
      | .error text => .complaining call 1 text
      | .ok lists =>
        let kinds := lists.flatten
        let kinds := if kinds.isEmpty then [(DumpKind.number 8 2 false, false)] else kinds
        let base := ((o.value? 'A').bind fun a => a.toList.head?).getD 'o'
        let (found, effect) := call.inputs o.operands
        let bytes := (found.map Prod.snd).flatten
        let skipped := ((o.value? 'j').bind decimal?).getD 0
        let bytes := bytes.drop skipped
        let bytes := match (o.value? 'N').bind decimal? with
          | some n => bytes.take n
          | none => bytes
        let per := match (o.value? 'w').bind decimal? with | some n => max n 1 | none => 16
        let widest := kinds.foldl (fun n k => max n k.1.size) 1
        let cell := kinds.foldl (fun n k => max n (k.1.width * (widest / k.1.size))) 0
        let row (offset : Nat) (chunk : Stream) : List String :=
          kinds.zipIdx.map fun ((k, shown), i) =>
            let each := cell * k.size / widest
            let units := (chunksOf k.size per chunk).map fun u =>
              ({ width := each } : Layout).pad (k.unit (u ++ List.replicate (k.size - u.length) 0))
            let text := String.join units
            let front := offsetText base offset
            let front := if i = 0 then front else String.ofList (List.replicate front.length ' ')
            let side := if shown then
                String.ofList (List.replicate (each * (per / k.size) - text.length) ' ') ++ "  >" ++
                  String.ofList (chunk.map fun b =>
                    if 32 ≤ b && b ≤ 126 then Char.ofNat b.toNat else '.') ++ "<"
              else ""
            front ++ text ++ side
        let chunks := chunksOf per (bytes.length + 1) bytes
        let (lines, _, _, _) := chunks.foldl
          (fun (acc : List String × Nat × Option Stream × Bool) chunk =>
            let (lines, offset, previous, starred) := acc
            let next := offset + chunk.length
            if !o.has 'v' && previous = some chunk && chunk.length = per then
              (if starred then lines else lines ++ ["*"], next, previous, true)
            else (lines ++ row offset chunk, next, some chunk, false))
          ([], skipped, none, false)
        let last := if base = 'n' then [] else [offsetText base (skipped + bytes.length)]
        if found.isEmpty then effect else effect.send (asLines (lines ++ last))

end PageScript.Shell.Program

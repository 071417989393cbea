/-
Files cut and filled by sizes: `dd` and `truncate`.
-/
import PageScript.Bytes.Words
import PageScript.Shell.Program.Basic

namespace PageScript.Shell.Program

-- ======== sizes

/-- What a letter behind a size multiplies it by: powers of 1024, or of 1000 with a `B` behind. -/
def sizeFactor? (suffix : String) : Option Nat :=
  match suffix.toList with
  | [] => some 1
  | ['b'] => some 512
  | c :: rest =>
    match "KMGTPEZYRQ".toList.idxOf? (if c = 'k' || c = 'm' then c.toUpper else c) with
    | none => none
    | some i =>
      match rest with
      | [] | ['i', 'B'] => some (1024 ^ (i + 1))
      | ['B'] => some (1000 ^ (i + 1))
      | _ => none

def size? (text : String) : Option Nat :=
  let ds := text.toList.takeWhile Char.isDigit
  if ds.isEmpty then none
  else
    (sizeFactor? (String.ofList (text.toList.drop ds.length))).map fun f =>
      Number.digitsValue ds * f

-- ======== dd

def copyFactor? (suffix : String) : Option Nat :=
  match suffix with
  | "c" => some 1
  | "w" => some 2
  | _ => sizeFactor? suffix

/-- A number for a copy: factors with a cross between them. -/
def copyNumber? (text : String) : Option Nat :=
  (text.splitOn "x").foldl
    (fun n part =>
      let ds := part.toList.takeWhile Char.isDigit
      let factor := copyFactor? (String.ofList (part.toList.drop ds.length))
      if ds.isEmpty then none else n.bind fun n => factor.map (n * Number.digitsValue ds * ·))
    (some 1)

/-- What a copy is asked to do. -/
structure Copying where
  source : Option String := none
  target : Option String := none
  /-- The sizes of the blocks that are read and written. -/
  inBlock : Nat := 512
  outBlock : Nat := 512
  /-- Whether blocks are written as they are read. -/
  direct : Bool := false
  recordSize : Nat := 0
  count : Option Nat := none
  /-- Whether the count is one of bytes. -/
  countBytes : Bool := false
  skip : Nat := 0
  skipBytes : Bool := false
  seek : Nat := 0
  seekBytes : Bool := false
  conversions : List String := []
  status : String := ""

/-- What is wrong with an operand of a copy. -/
inductive CopyFault where
  | unknown (text : String)
  | badNumber (text : String)
  | badWord (kind text : String)
  deriving Repr, DecidableEq, Inhabited

def conversionNames : List String :=
  ["ascii", "ebcdic", "ibm", "block", "unblock", "lcase", "ucase", "sparse", "swab", "sync", "excl",
    "nocreat", "notrunc", "noerror", "fdatasync", "fsync"]

def copyFlags : List String :=
  ["append", "binary", "cio", "count_bytes", "direct", "directory", "dsync", "fullblock", "nocache",
    "noatime", "noctty", "nofollow", "nolinks", "nonblock", "seek_bytes", "skip_bytes", "sync",
    "text"]

def Copying.take (c : Copying) (arg : String) : Except CopyFault Copying :=
  let name := String.ofList (arg.toList.takeWhile (· ≠ '='))
  let value := String.ofList ((arg.toList.dropWhile (· ≠ '=')).drop 1)
  let number (positive : Bool) (f : Nat → Copying) : Except CopyFault Copying :=
    match copyNumber? value with
    | some 0 => if positive then .error (.badNumber value) else .ok (f 0)
    | some n => .ok (f n)
    | none => .error (.badNumber value)
  -- a number with a `B` at its end counts bytes
  let amount (f : Nat → Bool → Copying) : Except CopyFault Copying :=
    match copyNumber? value, (value.dropEnd 1).toString with
    | some n, _ => .ok (f n (value.endsWith "B"))
    | none, front =>
      match value.endsWith "B", copyNumber? front with
      | true, some n => .ok (f n true)
      | _, _ => .error (.badNumber value)
  let words (kind : String) (known : List String) (f : List String → Copying) :
      Except CopyFault Copying :=
    match (value.splitOn ",").find? fun w => !known.contains w with
    | some w => .error (.badWord kind w)
    | none => .ok (f (value.splitOn ","))
  if !arg.toList.contains '=' then .error (.unknown arg)
  else
    match name with
    | "if" => .ok { c with source := some value }
    | "of" => .ok { c with target := some value }
    | "bs" => number true fun n => { c with inBlock := n, outBlock := n, direct := true }
    | "ibs" => number true fun n => { c with inBlock := n, direct := false }
    | "obs" => number true fun n => { c with outBlock := n, direct := false }
    | "cbs" => number true fun n => { c with recordSize := n }
    | "count" => amount fun n b => { c with count := some n, countBytes := b || c.countBytes }
    | "skip" | "iseek" => amount fun n b => { c with skip := n, skipBytes := b || c.skipBytes }
    | "seek" | "oseek" => amount fun n b => { c with seek := n, seekBytes := b || c.seekBytes }
    | "conv" => words "conversion" conversionNames fun ws => { c with conversions := ws }
    | "status" => words "status level" ["none", "noxfer", "progress"] fun _ =>
        { c with status := value }
    | "iflag" => words "input flag" copyFlags fun ws =>
        { c with
          countBytes := c.countBytes || ws.contains "count_bytes"
          skipBytes := c.skipBytes || ws.contains "skip_bytes" }
    | "oflag" => words "output flag" copyFlags fun ws =>
        { c with seekBytes := c.seekBytes || ws.contains "seek_bytes" }
    | _ => .error (.unknown arg)

def exchanged : Stream → Stream
  | a :: b :: rest => b :: a :: exchanged rest
  | rest => rest

def toRecords (size : Nat) (bytes : Stream) : Stream :=
  (linesOf bytes).flatMap fun line =>
    let bare := (bareLine line).take size
    bare ++ List.replicate (size - bare.length) 0x20

def ofRecords (size : Nat) (bytes : Stream) : Stream :=
  (Bytes.groups size bytes).flatMap fun record =>
    (record.reverse.dropWhile (· = 0x20)).reverse ++ [lineFeed]

def Copying.convert (c : Copying) (bytes : Stream) : Stream :=
  let does (name : String) : Bool := c.conversions.contains name
  let cased (f : Char → Char) (bytes : Stream) : Stream := ofChars ((toChars bytes).map f)
  let bytes := if does "swab" then exchanged bytes else bytes
  let bytes := if does "lcase" then cased Char.toLower bytes
    else if does "ucase" then cased Char.toUpper bytes else bytes
  if c.recordSize = 0 then bytes
  else if does "block" then toRecords c.recordSize bytes
  else if does "unblock" then ofRecords c.recordSize bytes
  else bytes

def recordCount (size : Nat) (blocks : List Stream) : String :=
  let whole := (blocks.filter fun b => b.length = size).length
  Number.natText whole ++ "+" ++ Number.natText (blocks.length - whole)

def overwritten (old : Stream) (start : Nat) (new : Stream) (cutsBehind : Bool) : Stream :=
  let front := old.take start ++ List.replicate (start - old.length) 0
  front ++ new ++ (if cutsBehind then [] else old.drop (start + new.length))

def Copying.run (call : Call) (c : Copying) : Effect :=
  let does (name : String) : Bool := c.conversions.contains name
  let source := match c.source with
    | some file => call.disk.read (pathOf file)
    | none => .ok call.input
  match source with
  | .error .isDirectory =>
    report c [] [] (.complaining call 1
      ("error reading " ++ quotedName (c.source.getD "standard input") ++ ": Is a directory"))
  | .error e =>
    .complaining call 1 ("failed to open " ++ quotedName (c.source.getD "") ++ ": " ++ reason e)
  | .ok bytes =>
    let skipped := if c.skipBytes then c.skip else c.skip * c.inBlock
    let rest := bytes.drop skipped
    let used := match c.count with
      | none => rest
      | some n => rest.take (if c.countBytes then n else n * c.inBlock)
    let blocks := Bytes.groups c.inBlock used
    let read := if does "sync" then
        blocks.map fun b => b ++ List.replicate (c.inBlock - b.length) 0
      else blocks
    let converted := c.convert read.flatten
    let plain := !(["block", "unblock", "lcase", "ucase", "swab"].any does)
    let written :=
      if c.direct && plain then read else Bytes.groups c.outBlock converted
    let left := if c.source.isNone then some (rest.drop used.length) else none
    let start : Effect := { rest := left, disk := call.disk }
    let start :=
      if skipped > bytes.length then
        start.complain call 0
          (nameText (c.source.getD "standard input") ++ ": cannot skip to specified offset")
      else start
    match c.target with
    | none => report c blocks written (start.send converted)
    | some file =>
      let path := pathOf file
      let old := (call.disk.read path).toOption
      if does "nocreat" && old.isNone then
        .complaining call 1 ("failed to open " ++ quotedName file ++ ": No such file or directory")
      else if does "excl" && old.isSome then
        .complaining call 1 ("failed to open " ++ quotedName file ++ ": File exists")
      else
        let offset := if c.seekBytes then c.seek else c.seek * c.outBlock
        let content := overwritten (old.getD []) offset converted (!does "notrunc")
        match call.disk.write path content with
        | .ok disk => report c blocks written { start with disk }
        | .error e => .complaining call 1 ("failed to open " ++ quotedName file ++ ": " ++ reason e)
where
  /-- Says how much was copied. -/
  report (c : Copying) (read written : List Stream) (e : Effect) : Effect :=
    let size := (written.map List.length).sum
    let lines :=
      [recordCount c.inBlock read ++ " records in",
        recordCount c.outBlock written ++ " records out"]
        ++ (if c.status = "noxfer" then []
          else [Number.natText size ++ (if size = 1 then " byte" else " bytes") ++
            " copied, 0.0001 s, " ++ Number.natText (size * 10) ++ " kB/s"])
    if c.status = "none" then e
    else { e with writes := e.writes ++ [(2, asLines lines)], disk := e.disk, rest := e.rest }

def dd (call : Call) : Effect :=
  call.withOptions 1 {} fun o =>
    match o.operands.foldlM Copying.take ({} : Copying) with
    | .error (.unknown arg) => .misused call 1 ("unrecognized operand " ++ quotedName arg)
    | .error (.badNumber text) => .complaining call 1 ("invalid number: " ++ quotedName text)
    | .error (.badWord kind text) => .misused call 1 ("invalid " ++ kind ++ ": " ++ quoted text)
    | .ok c =>
      if c.conversions.contains "lcase" && c.conversions.contains "ucase" then
        .complaining call 1 "cannot combine lcase and ucase"
      else if c.conversions.contains "excl" && c.conversions.contains "nocreat" then
        .complaining call 1 "cannot combine excl and nocreat"
      else c.run call

-- ======== truncate

/-- How a size is meant. -/
inductive Resizing where
  | exactly
  | by (grows : Bool)
  | atMost
  | atLeast
  | multipleBelow
  | multipleAbove
  deriving Repr, DecidableEq, Inhabited

def Resizing.apply (r : Resizing) (amount size : Nat) : Nat :=
  match r with
  | .exactly => amount
  | .by true => size + amount
  | .by false => size - amount
  | .atMost => min size amount
  | .atLeast => max size amount
  | .multipleBelow => size / amount * amount
  | .multipleAbove => (size + amount - 1) / amount * amount

def readResizing? (text : String) : Option (Resizing × Nat) :=
  let cs := text.toList.dropWhile fun c => c = ' ' || c = '\t'
  let with_ (r : Resizing) (cs : List Char) : Option (Resizing × Nat) :=
    (size? (String.ofList cs)).map fun n => (r, n)
  match cs with
  | '+' :: rest => with_ (.by true) rest
  | '-' :: rest => with_ (.by false) rest
  | '<' :: rest => with_ .atMost rest
  | '>' :: rest => with_ .atLeast rest
  | '/' :: rest => with_ .multipleBelow rest
  | '%' :: rest => with_ .multipleAbove rest
  | rest => with_ .exactly rest

def truncate (call : Call) : Effect :=
  call.withOptions 1
    { flags := "co".toList, valued := "rs".toList
      long := [("io-blocks", 'o'), ("no-create", 'c'), ("reference", 'r'), ("size", 's')] }
    fun o =>
      let either := quoted "--size" ++ " or " ++ quoted "--reference"
      match o.value? 's', o.value? 'r' with
      | none, none => .misused call 1 ("you must specify either " ++ either)
      | asked, reference =>
        match (asked.map readResizing?).getD (some (.by true, 0)) with
        | none => .complaining call 1 ("Invalid number: " ++ quoted (asked.getD ""))
        | some (how, amount) =>
          if reference.isSome && asked.isSome && how = .exactly then
            .misused call 1
              ("you must specify a relative " ++ quoted "--size" ++ " with " ++
                quoted "--reference")
          else if o.has 'o' && asked.isNone then
            .misused call 1 (quoted "--io-blocks" ++ " was specified but " ++ quoted "--size" ++
              " was not")
          else if amount = 0 && (how = .multipleAbove || how = .multipleBelow) then
            .complaining call 1 "division by zero"
          else if o.operands.isEmpty then .misused call 1 "missing file operand"
          else
            match reference.map fun file => (file, call.disk.read (pathOf file)) with
            | some (file, .error e) =>
              .complaining call 1 ("cannot stat " ++ quotedName file ++ ": " ++ reason e)
            | found =>
              let base := found.bind fun (_, content) => content.toOption.map List.length
              let amount := if o.has 'o' then amount * 4096 else amount
              o.operands.foldl (resize call o how amount base) { disk := call.disk }
where
  /-- Shrinks or extends one file. -/
  resize (call : Call) (o : Options) (how : Resizing) (amount : Nat) (base : Option Nat)
      (effect : Effect) (file : String) : Effect :=
    let path := pathOf file
    let refused (e : IoError) : Effect :=
      effect.complain call 1 ("cannot open " ++ quotedName file ++ " for writing: " ++ reason e)
    let resized (old : Stream) : Effect :=
      let size := how.apply amount (base.getD old.length)
      match effect.disk.write path (old.take size ++ List.replicate (size - old.length) 0) with
      | .ok disk => { effect with disk }
      | .error e => refused e
    match effect.disk.read path with
    | .ok old => resized old
    | .error .notFound => if o.has 'c' then effect else resized []
    | .error e => refused e

end PageScript.Shell.Program

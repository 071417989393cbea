/-
Running editing scripts.

Each line of the input in turn becomes the text at hand, all instructions that are for it are done,
and what has become of the text is written. A second text can be kept from line to line.
-/
import PageScript.Shell.Edit.Script
import PageScript.Shell.Program.Place

namespace PageScript.Shell.Edit

open Program

/-- The state of a run. -/
structure Bench where
  script : Array Instruction
  /-- Whether texts are only written where the script says so. -/
  quiet : Bool
  /-- The byte that ends lines. -/
  mark : UInt8 := lineFeed
  /-- The text at hand. -/
  text : String := ""
  kept : String := ""
  number : Nat := 0
  /-- The lines still to come. -/
  rest : List Stream := []
  /-- Whether the current line ends with a line feed. -/
  closed : Bool := true
  /-- Whether the last line written still needs a line feed. -/
  unfinished : Bool := false
  /-- What was written, the latest first. -/
  out : List Stream := []
  /-- What is written when the line is done with. -/
  queue : List Stream := []
  substituted : Bool := false
  /-- The instructions whose range has begun, with the line it ends at if that is known. -/
  active : List (Nat × Option Nat) := []
  lastRegex : Option Regex := none
  /-- What was written to files. -/
  files : List (String × Stream) := []
  disk : Disk
  status : Nat := 0
  /-- What is wrong with the script that shows only now. -/
  flaw : Option String := none
  deriving Inhabited

namespace Bench

def put (b : Bench) (bytes : Stream) : Bench :=
  let gap := if b.unfinished then [[b.mark]] else []
  { b with out := bytes :: gap ++ b.out, unfinished := false }

def putLine (b : Bench) (text : String) : Bench :=
  let b := b.put (wideBytes text ++ (if b.closed then [b.mark] else []))
  { b with unfinished := !b.closed }

def putFile (b : Bench) (file text : String) : Bench :=
  if file = "/dev/stdout" then b.putLine text
  else
    let bytes := wideBytes text ++ [b.mark]
    if b.files.any fun f => f.1 = file then
      { b with files := b.files.map fun f => if f.1 = file then (f.1, f.2 ++ bytes) else f }
    else { b with files := b.files ++ [(file, bytes)] }

def isLast (b : Bench) : Bool :=
  b.rest.isEmpty

def firstLine (b : Bench) : String × Option String :=
  match b.text.toList.span (· ≠ '\n') with
  | (front, _ :: back) => (String.ofList front, some (String.ofList back))
  | (front, []) => (String.ofList front, none)

/-- Finds an expression in the text at hand; without one, the last one used. -/
def findIn (b : Bench) (r : Option Regex) (place : Nat) : Option Regex.Match × Bench :=
  match r <|> b.lastRegex with
  | some r => (r.find? b.text.toList.toArray place, { b with lastRegex := some r })
  | none => (none, { b with flaw := some "no previous regular expression" })

def isAt (b : Bench) (a : Address) : Bool × Bench :=
  match a with
  | .line n => (decide (b.number = n), b)
  | .last => (b.isLast, b)
  | .step first step =>
    (if step = 0 then decide (b.number = first)
      else decide (b.number ≥ first) && (b.number - first) % step = 0, b)
  | .matching r =>
    let (found, b) := b.findIn r 0
    (found.isSome, b)

/-- Whether an instruction is for the current line, ranges being begun and ended on the way. -/
def selects (b : Bench) (i : Nat) (instruction : Instruction) : Bool × Bench :=
  match instruction.first, instruction.second with
  | none, _ => (true, b)
  | some a, none => b.isAt a
  | some a, some bound =>
    let close (b : Bench) : Bench := { b with active := b.active.filter fun e => e.1 ≠ i }
    let atBound (b : Bench) (known : Option Nat) : Bool × Bench :=
      match known, bound with
      | some last, _ =>
        if b.number ≥ last then (decide (b.number ≤ last), close b) else (true, b)
      | none, .upTo a =>
        let (here, b) := b.isAt a
        (true, if here then close b else b)
      | none, _ => (true, close b)
    match b.active.lookup i with
    | some known => atBound b known
    | none =>
      if a = .line 0 then
        if b.number = 1 then atBound { b with active := (i, none) :: b.active } none
        else (false, b)
      else
        let (here, b) := b.isAt a
        if !here then (false, b)
        else
          let last := match bound with
            | .upTo (.line n) => some n
            | .further n => some (b.number + n)
            | .multiple 0 => some b.number
            | .multiple n => some ((b.number + n - 1) / n * n)
            | .upTo _ => none
          match last with
          | some n =>
            (true, if n ≤ b.number then b else { b with active := (i, some n) :: b.active })
          | none => (true, { b with active := (i, none) :: b.active })

-- ======== replacements

/-- How the case of letters is changed: for the rest of the text, and for the next letter only. -/
structure Casing where
  rest : Option Char := none
  next : Option Char := none

def Casing.apply (k : Casing) (c : Char) : Char :=
  match k.next, k.rest with
  | some 'u', _ => wideUpper c
  | some _, _ => wideLower c
  | none, some 'U' => wideUpper c
  | none, some _ => wideLower c
  | none, none => c

def filled (pieces : List Piece) (m : Regex.Match) (text : Array Char) : List Char :=
  let add (acc : List Char × Casing) (cs : List Char) : List Char × Casing :=
    cs.foldl (fun (out, k) c => (k.apply c :: out, { k with next := none })) acc
  (pieces.foldl
    (fun (acc : List Char × Casing) piece =>
      match piece with
      | .char c => add acc [c]
      | .group n => add acc (m.group text n)
      | .casing 'E' => (acc.1, {})
      | .casing letter =>
        if letter.isUpper then (acc.1, { acc.2 with rest := some letter })
        else (acc.1, { acc.2 with next := some letter }))
    ([], {})).1.reverse

/-- Replaces matches from a place on; each match takes one of `fuel`. `count` is the number of
matches before, and `previous` where the last one ended. -/
def replaceFrom (regex : Regex) (r : Replacement) (text : Array Char) :
    (fuel : Nat) → (count place : Nat) → (previous : Option Nat) → List Char × Bool
  | 0, _, place, _ => ((text.extract place text.size).toList, false)
  | fuel + 1, count, place, previous =>
    let tail := (text.extract place text.size).toList
    if place > text.size then ([], false)
    else
      match regex.find? text place with
      | none => (tail, false)
      | some m =>
        let between := (text.extract place m.start).toList
        let empty : Bool := m.way.place = m.start
        let step := (text.extract m.start (m.start + 1)).toList
        if empty && previous = some m.start then
          let (more, done) := replaceFrom regex r text fuel count (m.start + 1) none
          (between ++ step ++ more, done)
        else
          let count := count + 1
          let replaces := count ≥ r.occurrence
          let put := if replaces then filled r.pieces m text else m.group text 0
          if replaces && !r.all then
            (between ++ put ++ (text.extract m.way.place text.size).toList, true)
          else if empty then
            let (more, done) := replaceFrom regex r text fuel count (m.start + 1) none
            (between ++ put ++ step ++ more, done || replaces)
          else
            let (more, done) :=
              replaceFrom regex r text fuel count m.way.place (some m.way.place)
            (between ++ put ++ more, done || replaces)

def substitute (b : Bench) (r : Replacement) : Bench :=
  match r.pattern <|> b.lastRegex with
  | none => { b with flaw := some "no previous regular expression" }
  | some regex =>
    let b := { b with lastRegex := some regex }
    let text := b.text.toList.toArray
    let (new, done) := replaceFrom regex r text (text.size + 2) 0 0 none
    if !done then b
    else
      let b := { b with text := String.ofList new, substituted := true }
      let b := if r.printed then b.putLine b.text else b
      match r.file with
      | some file => b.putFile file b.text
      | none => b

/-- A text as it is listed: escapes for what cannot be seen, in lines of at most 70 characters. -/
def listed (text : String) : String :=
  let shown (c : Char) : List Char :=
    match c with
    | '\\' => ['\\', '\\']
    | '\x07' => ['\\', 'a']
    | '\x08' => ['\\', 'b']
    | '\x0c' => ['\\', 'f']
    | '\n' => ['\\', 'n']
    | '\r' => ['\\', 'r']
    | '\t' => ['\\', 't']
    | '\x0b' => ['\\', 'v']
    | _ =>
      if ' ' ≤ c && c ≤ '~' then [c]
      else
        let ds := Nat.toDigits 8 c.toNat
        '\\' :: List.replicate (3 - ds.length) '0' ++ ds
  let (lines, last) := text.toList.foldl
    (fun (acc : List Char × List Char) c =>
      let item := shown c
      if acc.2.length + item.length > 69 then (acc.1 ++ acc.2 ++ ['\\', '\n'], item)
      else (acc.1, acc.2 ++ item))
    ([], [])
  String.ofList (lines ++ last ++ ['$'])

-- ======== cycles

/-- What is left to do after an instruction. -/
inductive Outcome where
  | proceed (place : Nat)
  /-- The line is done with. -/
  | done
  /-- The line is done with, and nothing of it is written. -/
  | dropped
  /-- The script starts over without a new line. -/
  | again
  /-- The script ends; the text at hand is written first if it says so. -/
  | quit (writes : Bool)
  deriving Repr, DecidableEq, Inhabited

def fetch (b : Bench) : String × Bench :=
  match b.rest with
  | [] => ("", b)
  | line :: rest =>
    (widen (ofBytes (bareLine line b.mark)),
      { b with rest, number := b.number + 1, closed := line.getLast? = some b.mark })

def flush (b : Bench) : Bench :=
  let written := b.queue.foldl Bench.put b
  { written with queue := [] }

def labelAt (b : Bench) (name : String) : Outcome :=
  if name = "" then .done
  else
    match b.script.findIdx? fun i => i.action = .label name with
    | some i => .proceed (i + 1)
    | none => .done

def perform (b : Bench) (i : Nat) (instruction : Instruction) : Outcome × Bench :=
  let proceed (b : Bench) : Outcome × Bench := (.proceed (i + 1), b)
  match instruction.action with
  | .block _ | .label _ => proceed b
  | .number => proceed (b.put (wideBytes (Number.natText b.number ++ "\n")))
  | .append text => proceed { b with queue := b.queue ++ [wideBytes text] }
  | .insert text => proceed (b.put (wideBytes text))
  | .change text =>
    let inside := (b.active.lookup i).isSome && !instruction.negated
    (.dropped, if inside then b else b.put (wideBytes text))
  | .jump label => (b.labelAt label, b)
  | .jumpIf label =>
    if b.substituted then (b.labelAt label, { b with substituted := false }) else proceed b
  | .jumpUnless label =>
    if b.substituted then proceed { b with substituted := false } else (b.labelAt label, b)
  | .delete => (.dropped, b)
  | .deleteFirst =>
    match b.firstLine with
    | (_, some rest) => (.again, { b with text := rest })
    | (_, none) => (.dropped, b)
  | .recall => proceed { b with text := b.kept }
  | .recallMore => proceed { b with text := b.text ++ "\n" ++ b.kept }
  | .keep => proceed { b with kept := b.text }
  | .keepMore => proceed { b with kept := b.kept ++ "\n" ++ b.text }
  | .exchange => proceed { b with text := b.kept, kept := b.text }
  | .list => proceed (b.put (wideBytes (listed (narrow b.text) ++ "\n")))
  | .next =>
    if b.isLast then (.quit true, b)
    else
      let b := (if b.quiet then b else b.putLine b.text).flush
      let (line, b) := b.fetch
      proceed { b with text := line }
  | .nextMore =>
    if b.isLast then (.quit true, b)
    else
      let (line, b) := b.flush.fetch
      proceed { b with text := b.text ++ "\n" ++ line }
  | .print => proceed (b.putLine b.text)
  | .printFirst => proceed (b.put (wideBytes (b.firstLine.1 ++ "\n")))
  | .quit status => (.quit true, { b with status })
  | .leave status => (.quit false, { b with status })
  | .read file =>
    match b.disk.read (pathOf (narrow file)) with
    | .ok bytes => proceed (if bytes.isEmpty then b else { b with queue := b.queue ++ [bytes] })
    | .error _ => proceed b
  | .save file => proceed (b.putFile file b.text)
  | .saveFirst file => proceed (b.putFile file b.firstLine.1)
  | .substitute r => proceed (b.substitute r)
  | .exchangeChars pairs =>
    proceed { b with text := b.text.map fun c => (pairs.lookup c).getD c }
  | .empty => proceed { b with text := "" }

/-- Goes on with the script at an instruction; each one takes one of `fuel`. -/
def runFrom : (fuel : Nat) → (i : Nat) → Bench → Bench
  | 0, _, b => b
  | fuel + 1, i, b =>
    let endLine (writes : Bool) (b : Bench) : Bench :=
      (if writes && !b.quiet then b.putLine b.text else b).flush
    let nextLine (b : Bench) : Bench :=
      if b.isLast then b
      else
        let (text, b) := b.fetch
        runFrom fuel 0 { b with text, substituted := false }
    if b.flaw.isSome then b
    else
      match b.script[i]? with
      | none => nextLine (endLine true b)
      | some instruction =>
        let (selected, b) := b.selects i instruction
        if selected = instruction.negated then
          match instruction.action with
          | .block length => runFrom fuel (i + length + 1) b
          | _ => runFrom fuel (i + 1) b
        else
          match b.perform i instruction with
          | (.proceed j, b) => runFrom fuel j b
          | (.done, b) => nextLine (endLine true b)
          | (.dropped, b) => nextLine (endLine false b)
          | (.again, b) => runFrom fuel 0 b.flush
          | (.quit writes, b) => { (if writes then endLine true b else b) with rest := [] }

def patience : Nat := 2000000

def run (script : Array Instruction) (quiet : Bool) (mark : UInt8) (disk : Disk) (bytes : Stream) :
    Bench :=
  let b : Bench := { script, quiet, mark, rest := linesOf bytes mark, disk }
  if b.isLast then b
  else
    let (text, b) := b.fetch
    runFrom patience 0 { b with text }

end Bench

-- ======== program

def expressionOf : (number : Nat) → (place : Nat) → List String → Nat × Nat
  | number, place, [] => (number, place)
  | number, place, piece :: rest =>
    if place ≤ piece.length || rest.isEmpty then (number, place)
    else expressionOf (number + 1) (place - piece.length - 1) rest

/-- The options of `sed`. -/
def editOptions : OptionSet :=
  { flags := "nErsuzi".toList ++ ['\x01'], valued := "efl".toList
    long := [("quiet", 'n'), ("silent", 'n'), ("expression", 'e'), ("file", 'f'),
      ("regexp-extended", 'E'), ("in-place", 'i'), ("separate", 's'), ("unbuffered", 'u'),
      ("null-data", 'z'), ("posix", '\x01')] }

def sed (call : Call) : Effect :=
  let inPlace := call.args.find? fun a => a.startsWith "-i" || a.startsWith "--in-place"
  let ending := match inPlace with
    | some a =>
      if a.startsWith "--in-place=" then String.ofList (a.toList.drop 11)
      else if a.startsWith "--" then "" else String.ofList (a.toList.drop 2)
    | none => ""
  let args := call.args.map fun a =>
    if a.startsWith "-i" then "-i" else if a.startsWith "--in-place" then "--in-place" else a
  Call.withOptions { call with args } 1 editOptions fun o =>
    let given := o.given.filter fun (kind, _) => kind = 'e' || kind = 'f'
    let parts : Except String (List String) := given.mapM fun (kind, value) =>
      if kind = 'e' then .ok value
      else
        match call.fetch value with
        | .ok bytes => .ok (ofBytes (bareLine bytes))
        | .error e => .error ("couldn't open file " ++ value ++ ": " ++ reason e)
    match parts, o.operands with
    | .error text, _ => .complaining call 4 text
    | .ok [], [] => .misused call 1 "no script"
    | .ok [], script :: files => edit call o ending [script] files
    | .ok scripts, files => edit call o ending scripts files
where
  /-- Edits files with a script that was given in parts. -/
  edit (call : Call) (o : Options) (ending : String) (parts files : List String) : Effect :=
    let text := "\n".intercalate parts
    let form : RegexForm := if o.has 'E' || o.has 'r' then .extended else .basic
    let wide := (widen text).toList
    let faulty (place : Nat) (message : String) : String :=
      let before := narrow (String.ofList (wide.take place))
      let (number, char) := expressionOf 1 (max place before.length) parts
      "-e expression #" ++ Number.natText number ++ ", char " ++ Number.natText char ++ ": " ++
        message
    match parse form wide with
    | .error f =>
      .complaining call 1
        (if f.text = RegexFault.bareClass.message then f.text else faulty f.place f.text)
    | .ok script =>
      match missingLabel? script with
      | some label => .complaining call 4 ("can't find label for jump to \x60" ++ label ++ "'")
      | none =>
        let quiet := o.has 'n' || text.startsWith "#n\n"
        let wording (file : String) (e : IoError) : String :=
          match e with
          | .isDirectory => "read error on " ++ file ++ ": " ++ reason e
          | _ => "can't read " ++ file ++ ": " ++ reason e
        let go (disk : Disk) (bytes : Stream) : Bench :=
          Bench.run script.toArray quiet o.mark disk bytes
        let settle (effect : Effect) (b : Bench) : Effect :=
          let disk := b.files.foldl
            (fun (disk : Disk) (file, bytes) =>
              match disk.write (pathOf (narrow file)) bytes with | .ok d => d | .error _ => disk)
            effect.disk
          { effect with disk, status := if b.status ≠ 0 then b.status else effect.status }
        if o.has 'i' && files.isEmpty then .complaining call 4 "no input files"
        else if o.has 'i' then
          let (found, effect) := call.inputs files 2 wording
          found.foldl
            (fun effect (file, bytes) =>
              let b := go effect.disk bytes
              let effect := settle effect b
              let backed := if ending = "" then effect.disk
                else match effect.disk.write (pathOf (file ++ ending)) bytes with
                  | .ok d => d
                  | .error _ => effect.disk
              let unlinked := match placeOf backed file false with
                | .ok (location, .link _) => backed.remove location
                | _ => backed
              match unlinked.write (pathOf file) b.out.reverse.flatten with
              | .ok disk => { effect with disk }
              | .error _ => effect)
            effect
        else if o.has 's' then
          let (found, effect) := call.inputs files 2 wording
          found.foldl
            (fun effect f =>
              let b := go effect.disk f.2
              (settle effect b).send b.out.reverse.flatten)
            effect
        else
          let (found, effect) := call.inputs files 2 wording
          let bytes := (found.map Prod.snd).foldl
            (fun (all : Stream) b =>
              if all.isEmpty || all.getLast? = some o.mark || b.isEmpty then all ++ b
              else all ++ o.mark :: b) []
          let b := go effect.disk bytes
          let effect := (settle effect b).send b.out.reverse.flatten
          match b.flaw with
          | some message => effect.complain call 1 (faulty 0 message)
          | none => effect

end PageScript.Shell.Edit

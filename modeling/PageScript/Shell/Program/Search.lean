/-
Searching lines for patterns: `grep`.
-/
import PageScript.Shell.Program.Print
import PageScript.Shell.Regex
import PageScript.Text.Split

namespace PageScript.Shell.Program

/-- What lines are searched for and what is shown of them. -/
structure Search where
  patterns : List Regex
  inverted : Bool := false
  wholeLines : Bool := false
  wholeWords : Bool := false
  /-- Whether only what was matched is shown. -/
  onlyMatches : Bool := false
  numbered : Bool := false
  named : Bool := false
  offsets : Bool := false
  before : Nat := 0
  after : Nat := 0
  limit : Option Nat := none

namespace Search

def isWord (text : Array Char) (start stop : Nat) : Bool :=
  !((text[start - 1]?.map Regex.isWordChar).getD false && start > 0) &&
    !((text[stop]?.map Regex.isWordChar).getD false)

/-- The first match at or behind a place, and where it ends; each attempt takes one of `fuel`. -/
def matchFrom? (s : Search) (text : Array Char) : (fuel : Nat) → Nat → Option (Nat × Nat)
  | 0, _ => none
  | fuel + 1, place =>
    if place > text.size then none
    else
      let subject (r : Regex) : Regex.Subject := { text, exact := r.hasBack }
      let ends := s.patterns.flatMap fun r =>
        ((r.ways (subject r) { place }).map (·.place)).filter fun stop =>
          (!s.wholeLines || (place = 0 && stop = text.size)) &&
            (!s.wholeWords || isWord text place stop)
      match ends.max? with
      | some stop => some (place, stop)
      | none => matchFrom? s text fuel (place + 1)

/-- All matches in a line that are not empty; each takes one of `fuel`. -/
def stretchesOf (s : Search) (text : Array Char) : (fuel : Nat) → Nat → List (Nat × Nat)
  | 0, _ => []
  | fuel + 1, place =>
    match s.matchFrom? text (text.size + 2 - place) place with
    | none => []
    | some (start, stop) =>
      if stop = start then s.stretchesOf text fuel (start + 1)
      else (start, stop) :: s.stretchesOf text fuel stop

def selects (s : Search) (line : String) : Bool :=
  let text := line.toList.toArray
  (s.matchFrom? text (text.size + 2) 0).isSome != s.inverted

def selected (s : Search) (lines : List String) : List (Nat × String) :=
  let found := (lines.zipIdx 1).filterMap fun (line, i) =>
    if s.selects line then some (i, line) else none
  match s.limit with
  | some n => found.take n
  | none => found

def heading (s : Search) (name : String) (number offset : Nat) (mark : String) : String :=
  (if s.named then name ++ mark else "") ++
    (if s.numbered then Number.natText number ++ mark else "") ++
    (if s.offsets then Number.natText offset ++ mark else "")

/-- What is shown of a file, each line with what stands in front of it: the lines found, with those
around them, and a mark between stretches that do not touch. -/
def shown (s : Search) (name : String) (lines : List String) : List (String × String) :=
  let found := s.selected lines
  let offset (i : Nat) : Nat := ((lines.take (i - 1)).map fun l => (narrow l).length + 1).sum
  if s.onlyMatches then
    if s.inverted then []
    else found.flatMap fun (i, line) =>
      let text := line.toList.toArray
      (s.stretchesOf text (text.size + 2) 0).map fun (a, b) =>
        let before := narrow (String.ofList (text.extract 0 a).toList)
        (s.heading name i (offset i + before.length) ":",
          String.ofList (text.extract a b).toList)
  else if s.before = 0 && s.after = 0 then
    found.map fun (i, line) => (s.heading name i (offset i) ":", line)
  else
    let hits := found.map Prod.fst
    let last := match s.limit with
      | some n => if hits.length = n then (hits.getLast?.map (· + s.after)).getD 0 else lines.length
      | none => lines.length
    let near (i : Nat) : Bool := hits.any fun h => h ≤ i + s.before && i ≤ h + s.after
    let kept := (lines.zipIdx 1).filter fun (_, i) => near i && i ≤ last
    (kept.foldl
      (fun (acc : List (String × String) × Option Nat) (line, i) =>
        let gap := match acc.2 with
          | some previous => if previous + 1 < i then [("--", "")] else []
          | none => []
        let mark := if hits.contains i then ":" else "-"
        (acc.1 ++ gap ++ [(s.heading name i (offset i) mark, line)], some i))
      ([], none)).1

end Search

def searchUsage (call : Call) : String :=
  "Usage: " ++ call.name ++ " [OPTION]... PATTERNS [FILE]...\nTry '" ++ call.name ++
    " --help' for more information.\n"

/-- The options of `grep`. -/
def searchOptions : OptionSet :=
  { flags := "EFGHLPRTUVabchilnoqrsvwxyz0123456789".toList ++ ['\x01'],
    valued := "ABCefmdD".toList ++ ['\x02', '\x03', '\x04', '\x05']
    long := [("extended-regexp", 'E'), ("fixed-strings", 'F'), ("basic-regexp", 'G'),
      ("with-filename", 'H'), ("files-without-match", 'L'), ("text", 'a'), ("byte-offset", 'b'),
      ("count", 'c'), ("no-filename", 'h'), ("ignore-case", 'i'), ("files-with-matches", 'l'),
      ("line-number", 'n'), ("only-matching", 'o'), ("quiet", 'q'), ("silent", 'q'),
      ("recursive", 'r'), ("no-messages", 's'), ("invert-match", 'v'), ("word-regexp", 'w'),
      ("line-regexp", 'x'), ("after-context", 'A'), ("before-context", 'B'), ("context", 'C'),
      ("regexp", 'e'), ("file", 'f'), ("max-count", 'm'), ("color", '\x01'), ("colour", '\x01'),
      ("include", '\x02'), ("exclude", '\x03'), ("exclude-dir", '\x04'), ("null-data", 'z')] }

def grep (call : Call) : Effect :=
  let form (o : Options) : Option Char :=
    (o.last? ['E', 'F', 'G']) <|>
      (if call.name.endsWith "egrep" then some 'E'
        else if call.name.endsWith "fgrep" then some 'F' else none)
  let args := call.args.map fun a => if a.startsWith "--color=" then "--color" else a
  match searchOptions.read args with
  | .error e =>
    { status := 2, writes := [(2, bytesOf (call.label ++ e.message ++ "\n" ++ searchUsage call))],
      disk := call.disk }
  | .ok o =>
    let explicit := o.has 'e' || o.has 'f'
    let listed : Except String (List (List String)) := (o.values 'f').mapM fun file =>
      match call.fetch file with
      | .ok bytes => .ok (lineTexts bytes)
      | .error e => .error (file ++ ": " ++ reason e)
    let patternsOf (text : String) : List String :=
      (Text.splitOn '\n' text.toList).map String.ofList
    match listed, explicit, o.operands with
    | .error text, _, _ => .complaining call 2 text
    | .ok _, false, [] =>
      { status := 2, writes := [(2, bytesOf (searchUsage call))], disk := call.disk }
    | .ok _, false, pattern :: files => run call o (form o) (patternsOf pattern) files
    | .ok lists, true, files =>
      run call o (form o) ((o.values 'e').flatMap patternsOf ++ lists.flatten) files
where
  /-- Searches files for lines that one of some patterns matches. -/
  run (call : Call) (o : Options) (form : Option Char) (texts files : List String) : Effect :=
    let style : Regex.Style :=
      { form := if form = some 'E' then .extended else .basic
        ignoreCase := o.has 'i' || o.has 'y' }
    let read (text : String) : Except RegexFault Regex :=
      if form = some 'F' then .ok (Regex.ofText style (widen text).toList)
      else (Regex.parse style (widen text).toList).map Prod.fst
    let warnings := if form = some 'E' then texts.flatMap Regex.warnings else []
    let warned : Effect := warnings.foldl
      (fun effect text => effect.complain call 0 ("warning: " ++ text ++ " at start of expression"))
      { disk := call.disk }
    match badAmount? o, texts.mapM read with
    | some text, _ => .complaining call 2 text
    | none, .error e => warned.complain call 2 e.message
    | none, .ok patterns =>
      let digits := (o.given.filter fun g => g.1.isDigit).map Prod.fst
      let context : Nat := if digits.isEmpty then ((o.value? 'C').bind decimal?).getD 0
        else Number.digitsValue digits
      let amount (letter : Char) : Nat := ((o.value? letter).bind decimal?).getD context
      let recursive := o.has 'r' || o.has 'R'
      let search : Search :=
        { patterns
          inverted := o.has 'v', wholeLines := o.has 'x', wholeWords := o.has 'w'
          onlyMatches := o.has 'o', numbered := o.has 'n', offsets := o.has 'b'
          named := match o.last? ['H', 'h'] with
            | some 'H' => true
            | some _ => false
            | none => files.length > 1 || recursive
          before := amount 'B', after := amount 'A'
          limit := (o.value? 'm').bind decimal? }
      let files := if files.isEmpty then (if recursive then ["."] else ["-"]) else files
      let places := files.flatMap fun file =>
        if recursive && file ≠ "-" then
          below call.disk file (files = ["."] && o.operands.length < 2)
        else [file]
      let step (acc : Effect × Bool) (file : String) : Effect × Bool :=
        let (effect, hit) := acc
        match call.take effect file with
        | .error e =>
          (if o.has 's' then { effect with status := 2 }
            else effect.complain call 2 (file ++ ": " ++ reason e), hit)
        | .ok (bytes, effect) =>
          let name := if file = "-" then "(standard input)" else file
          let lines := (lineTexts bytes o.mark).map widen
          let found := search.selected lines
          let some := !found.isEmpty
          let effect :=
            if o.has 'q' then effect
            else if o.has 'l' then if some then effect.send (asLines [name]) else effect
            else if o.has 'L' then if some then effect else effect.send (asLines [name])
            else if o.has 'c' then
              effect.send (asLines
                [(if search.named then name ++ ":" else "") ++ Number.natText found.length])
            else if bytes.contains 0 && !o.has 'a' && !o.has 'z' then
              if some then effect.complain call 0 (name ++ ": binary file matches") else effect
            else
              let plain (line : String × String) : Bool := o.has 'a' || !line.2.toList.any isStray
              let (clear, odd) := (search.shown name lines).partition plain
              let effect := effect.send
                (asLines (clear.map fun (front, line) => front ++ narrow line) o.mark)
              if odd.isEmpty then effect
              else effect.complain call 0 (name ++ ": binary file matches")
          (effect, hit || (some != o.has 'L'))
      let (effect, hit) := places.foldl step (warned, false)
      let status := if hit && (effect.status = 0 || o.has 'q') then 0
        else if effect.status ≠ 0 then effect.status else 1
      { effect with status }
  /-- What is wrong with the amounts that options give. -/
  badAmount? (o : Options) : Option String :=
    (o.given.find? fun (kind, value) =>
      if kind = 'm' then (integer? value).isNone
      else "ABC".toList.contains kind && (decimal? value).isNone).map fun (kind, value) =>
        if kind = 'm' then "invalid max count" else value ++ ": invalid context length argument"
  /-- The files below a directory, or a file itself. -/
  below (disk : Disk) (file : String) (bare : Bool) : List String :=
    match disk.find (pathOf file) with
    | .ok (.dir entries traits) =>
      (Tree.dir entries traits).walk.map fun location =>
        let tail := pack ("/".intercalate location)
        if bare then tail else file ++ (if file.endsWith "/" then "" else "/") ++ tail
    | _ => [file]

end PageScript.Shell.Program

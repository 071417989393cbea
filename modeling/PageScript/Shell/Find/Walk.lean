/-
Walking over files: each one on the way is put to an expression.

What the actions of an expression do to the rest of the world is left to whoever walks.
-/
import PageScript.Shell.Date.Format
import PageScript.Shell.Find.Reader
import PageScript.Shell.Program.Place
import PageScript.Shell.Program.Print

namespace PageScript.Shell.Find

open Program

/-- A file on the way. -/
structure Visited where
  path : String
  depth : Nat
  tree : Tree
  /-- The operand that the walk started from. -/
  start : String
  deriving Inhabited

namespace Visited

/-- The last name of a path; the root is its own. -/
def baseName (v : Visited) : String :=
  let name := lastName v.path
  if name = "" then "/" else name

def holder (v : Visited) : String :=
  let front := String.ofList ((v.path.toList.reverse.dropWhile (· ≠ '/')).drop 1).reverse
  if v.path.toList.contains '/' then front else "."

def behindStart (v : Visited) : String :=
  String.ofList ((v.path.toList.drop v.start.length).dropWhile (· = '/'))

def kind (tree : Tree) : Char :=
  match kindLetter tree with
  | '-' => 'f'
  | letter => letter

end Visited

-- ======== formats

def timePart (time : Nat) (letter : Char) : String :=
  let moment : Date.Moment := { seconds := (time / 10 ^ 9 : Nat), nanos := time % 10 ^ 9 }
  let fraction := "." ++ moment.show "%N" ++ "0"
  match letter with
  | '@' => Number.natText (time / 10 ^ 9) ++ fraction
  | 'S' => moment.show "%S" ++ fraction
  | 'T' => moment.show "%T" ++ fraction
  | 'X' => moment.show "%T" ++ fraction
  | '+' => moment.show "%Y-%m-%d+%H:%M:%S" ++ fraction
  | _ => moment.show (String.ofList ['%', letter])

def piece? (disk : Disk) (v : Visited) (letter : Char) : Option String :=
  match letter with
  | 'p' => some v.path
  | 'f' => some v.baseName
  | 'h' => some v.holder
  | 'P' => some v.behindStart
  | 'H' => some v.start
  | 'd' => some (Number.natText v.depth)
  | 's' => some (Number.natText (byteCount v.tree))
  | 'k' => some (Number.natText (roomOf v.tree))
  | 'b' => some (Number.natText (2 * roomOf v.tree))
  | 'm' => some (octalText (modeOf v.tree) 1)
  | 'M' => some (String.ofList [kindLetter v.tree] ++ modeText (modeOf v.tree))
  | 'n' => some (Number.natText (nameCount v.tree))
  | 'y' => some (Visited.kind v.tree).toString
  | 'Y' =>
    match disk.find (pathOf v.path) with
    | .ok tree => some (Visited.kind tree).toString
    | .error .tooManyLinks => some "L"
    | .error _ => some "N"
  | 'l' => match v.tree with | .link target => some (pack target) | _ => some ""
  | 'u' | 'g' => some "root"
  | 'U' | 'G' => some "0"
  | 'i' | 'D' => some "1"
  | 'F' => some "ext4"
  | 'S' => some "1"
  | 't' | 'a' | 'c' =>
    let time := timeOf v.tree
    let moment : Date.Moment := { seconds := (time / 10 ^ 9 : Nat), nanos := time % 10 ^ 9 }
    some (moment.show "%a %b %e %H:%M:%S." ++ moment.show "%N" ++ "0" ++ moment.show " %Y")
  | _ => none

/-- What is noted about a format. -/
inductive Note where
  | bareBackslash
  | unknownEscape (c : Char)
  | unknownLetter (c : Char)
  /-- The format ends with a percent sign, so that it cannot be used. -/
  | barePercent
  deriving Repr, DecidableEq, Inhabited

def Note.message : Note → String
  | .bareBackslash => "warning: escape " ++ leaning "\\" ++ " followed by nothing at all"
  | .unknownEscape c => "warning: unrecognized escape " ++ leaning (String.ofList ['\\', c])
  | .unknownLetter c =>
    "warning: unrecognized format directive " ++ leaning (String.ofList ['%', c])
  | .barePercent => "error: % at end of format string"

/-- What a format gives for a file, and what is noted about it; each step takes one of `fuel`. -/
def filledFormat (disk : Disk) (v : Visited) : (fuel : Nat) → List Char → String × List Note
  | 0, _ => ("", [])
  | _, [] => ("", [])
  | fuel + 1, '\\' :: rest =>
    match rest with
    | [] => ("\\", [.bareBackslash])
    | 'c' :: _ => ("", [])
    | c :: more =>
      let ds := (rest.take 3).takeWhile isOctal
      if !ds.isEmpty then
        let (text, notes) := filledFormat disk v fuel (rest.drop ds.length)
        ((Char.ofNat (octal ds).toNat).toString ++ text, notes)
      else
        let (text, notes) := filledFormat disk v fuel more
        match escapeByte? c with
        | some b => ((Char.ofNat b.toNat).toString ++ text, notes)
        | none => (String.ofList ['\\', c] ++ text, .unknownEscape c :: notes)
  | fuel + 1, '%' :: '%' :: rest =>
    let (text, notes) := filledFormat disk v fuel rest
    ("%" ++ text, notes)
  | fuel + 1, '%' :: cs =>
    let (layout, rest, _) := readLayout cs []
    let shown (piece : String) : String := layout.pad (match layout.precision with
      | some p => String.ofList (piece.toList.take p)
      | none => piece)
    match rest with
    | [] => ("", [.barePercent])
    | letter :: more =>
      match letter, more with
      | 'T', part :: more | 'A', part :: more | 'C', part :: more =>
        let (text, notes) := filledFormat disk v fuel more
        (shown (timePart (timeOf v.tree) part) ++ text, notes)
      | _, _ =>
        let (text, notes) := filledFormat disk v fuel more
        match piece? disk v letter with
        | some piece => (shown piece ++ text, notes)
        | none => (String.ofList ['%', letter] ++ text, .unknownLetter letter :: notes)
  | fuel + 1, c :: rest =>
    let (text, notes) := filledFormat disk v fuel rest
    (c.toString ++ text, notes)

def Quest.notes (q : Quest) : List Note :=
  q.parts.flatMap fun
    | .format text => (filledFormat {} default (text.length + 1) text).2
    | _ => []

-- ======== walking

/-- What is done with the files that are found. -/
structure Actions (m : Type → Type) where
  disk : m Disk
  write : Stream → m Unit
  save : String → Stream → m Unit
  delete : String → m Bool
  /-- Runs a program, in another directory if one is named. -/
  run : Option String → List String → m Bool
  /-- Asks for leave to run a program. -/
  ask : String → m Bool

/-- What a file leaves behind: whether the walk goes into it, whether it goes on at all, and the
files that wait for the end. -/
structure Findings where
  enters : Bool := true
  goesOn : Bool := true
  waiting : List String := []
  deriving Inhabited

def accepted (g : Glob) (ignoreCase : Bool) (text : String) : Bool :=
  let cs := (widen text).toList
  g.accepts (if ignoreCase then cs.map wideLower else cs)

def Likeness.holds (l : Likeness) (bits mode : Nat) : Bool :=
  match l with
  | .whole => mode = bits
  | .all => mode &&& bits = bits
  | .any => bits = 0 || mode &&& bits ≠ 0

def withPath (words : List String) (path : String) : List String :=
  words.map fun w => path.intercalate (w.splitOn "\x7b\x7d")

def Quest.holds {m : Type → Type} [Monad m] (actions : Actions m) (v : Visited) :
    Quest → StateT Findings m Bool
  | .always holds => return holds
  | .name g ignoreCase => return accepted g ignoreCase v.baseName
  | .path g ignoreCase => return accepted g ignoreCase v.path
  | .target g ignoreCase =>
    match v.tree with
    | .link way => return accepted g ignoreCase (pack way)
    | _ => return false
  | .whole r =>
    let text := (widen v.path).toList.toArray
    let subject : Regex.Subject := { text, exact := r.hasBack }
    return (r.ways subject { place := 0 }).any fun way => way.place = text.size
  | .kinds letters => return letters.contains (Visited.kind v.tree)
  | .empty =>
    match v.tree with
    | .dir entries _ => return entries.isEmpty
    | .file content _ => return content.isEmpty
    | _ => return false
  | .executable =>
    match v.tree with
    | .file _ traits => return traits.runs
    | .device _ => return false
    | _ => return true
  | .size unit measure => return measure.fits ((byteCount v.tree + unit - 1) / unit)
  | .names measure => return measure.fits (nameCount v.tree)
  | .age unit measure => do
    let age := ((← actions.disk).now - timeOf v.tree) / 10 ^ 9
    match measure with
    | .lessThan n => return age < n * unit
    | _ => return measure.fits (age / unit)
  | .after time => return time < timeOf v.tree
  | .mode bits likeness => return likeness.holds bits (modeOf v.tree)
  | .same location => do
    match placeOf (← actions.disk) v.path false with
    | .ok (here, _) => return here = location
    | .error _ => return false
  | .print mark => do
    actions.write (bytesOf (v.path ++ mark))
    return true
  | .format text => do
    actions.write (bytesOf (filledFormat (← actions.disk) v (text.length + 1) text).1)
    return true
  | .save file mark => do
    actions.save file (bytesOf (v.path ++ mark))
    return true
  | .delete => if v.path = "." then return true else actions.delete v.path
  | .prune => do
    modify fun f => { f with enters := false }
    return true
  | .quit => do
    modify fun f => { f with goesOn := false }
    return true
  | .run .each words => actions.run none (withPath words v.path)
  | .run .inPlace words => actions.run (some v.holder) (withPath words ("./" ++ v.baseName))
  | .run .asking words => do
    let question := "< " ++ words.headD "" ++ " ... " ++ v.path ++ " > ? "
    if ← actions.ask question then actions.run none (withPath words v.path) else return false
  | .run .together _ => do
    modify fun f => { f with waiting := f.waiting ++ [v.path] }
    return true
  | .not q => do return !(← q.holds actions v)
  | .both l r => do
    if ← l.holds actions v then r.holds actions v else return false
  | .either l r => do
    if ← l.holds actions v then return true else r.holds actions v
  | .second l r => do
    discard (l.holds actions v)
    r.holds actions v

/-- Walks over a file and what is below it; each level takes one of `fuel`. -/
def Course.visit {m : Type → Type} [Monad m] (course : Course) (actions : Actions m) (q : Quest) :
    (fuel : Nat) → Visited → StateT Findings m Unit
  | 0, _ => return
  | fuel + 1, v => do
    let look : StateT Findings m Unit := do
      if v.depth ≥ course.least && (← get).goesOn then discard (q.holds actions v)
    let deeper : StateT Findings m Unit := do
      match v.tree with
      | .dir entries _ =>
        let f ← get
        set { f with enters := true }
        if f.enters && f.goesOn && (course.most.map (decide <| v.depth < ·)).getD true then
          for (name, tree) in entries do
            if (← get).goesOn then
              let path := under v.path (pack name)
              let tree ← match tree, course.follows with
                | .link way, true => do
                  pure (((← actions.disk).find (pathOf path)).toOption.getD (.link way))
                | tree, _ => pure tree
              course.visit actions q fuel ⟨path, v.depth + 1, tree, v.start⟩
      | _ => modify fun f => { f with enters := true }
    if course.deepFirst then
      deeper
      look
      modify fun f => { f with enters := true }
    else
      look
      deeper

end PageScript.Shell.Find

/-
Modes, which say who may do what with a file, and other facts about what is on a disk.

A mode is a number whose bits are permissions. A change of a mode is a number too, or clauses such
as `u+x,go-w`: for whom, in which way, and what.
-/
import PageScript.Shell.Program.Basic

namespace PageScript.Shell.Program

-- ======== changes

/-- A clause of a change. -/
structure ModeClause where
  /-- The bits of those it is for, none if it does not say. -/
  whom : Nat
  operator : Char
  /-- The bits that are named. -/
  what : Nat := 0
  /-- Whether the named bits count only as far as they are set, and then for all. -/
  copies : Bool := false
  /-- Whether files get to be run if they are directories or can be run by somebody. -/
  whereRuns : Bool := false
  deriving Repr, DecidableEq, Inhabited

/-- A change of a mode. -/
inductive ModeChange where
  /-- A mode, which leaves special bits of directories alone unless it is whole. -/
  | absolute (mode : Nat) (whole : Bool)
  | clauses (cs : List ModeClause)
  deriving Repr, DecidableEq, Inhabited

def without (bits others : Nat) : Nat :=
  bits - (bits &&& others)

namespace ModeClause

def whomBits : Char → Nat
  | 'u' => 0o4700
  | 'g' => 0o2070
  | 'o' => 0o1007
  | 'a' => 0o7777
  | _ => 0

def adding (c : ModeClause) : Char → ModeClause
  | 'r' => { c with what := c.what ||| 0o444 }
  | 'w' => { c with what := c.what ||| 0o222 }
  | 'x' => { c with what := c.what ||| 0o111 }
  | 's' => { c with what := c.what ||| 0o6000 }
  | 't' => { c with what := c.what ||| 0o1000 }
  | _ => { c with whereRuns := true }

def bits (c : ModeClause) (mask : Nat) (isDir : Bool) (mode : Nat) : Nat :=
  let spread (all : Nat) : Nat := if c.what &&& mode &&& all = 0 then 0 else all
  let what := if c.copies then spread 0o444 ||| spread 0o222 ||| spread 0o111 else c.what
  let what := if c.whereRuns && (isDir || mode &&& 0o111 ≠ 0) then what ||| 0o111 else what
  if c.whom = 0 then without what mask else what &&& c.whom

def apply (c : ModeClause) (mask : Nat) (isDir : Bool) (mode : Nat) : Nat :=
  let value := c.bits mask isDir mode
  match c.operator with
  | '+' => mode ||| value
  | '-' => without mode value
  | _ =>
    let kept := if isDir then 0o6000 else 0
    without mode (without (if c.whom = 0 then 0o7777 else c.whom) kept) ||| value

/-- The clauses for somebody: an operator and letters, and perhaps more of that. -/
def readFor? (whom : Nat) : (fuel : Nat) → List Char → Option (List ModeClause)
  | 0, _ => none
  | _, [] => some []
  | fuel + 1, operator :: rest => do
    if !"+-=".toList.contains operator then none
    match rest with
    | 'u' :: more | 'g' :: more | 'o' :: more =>
      let what := whomBits (rest.headD 'u') &&& 0o777
      return { whom, operator, what, copies := true } :: (← readFor? whom fuel more)
    | _ =>
      let letters := rest.takeWhile "rwxXst".toList.contains
      let clause := letters.foldl adding { whom, operator }
      return clause :: (← readFor? whom fuel (rest.drop letters.length))

def readPart? (cs : List Char) : Option (List ModeClause) :=
  let names := cs.takeWhile "ugoa".toList.contains
  let whom := names.foldl (fun n c => n ||| whomBits c) 0
  match cs.drop names.length with
  | [] => none
  | rest => readFor? whom (rest.length + 1) rest

end ModeClause

namespace ModeChange

def parse? (text : String) : Option ModeChange :=
  let cs := text.toList
  if cs ≠ [] ∧ cs.all fun c => '0' ≤ c ∧ c ≤ '7' then
    let mode := cs.foldl (fun n d => n * 8 + (d.toNat - '0'.toNat)) 0
    if mode ≤ 0o7777 then some (.absolute mode (cs.length > 4)) else none
  else do
    let parts ← (text.splitOn ",").mapM fun part => ModeClause.readPart? part.toList
    return .clauses parts.flatten

/-- A mode changed. Clauses that do not say for whom they are leave alone what new files do not
get. -/
def apply (c : ModeChange) (mask : Nat) (isDir : Bool) (mode : Nat) : Nat :=
  match c with
  | .absolute new whole => if isDir && !whole then new ||| (mode &&& 0o6000) else new
  | .clauses cs => cs.foldl (fun mode clause => clause.apply mask isDir mode) mode

end ModeChange

-- ======== facts

def modeOf : Tree → Nat
  | .file _ traits | .dir _ traits => traits.mode
  | .program _ => 0o755
  | .link _ => 0o777
  | .device _ => 0o666

def timeOf : Tree → Nat
  | .file _ traits | .dir _ traits => traits.changed
  | _ => startOfClock * 10 ^ 9

def byteCount : Tree → Nat
  | .file content _ => content.length
  | .dir .. => 4096
  | .link target => target.utf8ByteSize
  | _ => 0

def roomOf (tree : Tree) : Nat :=
  match tree with
  | .link _ => 0
  | _ => (byteCount tree + 4095) / 4096 * 4

/-- How many names something on a disk has: a directory also has one in each directory in it. -/
def nameCount : Tree → Nat
  | .dir entries _ => 2 + (entries.filter fun e => e.2.isDir).length
  | _ => 1

def kindWords : Tree → String
  | .dir .. => "directory"
  | .link _ => "symbolic link"
  | .file [] _ => "regular empty file"
  | .device _ => "character special file"
  | _ => "regular file"

def kindLetter : Tree → Char
  | .dir .. => 'd'
  | .link _ => 'l'
  | .device _ => 'c'
  | _ => '-'

/-- Three permissions as letters; the last one has a letter of its own if a special bit is set. -/
def permissionLetters (bits : Nat) (special : Bool) (letter : Char) : List Char :=
  [if bits / 4 % 2 = 1 then 'r' else '-', if bits / 2 % 2 = 1 then 'w' else '-',
    match special, decide (bits % 2 = 1) with
    | true, true => letter
    | true, false => letter.toUpper
    | false, true => 'x'
    | false, false => '-']

def modeText (mode : Nat) : String :=
  String.ofList (permissionLetters (mode / 64) (mode / 2048 % 2 = 1) 's' ++
    permissionLetters (mode / 8) (mode / 1024 % 2 = 1) 's' ++
    permissionLetters mode (mode / 512 % 2 = 1) 't')

def octalText (n width : Nat) : String :=
  String.ofList ((Nat.toDigits 8 n).leftpad width '0')

def alterTraits (disk : Disk) (location : List String) (tree : Tree) (f : Traits → Traits) : Disk :=
  match tree with
  | .file content traits => disk.put location (.file content (f traits))
  | .dir entries traits => disk.put location (.dir entries (f traits))
  | _ => disk

end PageScript.Shell.Program

/-
Patterns of names: `*` for any text, `?` for any character, and sets of characters in brackets.

A pattern comes from a text in which some characters are quoted; those stand for themselves.
-/
import PageScript.Disk

namespace PageScript.Shell

abbrev Mark := Char × Bool

/-- What one character is compared with. -/
inductive Atom where
  | any
  | char (c : Char)
  /-- A set of ranges, or what lies outside it. -/
  | set (outside : Bool) (ranges : List (Char × Char))
  deriving Repr, DecidableEq, Inhabited

def Atom.accepts (a : Atom) (c : Char) : Bool :=
  match a with
  | .any => true
  | .char d => c = d
  | .set outside ranges => (ranges.any fun (lo, hi) => lo ≤ c && c ≤ hi) != outside

def classRanges (name : String) : List (Char × Char) :=
  match name with
  | "alpha" => [('A', 'Z'), ('a', 'z')]
  | "digit" => [('0', '9')]
  | "alnum" => [('0', '9'), ('A', 'Z'), ('a', 'z')]
  | "upper" => [('A', 'Z')]
  | "lower" => [('a', 'z')]
  | "space" => [('\t', '\x0d'), (' ', ' ')]
  | "blank" => [('\t', '\t'), (' ', ' ')]
  | "punct" => [('!', '/'), (':', '@'), ('[', '\x60'), ('\x7b', '~')]
  | "xdigit" => [('0', '9'), ('A', 'F'), ('a', 'f')]
  | "cntrl" => [('\x00', '\x1f'), ('\x7f', '\x7f')]
  | "print" => [(' ', '~')]
  | "graph" => [('!', '~')]
  | _ => []

/-- A part of a pattern: one character, or any number of them. -/
inductive GlobItem where
  | one (a : Atom)
  | many
  deriving Repr, DecidableEq, Inhabited

abbrev Glob := List GlobItem

namespace Glob

/-- Reads the ranges of a set up to its closing bracket, and what follows it; each takes one of
`fuel`. A bracket that comes `first` does not close. -/
def readRanges : (fuel : Nat) → (first : Bool) → List Mark →
    Option (List (Char × Char) × List Mark)
  | 0, _, _ => none
  | _ + 1, _, [] => none
  | fuel + 1, first, (c, quoted) :: rest =>
    if c = ']' && !quoted && !first then some ([], rest)
    else
      match (c, quoted) :: rest with
      | ('[', false) :: (':', false) :: more =>
        let name := more.takeWhile fun m => m.1 ≠ ':'
        match more.drop name.length with
        | (':', false) :: (']', false) :: after =>
          (readRanges fuel false after).map fun (ranges, left) =>
            (classRanges (String.ofList (name.map Prod.fst)) ++ ranges, left)
        | _ => (readRanges fuel false rest).map fun (ranges, left) => ((c, c) :: ranges, left)
      | _ :: ('-', false) :: (hi, hiQuoted) :: after =>
        if hi = ']' && !hiQuoted then
          (readRanges fuel false rest).map fun (ranges, left) => ((c, c) :: ranges, left)
        else (readRanges fuel false after).map fun (ranges, left) => ((c, hi) :: ranges, left)
      | _ => (readRanges fuel false rest).map fun (ranges, left) => ((c, c) :: ranges, left)

def readSet (rest : List Mark) : Option (Atom × List Mark) :=
  let (outside, inner) :=
    match rest with
    | ('!', false) :: inner => (true, inner)
    | inner => (false, inner)
  (readRanges (inner.length + 1) true inner).map fun (ranges, left) => (.set outside ranges, left)

/-- The pattern of a text; each item takes one of `fuel`. -/
def read : (fuel : Nat) → List Mark → Glob
  | 0, _ => []
  | _ + 1, [] => []
  | fuel + 1, ('*', false) :: rest => .many :: read fuel rest
  | fuel + 1, ('?', false) :: rest => .one .any :: read fuel rest
  | fuel + 1, ('[', false) :: rest =>
    match readSet rest with
    | some (a, left) => .one a :: read fuel left
    | none => .one (.char '[') :: read fuel rest
  | fuel + 1, (c, _) :: rest => .one (.char c) :: read fuel rest

def ofMarks (ms : List Mark) : Glob :=
  read (ms.length + 1) ms

def isProper (g : Glob) : Bool :=
  g.any fun
    | .many => true
    | .one (.char _) => false
    | .one _ => true

def accepts : Glob → List Char → Bool
  | [], cs => cs.isEmpty
  | .many :: items, cs => (List.range (cs.length + 1)).any fun n => accepts items (cs.drop n)
  | .one a :: items, cs =>
    match cs with
    | [] => false
    | c :: rest => a.accepts c && accepts items rest

/-- A text without what a pattern matches at its start or end: as much as possible, or as little. A
text that is not matched stays as it is. -/
def trim (g : Glob) (atEnd longest : Bool) (cs : List Char) : List Char :=
  let sizes := List.range (cs.length + 1)
  let sizes := if longest then sizes.reverse else sizes
  if atEnd then
    match sizes.find? fun n => g.accepts (cs.drop (cs.length - n)) with
    | some n => cs.take (cs.length - n)
    | none => cs
  else
    match sizes.find? fun n => g.accepts (cs.take n) with
    | some n => cs.drop n
    | none => cs

-- ======== names

/-- The names in a directory, `.` and `..` among them, that a pattern matches, in their order. Names
that start with a point need one in the pattern. -/
def names (g : Glob) (disk : Disk) (dir : Path) : List String :=
  let dotted := g.head? = some (.one (.char '.'))
  match disk.find dir with
  | .ok (.dir entries _) =>
    (([".", ".."] ++ entries.map Prod.fst).filter fun name =>
      (dotted || !name.startsWith ".") &&
        g.accepts ((Text.encode name).map fun b => Char.ofNat b.toNat)).mergeSort
      fun a b => decide (a ≤ b)
  | _ => []

/-- The paths on a disk that patterns between slashes match, behind a start that has been found. -/
def paths (disk : Disk) : (start : String) → List (List Mark) → List String
  | start, [] => if disk.holds ⟨start⟩ then [start] else []
  | start, segment :: rest =>
    let g := ofMarks segment
    let more := if rest.isEmpty then "" else "/"
    let plain :=
      Text.decodeLossy (segment.map fun m => UInt8.ofNat m.1.toNat)
    if g.isProper then
      (g.names disk ⟨if start = "" then "." else start⟩).flatMap fun name =>
        let found := start ++ name
        if rest.isEmpty then [found]
        else if disk.isDir ⟨found⟩ then paths disk (found ++ more) rest
        else []
    else paths disk (start ++ plain ++ more) rest

end Glob

end PageScript.Shell

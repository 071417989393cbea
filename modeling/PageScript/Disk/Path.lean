/-
Paths as scripts and command lines write them.

A path is its text, and joining keeps that text: `.` joined with `a.ui` is `./a.ui`. Only where a
path is taken apart do empty and `.` segments drop out, except for a `.` that starts a relative
path.
-/
import PageScript.Text.Split

namespace PageScript

/-- A path, absolute if it starts with a slash. -/
structure Path where
  text : String
  deriving Repr, DecidableEq, Inhabited

namespace Path

def isAbsolute (p : Path) : Bool :=
  p.text.toList.head? = some '/'

/-- A path continued by another one; an absolute one takes its place. -/
def join (base p : Path) : Path :=
  if p.isAbsolute then p
  else if base.text.isEmpty ∨ base.text.toList.getLast? = some '/' then ⟨base.text ++ p.text⟩
  else ⟨base.text ++ "/" ++ p.text⟩

/-- A path without slashes at its end; the root stays as it is. -/
def bare (p : Path) : Path :=
  let cs := (p.text.toList.reverse.dropWhile (· = '/')).reverse
  if cs = [] then p else ⟨String.ofList cs⟩

/-- The texts between the slashes of a path, without the empty one in front of a leading slash. -/
def segments (p : Path) : List (List Char) :=
  let all := Text.splitOn '/' p.text.toList
  if p.isAbsolute then all.drop 1 else all

/-- Whether a segment other than the first one of a relative path says something. -/
def isSaying (segment : List Char) : Bool :=
  segment ≠ [] ∧ segment ≠ ['.']

/-- Drops segments that say nothing off the end. The first segment of a relative path counts even if
it is `.`. -/
def trimmedSegments (absolute : Bool) : List (List Char) → List (List Char)
  | [] => []
  | first :: rest =>
    let tail := (rest.reverse.dropWhile (!isSaying ·)).reverse
    if tail = [] ∧ (first = [] ∨ (absolute ∧ !isSaying first)) then [] else first :: tail

def ofSegments (absolute : Bool) (segments : List (List Char)) : Path :=
  ⟨String.ofList ((if absolute then ['/'] else []) ++ Text.joinWith '/' segments)⟩

/-- The path of the directory that holds this one; the root and the empty path have none. -/
def parent? (p : Path) : Option Path :=
  match trimmedSegments p.isAbsolute p.segments with
  | [] => none
  | segments =>
    some (ofSegments p.isAbsolute (trimmedSegments p.isAbsolute segments.dropLast))

/-- The last name in a path, unless it ends in `.` or `..` or is the root. -/
def fileName? (p : Path) : Option (List Char) :=
  match (trimmedSegments p.isAbsolute p.segments).getLast? with
  | none => none
  | some name => if name = ['.'] ∨ name = ['.', '.'] then none else some name

/-- A file name cut at its last point into stem and extension. A point in front of everything else
belongs to the stem. -/
def splitExtension (name : List Char) : List Char × Option (List Char) :=
  let after := (name.reverse.takeWhile (· != '.')).reverse
  let front := (name.reverse.dropWhile (· != '.')).drop 1 |>.reverse
  if front = [] then (name, none) else (front, some after)

def stem? (p : Path) : Option String :=
  p.fileName?.map fun name => String.ofList (splitExtension name).1

end Path

end PageScript

/-
Directory trees.

A tree is a file, a link to somewhere else, or a directory of named trees. A location is the list of
names that leads to a place in it. `tour` lists what is in a tree: a directory, then its entries in
the order of their names, and what is below an entry where the entry stands.
-/
import PageScript.Number.Builtin

namespace PageScript

/-- The time at which the clock starts, in seconds since the start of 1970: the start of 2026. -/
def startOfClock : Nat := 1767225600

/-- What is kept of a file besides its content: who may do what with it, as bits, and when it was
last changed, in nanoseconds. -/
structure Traits where
  mode : Nat
  changed : Nat := startOfClock * 10 ^ 9
  deriving Repr, DecidableEq, Inhabited

def Traits.runs (t : Traits) : Bool :=
  t.mode % 2 = 1 || t.mode / 8 % 2 = 1 || t.mode / 64 % 2 = 1

/-- A file that stands for something else than bytes on a disk. -/
inductive Device where
  /-- It reads as empty and keeps nothing. -/
  | null
  /-- It reads as zeros without end. -/
  | zero
  /-- The same, but nothing can be written to it. -/
  | full
  /-- It reads as chance bytes without end. -/
  | random
  | urandom
  /-- The terminal, of which there is none. -/
  | terminal
  /-- A stream of the program that opens it. -/
  | stream (number : Nat)
  deriving Repr, DecidableEq, Inhabited

namespace Device

def supply : Nat := 2 ^ 17

/-- The bytes that are read from a device, as far as they are ever looked at. -/
def content : Device → List UInt8
  | .null | .terminal | .stream _ => []
  | .zero | .full => List.replicate supply 0
  | .random | .urandom =>
    ((List.range supply).foldl
      (fun (acc : List UInt8 × UInt32) _ =>
        let next := acc.2 * 1664525 + 1013904223
        ((next >>> 24).toUInt8 :: acc.1, next))
      ([], 2463534242)).1

def number : Device → Nat × Nat
  | .null => (1, 3)
  | .zero => (1, 5)
  | .full => (1, 7)
  | .random => (1, 8)
  | .urandom => (1, 9)
  | .terminal => (5, 0)
  | .stream n => (136, n)

end Device

/-- A file, a link, or a directory with its entries. Names are texts: an entry whose name is not UTF-8 is
not represented. -/
inductive Tree where
  | file (content : List UInt8) (traits : Traits)
  /-- A program that the system provides. -/
  | program (name : String)
  | device (kind : Device)
  /-- What a path leads to from the directory that holds the link. -/
  | link (target : String)
  | dir (entries : List (String × Tree)) (traits : Traits)
  deriving Inhabited

namespace Tree

def ofBytes (content : List UInt8) (runs : Bool) : Tree :=
  .file content { mode := if runs then 0o755 else 0o644 }

def ofEntries (entries : List (String × Tree)) : Tree :=
  .dir entries { mode := 0o755 }

def isDir : Tree → Bool
  | .dir .. => true
  | _ => false

def child? (name : String) : Tree → Option Tree
  | .dir entries _ => (entries.find? fun e => e.1 = name).map Prod.snd
  | _ => none

def get? : Tree → List String → Option Tree
  | t, [] => some t
  | t, name :: rest =>
    match t.child? name with
    | some sub => sub.get? rest
    | none => none

/-- Entries with one of them set: replaced, or put in front of the first greater name. -/
def setEntry (name : String) (value : Tree) : List (String × Tree) → List (String × Tree)
  | [] => [(name, value)]
  | (other, old) :: rest =>
    if name = other then (name, value) :: rest
    else if name < other then (name, value) :: (other, old) :: rest
    else (other, old) :: setEntry name value rest

/-- The tree with another one put at a location; the directories on the way have to be there. -/
def set : Tree → List String → Tree → Tree
  | _, [], value => value
  | .dir entries traits, name :: rest, value =>
    let sub := ((entries.find? fun e => e.1 = name).map Prod.snd).getD (.ofEntries [])
    .dir (setEntry name (sub.set rest value) entries) traits
  | t, _ :: _, _ => t

def erase : Tree → List String → Tree
  | .dir entries traits, [name] => .dir (entries.filter fun e => e.1 ≠ name) traits
  | .dir entries traits, name :: rest =>
    match (entries.find? fun e => e.1 = name).map Prod.snd with
    | some sub => .dir (setEntry name (sub.erase rest) entries) traits
    | none => .dir entries traits
  | t, _ => t

-- ======== listings

def byName {α : Type} (entries : List (String × α)) : List (String × α) :=
  entries.mergeSort fun a b => decide (a.1 ≤ b.1)

mutual

/-- Everything in a tree with its location, in the order of a walk: a directory in front of its
entries, and these in the order of their names. -/
def tour : Tree → List (List String × Tree)
  | .dir entries traits =>
    ([], .dir entries traits) :: (byName (tourEntries entries)).flatMap fun e =>
      e.2.map fun v => (e.1 :: v.1, v.2)
  | t => [([], t)]

def tourEntries : List (String × Tree) → List (String × List (List String × Tree))
  | [] => []
  | (name, t) :: rest => (name, t.tour) :: tourEntries rest

end

/-- Whether there are bytes to read, and no more than that. -/
def isRegular : Tree → Bool
  | .file .. | .program _ => true
  | _ => false

/-- The locations of the files in a tree, in the order of a walk. -/
def walk (t : Tree) : List (List String) :=
  (t.tour.filter (·.2.isRegular)).map Prod.fst

mutual

/-- Everything below a directory, as texts with a slash between names and behind the name of a
directory. -/
def contents : Tree → List String
  | .dir entries _ => contentsOf entries
  | _ => []

def contentsOf : List (String × Tree) → List String
  | [] => []
  | (name, t) :: rest =>
    (if t.isDir then (name ++ "/") :: t.contents.map (name ++ "/" ++ ·) else [name]) ++
      contentsOf rest

end

def listing (t : Tree) : List String :=
  t.contents.mergeSort fun a b => decide (a ≤ b)

end Tree

end PageScript

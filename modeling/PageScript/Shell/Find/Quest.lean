/-
What files are looked for: the expressions of `find`.

An expression is found out for each file on the way. Parts of it do something, such as writing the
path.
-/
import PageScript.Shell.Glob
import PageScript.Shell.Program.Mode
import PageScript.Shell.Regex

namespace PageScript.Shell.Find

/-- How a number is compared with. -/
inductive Measure where
  | exactly (n : Nat)
  | moreThan (n : Nat)
  | lessThan (n : Nat)
  deriving Repr, DecidableEq, Inhabited

def Measure.fits (m : Measure) (n : Nat) : Bool :=
  match m with
  | .exactly k => n = k
  | .moreThan k => n > k
  | .lessThan k => n < k

/-- How much of a mode has to be the same. -/
inductive Likeness where
  | whole
  | all
  | any
  deriving Repr, DecidableEq, Inhabited

/-- How a program is run for the files that are found. -/
inductive Manner where
  /-- For each file. -/
  | each
  /-- For each file in the directory that holds it. -/
  | inPlace
  /-- For each file, after asking. -/
  | asking
  /-- For all files at once. -/
  | together
  deriving Repr, DecidableEq, Inhabited

/-- What files are looked for, and what is done with them. -/
inductive Quest where
  | always (holds : Bool)
  | name (g : Glob) (ignoreCase : Bool)
  | path (g : Glob) (ignoreCase : Bool)
  /-- What a link leads to. -/
  | target (g : Glob) (ignoreCase : Bool)
  /-- An expression that matches all of a path. -/
  | whole (r : Regex)
  /-- What a file is, by letters. -/
  | kinds (letters : List Char)
  | empty
  | executable
  /-- The size in units of so many bytes, which is rounded up. -/
  | size (unit : Nat) (m : Measure)
  /-- How many names a file has. -/
  | names (m : Measure)
  /-- How long ago a file was changed, in units of so many seconds. -/
  | age (unit : Nat) (m : Measure)
  /-- Whether a file was changed after a time. -/
  | after (time : Nat)
  | mode (bits : Nat) (likeness : Likeness)
  /-- Whether a file is the one at a location. -/
  | same (location : List String)
  | print (mark : String)
  | format (text : List Char)
  /-- Writes the path to a file. -/
  | save (file mark : String)
  | delete
  /-- Stops the walk from going into a directory. -/
  | prune
  | quit
  | run (manner : Manner) (words : List String)
  | not (q : Quest)
  | both (left right : Quest)
  | either (left right : Quest)
  /-- Both are found out, and the second one counts. -/
  | second (left right : Quest)
  deriving Repr, DecidableEq, Inhabited

namespace Quest

def parts : Quest → List Quest
  | .not q => q.parts
  | .both l r | .either l r | .second l r => l.parts ++ r.parts
  | q => [q]

def isAction : Quest → Bool
  | .print _ | .format _ | .save .. | .delete | .run .. | .quit => true
  | _ => false

def acts (q : Quest) : Bool :=
  q.parts.any isAction

def collections (q : Quest) : List (List String) :=
  q.parts.filterMap fun
    | .run .together words => some words
    | _ => none

def savedTo (q : Quest) : List String :=
  (q.parts.filterMap fun
    | .save file _ => some file
    | _ => none).eraseDups

end Quest

/-- How deep a walk goes, and which links it follows. -/
structure Course where
  least : Nat := 0
  most : Option Nat := none
  /-- Whether a directory comes after what is in it. -/
  deepFirst : Bool := false
  /-- Whether links are followed. -/
  follows : Bool := false
  /-- Whether links that are named as operands are followed. -/
  followsFirst : Bool := false
  deriving Repr, DecidableEq, Inhabited

end PageScript.Shell.Find

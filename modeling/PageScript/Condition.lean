/-
Conditionals: the stack of open `if`s.

An `if` opens an entry in its predicate phase, in which outcomes are folded together; `then` turns
it to its branch phase, in which statements are skipped if the outcome was false; `endif` closes it.
An entry also notes whether it was opened inside a skipped branch, so that the flags of the whole
stack can be read off its top.
-/
import PageScript.Failure

namespace PageScript

/-- Where an open `if` stands: in front of its `then`, or behind it. -/
inductive Phase where
  | predicate
  | branch
  deriving Repr, DecidableEq, Inhabited

/-- An open `if`. -/
structure Pending where
  phase : Phase := .predicate
  /-- Whether all predicates held so far. -/
  result : Bool := true
  /-- Whether it was opened inside a skipped branch. -/
  outerSkip : Bool
  deriving Repr, DecidableEq, Inhabited

/-- The open `if`s, the innermost first. -/
structure ConditionStack where
  entries : List Pending := []
  deriving Repr, DecidableEq, Inhabited

namespace ConditionStack

/-- How many `if`s are open. -/
def depth (s : ConditionStack) : Nat :=
  s.entries.length

/-- Whether statements are skipped. -/
def skipping (s : ConditionStack) : Bool :=
  match s.entries with
  | [] => false
  | top :: _ => top.outerSkip || (top.phase = .branch && !top.result)

/-- Whether a failing predicate counts as an outcome and is not raised. -/
def capturing (s : ConditionStack) : Bool :=
  match s.entries with
  | [] => false
  | top :: _ => top.phase = .predicate && !top.outerSkip

/-- Opens an entry, as `if` does. -/
def begin (s : ConditionStack) : ConditionStack :=
  ⟨{ outerSkip := s.skipping } :: s.entries⟩

/-- Folds an outcome into the predicates of the innermost `if`. -/
def record (s : ConditionStack) (outcome : Bool) : ConditionStack :=
  match s.entries with
  | [] => s
  | top :: rest =>
    if top.phase = .predicate then ⟨{ top with result := top.result && outcome } :: rest⟩ else s

/-- Turns to the first branch, as `then` does, with the outcome of the predicates. -/
def enter (s : ConditionStack) : Except SyntaxFault (Bool × ConditionStack) :=
  match s.entries with
  | [] => .error .thenAlone
  | top :: rest =>
    match top.phase with
    | .predicate => .ok (top.result, ⟨{ top with phase := .branch } :: rest⟩)
    | .branch => .error .thenTwice

/-- Closes the entry on top, as `endif` does. -/
def close (s : ConditionStack) : Except SyntaxFault ConditionStack :=
  match s.entries with
  | [] => .error .endifAlone
  | top :: rest =>
    match top.phase with
    | .predicate => .error .endifEarly
    | .branch => .ok ⟨rest⟩

/-- Drops the `if`s opened above a depth. -/
def truncate (s : ConditionStack) (depth : Nat) : ConditionStack :=
  ⟨s.entries.drop (s.entries.length - depth)⟩

end ConditionStack

end PageScript

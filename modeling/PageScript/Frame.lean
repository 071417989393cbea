/-
Frames: the files, aliases and other pieces of script that are being run, one inside the other.
-/
import PageScript.Failure

namespace PageScript

/-- A piece of script that is being run. -/
structure Frame where
  /-- The directory from which its relative paths start. -/
  workingDir : Path
  /-- The path of a file, or another name. -/
  name : String
  /-- The line in the frame below that entered this one; none at the bottom. -/
  callerLine : Option Nat
  /-- The line of the statement being run. -/
  line : Nat := 0
  deriving Repr, DecidableEq, Inhabited

/-- The open frames, the innermost first. -/
structure FrameStack where
  frames : List Frame := []
  deriving Repr, DecidableEq, Inhabited

namespace FrameStack

/-- How many frames are open. -/
def depth (s : FrameStack) : Nat :=
  s.frames.length

/-- The innermost frame. -/
def current? (s : FrameStack) : Option Frame :=
  s.frames.head?

/-- Opens a frame, called from the line that the innermost one has reached. -/
def push (s : FrameStack) (name : String) (workingDir : Path) : FrameStack :=
  ⟨{ workingDir, name, callerLine := s.current?.map (·.line) } :: s.frames⟩

/-- Closes the innermost frame. -/
def pop (s : FrameStack) : FrameStack :=
  ⟨s.frames.tail⟩

/-- Notes the line that the innermost frame has reached. -/
def setLine (s : FrameStack) (line : Nat) : FrameStack :=
  match s.frames with
  | [] => s
  | top :: rest => ⟨{ top with line } :: rest⟩

/-- The directory from which relative paths start. -/
def workingDir (s : FrameStack) : Path :=
  match s.frames with
  | [] => ⟨"."⟩
  | top :: _ => top.workingDir

/-- The frames as they stand, the innermost first. -/
def trace (s : FrameStack) : List TraceEntry :=
  s.frames.map fun f => { frame := f.name, line := f.line, callerLine := f.callerLine }

end FrameStack

end PageScript

/-
Running other programs: which file a command names, and how the output is passed on line by line.

What a program does is not known here. A machine can be given any programs, and `Shell` has some.
-/
import PageScript.Browser.Call
import PageScript.Text.Utf8

namespace PageScript

/-- What a program that has ended leaves behind. -/
structure Finished where
  status : ExitStatus
  stdout : List UInt8 := []
  stderr : List UInt8 := []
  /-- The time it took, in milliseconds. -/
  elapsedMs : Nat := 0
  deriving Inhabited

/-- The programs that there are. One is started in a directory, and runs to its end: why it does not
start, or what it leaves behind, and what it has made of the disk. There is no result if it does not come
to an end. -/
class Programs (σ : Type) where
  start : σ → Disk → Path → List String → Path → Except IoError (Option (Finished × Disk))

/-- What a machine works with: a browser and programs. -/
class World (σ : Type) extends Browser σ, Programs σ

namespace Command

/-- The file that a command names: one in the working directory if it is there. Anything else is
left to be searched for among the system's programs. -/
def resolve (disk : Disk) (command : String) (workingDir : Path) : Path :=
  let path : Path := ⟨command⟩
  if path.isAbsolute then path
  else
    let here := workingDir.join path
    if disk.isFile here then here else path

/-- The stretches of a byte stream that line feeds end, and a last one that none ends unless it is
empty. -/
def stretches (bytes : List UInt8) : List (List UInt8) :=
  let all := Text.splitOn 0x0A bytes
  if all.getLast? = some [] then all.dropLast else all

/-- The text of a stretch without one carriage return at its end. -/
def lineText (stretch : List UInt8) : String :=
  Text.decodeLossy (if stretch.getLast? = some 0x0D then stretch.dropLast else stretch)

/-- The lines of what a program has written. -/
def lines (bytes : List UInt8) : List String :=
  (stretches bytes).map lineText

/-- The lines put together again, each with a line feed. -/
def captured (lines : List String) : String :=
  String.join (lines.map (· ++ "\n"))

end Command

end PageScript

/-
Starting programs.

A program is started in a directory, and the path of its file is followed from there. A name without
a slash is looked for among the system's programs. The programs that there are live on the disk.
-/
import PageScript.Command
import PageScript.Shell.Eval

namespace PageScript.Command

/-- How many steps a script may take. -/
def patience : Nat := 1000000

/-- How many bytes one argument may have. -/
def argumentLimit : Nat := 131071

/-- How many bytes all arguments together may have. -/
def argumentsLimit : Nat := 2097152

/-- Whether a text holds a NUL. -/
def hasNul (s : String) : Bool :=
  s.toList.contains '\x00'

/-- The program that a name leads to in a directory, with what it is called by and its arguments. -/
def find (disk : Disk) (program : String) (args : List String) :
    Except IoError (Tree × String × List String) := do
  if !program.toList.contains '/' && program.length > Disk.nameLimit then throw .nameTooLong
  let path ← Shell.locate disk Shell.standardPath program
  match ← Shell.follow disk (Shell.interpreterLimit + 1) path args with
  | (.program name, called, args) =>
    return (.program name, if called = path then program else called, args)
  | _ => throw .badFormat

/-- The state in which a program starts: nothing to read, and two empty streams to write to. It may
be given a time in milliseconds after which it is stopped. -/
def startState (disk : Disk) (limit : Option Nat) : Shell.State :=
  let exported (name value : String) : String × Shell.Variable :=
    (name, { value := some value, exported := true })
  { disk
    stopAt := limit.map (1000 * ·)
    files := #[.sink, .queue [] [] false, .queue [] [] false]
    streams := [(0, 0), (1, 1), (2, 2)]
    parameters := [exported "PATH" Shell.standardPath, exported "HOME" "/root"]
    ancestors := [1] }

/-- Starts a program in a directory and lets it run to its end, or for so many milliseconds. There
is no result if it does not come to an end. -/
def start (disk : Disk) (program : Path) (args : List String) (dir : Path)
    (limit : Option Nat := none) : Except IoError (Option (Finished × Disk)) := do
  if hasNul program.text || hasNul dir.text || args.any hasNul then throw .nulInCommand
  let inside ← disk.enter dir
  let sizes := (program.text :: args).map String.utf8ByteSize
  if sizes.any (· > argumentLimit) || sizes.sum > argumentsLimit then throw .tooManyArguments
  let (found, called, args) ← find inside (Shell.pack program.text) (args.map Shell.pack)
  match found with
  | .program name =>
    let run := Shell.runProgram patience name called args
    match run.run.run (startState inside limit) with
    | none => return none
    | some (outcome, s) =>
      let status : ExitStatus :=
        match outcome with
        | .error (.killed n) => .signal n
        | _ => .code (s.status % 256)
      let finished : Finished :=
        { status, stdout := s.contentOf 1, stderr := s.contentOf 2, elapsedMs := s.clock / 1000 }
      return some (finished, { s.disk with here := disk.here, mask := disk.mask })
  | _ => throw .badFormat

end PageScript.Command

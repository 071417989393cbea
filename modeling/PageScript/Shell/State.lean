/-
The state of a shell: what it shares with the programs it runs, and what is its own.

Shared are the disk, the files that are open and the time. Variables, functions and the like are a
shell's own; a shell within a shell starts with a copy of them, and what it does to them is lost
when it ends. An open file is a queue of bytes, a place on the disk, or nothing.
-/
import PageScript.Shell.Glob
import PageScript.Shell.Octets
import PageScript.Shell.Reader
import PageScript.Signal

namespace PageScript.Shell

-- ======== state

/-- Bytes that were written at a time, in microseconds, by a family of programs. -/
structure Chunk where
  time : Nat
  family : Nat
  bytes : Stream
  deriving Inhabited

/-- An open file. -/
inductive OpenFile where
  /-- Bytes that can be read, and those written behind them, the latest first. -/
  | queue (ready : Stream) (added : List Chunk) (onDisk : Bool)
  /-- A file on the disk that is written at its end. -/
  | file (location : List String)
  /-- A file that is always empty. -/
  | sink
  /-- A file that nothing can be written to. -/
  | full
  deriving Inhabited

/-- A program that was left to itself: when it ends, and how. -/
structure Job where
  pid : Nat
  ends : Nat
  status : Nat
  /-- The signal that has ended it. -/
  signal : Option Nat := none
  deriving Repr, DecidableEq, Inhabited

/-- A variable; it may be marked without having a value. -/
structure Variable where
  value : Option String := none
  exported : Bool := false
  fixed : Bool := false
  deriving Repr, DecidableEq, Inhabited

/-- The state of a shell. -/
structure State where
  disk : Disk
  files : Array OpenFile := #[]
  /-- The time that has passed, in microseconds. -/
  clock : Nat := 0
  /-- The time at which everything is stopped, if there is one. -/
  stopAt : Option Nat := none
  nextPid : Nat := 4243
  /-- The signals that have been sent to shells and not yet been seen by them. -/
  signals : List (Nat × Nat) := []
  /-- The number of the shell among all programs that run. -/
  self : Nat := 4242
  /-- The number of the shell that this one is a part of. -/
  pid : Nat := 4242
  /-- The number of the program that was left to itself and that this one is a part of. -/
  family : Nat := 4242
  /-- The shells that this one was started by. -/
  ancestors : List Nat := []
  /-- The path by which the current directory was entered, if it was. -/
  directory : Option String := none
  /-- Which open file each stream is. -/
  streams : List (Nat × Nat) := []
  /-- The name the shell was called by. -/
  name : String := "sh"
  args : List String := []
  parameters : List (String × Variable) := []
  functions : List (String × Node) := []
  aliases : List (String × String) := []
  documents : List (Nat × Word) := []
  nextDocument : Nat := 0
  status : Nat := 0
  /-- The status of the last command whose output was taken in. -/
  substituted : Option Nat := none
  /-- The programs that were left to themselves, the latest first. -/
  jobs : List Job := []
  /-- The number of the program that was left to itself last. -/
  lastJob : Option Nat := none
  options : List Char := []
  /-- What is done about signals, and at the end, which has the number 0. -/
  traps : List (Nat × String) := []
  /-- The signals that the shell was started to ignore. -/
  ignored : List Nat := []
  line : Nat := 1
  /-- The command of the shell's own that is running. -/
  running : Option String := none
  /-- How many loops there are around. -/
  loops : Nat := 0
  /-- The variables that functions hide, innermost function first. -/
  hidden : List (List (String × Option Variable)) := []
  /-- The argument that `getopts` is to go on with, counted from 1. -/
  optionIndex : Nat := 1
  /-- How far `getopts` has come inside the argument before that one, or 0 if it is done with it. -/
  optionOffset : Nat := 0
  deriving Inhabited

namespace State

def streamFile? (s : State) (stream : Nat) : Option Nat :=
  s.streams.lookup stream

def setStream (s : State) (stream file : Nat) : State :=
  { s with streams := (stream, file) :: s.streams.filter fun e => e.1 ≠ stream }

def closeStream (s : State) (stream : Nat) : State :=
  { s with streams := s.streams.filter fun e => e.1 ≠ stream }

def addFile (s : State) (file : OpenFile) : Nat × State :=
  (s.files.size, { s with files := s.files.push file })

def writeTo (s : State) (file : Nat) (bytes : Stream) : State :=
  match s.files[file]? with
  | some (.queue ready added onDisk) =>
    if bytes.isEmpty then s
    else
      let chunk : Chunk := ⟨s.clock, s.family, bytes⟩
      { s with files := s.files.setIfInBounds file (.queue ready (chunk :: added) onDisk) }
  | some (.file location) =>
    match s.disk.root.get? location with
    | some (.file content traits) =>
      { s with disk := s.disk.putFile location (content ++ bytes) traits }
    | _ => s
  | _ => s

def emit (s : State) (stream : Nat) (bytes : Stream) : State :=
  match s.streamFile? stream with
  | some file => s.writeTo file bytes
  | none => s

def contentOf (s : State) (file : Nat) : Stream :=
  match s.files[file]? with
  | some (.queue ready added _) =>
    let ordered := added.reverse.mergeSort fun a b => decide (a.time ≤ b.time)
    ready ++ (ordered.map Chunk.bytes).flatten
  | some (.file location) =>
    match s.disk.root.get? location with
    | some (.file content _) => content
    | _ => []
  | _ => []

def leave (s : State) (file : Nat) (rest : Stream) : State :=
  match s.files[file]? with
  | some (.queue _ _ onDisk) =>
    { s with files := s.files.setIfInBounds file (.queue rest [] onDisk) }
  | _ => s

def input (s : State) : Stream :=
  match s.streamFile? 0 with
  | some file => s.contentOf file
  | none => []

def inputOnDisk (s : State) : Bool :=
  match (s.streamFile? 0).bind (s.files[·]?) with
  | some (.queue _ _ onDisk) => onDisk
  | some (.file _) => true
  | _ => false

def leaveInput (s : State) (rest : Stream) : State :=
  match s.streamFile? 0 with
  | some file => s.leave file rest
  | none => s

def location (disk : Disk) : String :=
  pack ("/" ++ "/".intercalate disk.here)

def directoryPath (s : State) : String :=
  s.directory.getD (location s.disk)

def stored? (s : State) (name : String) : Option Variable :=
  s.parameters.lookup name

def setVariable (s : State) (name : String) (v : Variable) : State :=
  { s with parameters := (name, v) :: s.parameters.filter fun e => e.1 ≠ name }

def dropVariable (s : State) (name : String) : State :=
  { s with parameters := s.parameters.filter fun e => e.1 ≠ name }

def has (s : State) (option : Char) : Bool :=
  s.options.contains option

def store (s : State) (name value : String) : State :=
  let old := (s.stored? name).getD {}
  s.setVariable name { old with value := some value, exported := old.exported || s.has 'a' }

/-- Lets `getopts` go on with an argument. -/
def rewind (s : State) (index : Nat) : State :=
  { s with optionIndex := index, optionOffset := 0 }

def ignores (s : State) (signal : Nat) : Bool :=
  s.ignored.contains signal || s.traps.lookup signal == some ""

def value? (s : State) (name : String) : Option String :=
  match name with
  | "@" => if s.args.isEmpty then none else some (" ".intercalate s.args)
  | "*" =>
    let between := match s.stored? "IFS" with
      | some { value := some ifs, .. } => String.ofList (ifs.toList.take 1)
      | _ => " "
    if s.args.isEmpty then none else some (between.intercalate s.args)
  | "#" => some (Number.natText s.args.length)
  | "?" => some (Number.natText s.status)
  | "$" => some (Number.natText s.pid)
  | "!" => s.lastJob.map Number.natText
  | "-" => some (String.ofList ("ubaCEVvxsnmiIfe".toList.filter s.options.contains))
  | "0" => some s.name
  | "LINENO" => some (Number.natText s.line)
  | _ =>
    match decimal? name with
    | some n => s.args[n - 1]?
    | none => (s.stored? name).bind (·.value)

def value (s : State) (name : String) : String :=
  (s.value? name).getD ""

def dividers (s : State) : List Char :=
  match s.stored? "IFS" with
  | some { value := some ifs, .. } => ifs.toList
  | _ => [' ', '\t', '\n']

def environment (s : State) : List (String × String) :=
  s.parameters.filterMap fun (name, v) => if v.exported then v.value.map (name, ·) else none

/-- What stays of a shell of its own when it has ended: what it shares, and its status. -/
def rejoin (s inner : State) : State :=
  { s with
    disk := { inner.disk with here := s.disk.here, mask := s.disk.mask }
    files := inner.files
    clock := inner.clock
    nextPid := inner.nextPid
    signals := inner.signals
    status := inner.status }

end State

-- ======== actions

/-- Why commands are not gone on with. -/
inductive Stop where
  /-- So many loops are left. -/
  | leave (count : Nat)
  /-- So many loops are left, the last of them only to go on with its next round. -/
  | again (count : Nat)
  | back
  | exit
  /-- A command of the shell's own cannot go on. -/
  | fault
  | killed (signal : Nat)
  deriving Repr, DecidableEq, Inhabited

abbrev Action := ExceptT Stop (StateT State Option)

def attempt {α : Type} (a : Action α) : Action (Except Stop α) :=
  ExceptT.mk do
    let result ← a.run
    return .ok result

def unfinished {α : Type} : Action α :=
  ExceptT.mk (StateT.lift none)

def finish (status : Nat) : Action Unit :=
  modify fun s => { s with status }

def write (stream : Nat) (text : String) : Action Unit :=
  modify fun s => s.emit stream (bytesOf text)

def report (text : String) : Action Unit := do
  let s ← get
  let command := match s.running with | some name => name ++ ": " | none => ""
  write 2 (s.name ++ ": " ++ Number.natText s.line ++ ": " ++ command ++ text ++ "\n")

def complain (status : Nat) (text : String) : Action Unit := do
  report text
  finish status

def abort {α : Type} (text : String) : Action α := do
  complain 2 text
  throw .fault

/-- Lets `getopts` start anew where a value of the variable for its place says. -/
def placeOptions (value : String) : Action Unit :=
  match decimal? value with
  | some n => modify (·.rewind (max n 1))
  | none => abort ("Illegal number: " ++ value)

def assign (name value : String) : Action Unit := do
  let s ← get
  match s.stored? name with
  | some { fixed := true, .. } => abort (name ++ ": is read only")
  | _ =>
    if name = "OPTIND" then placeOptions value
    modify (·.store name value)

end PageScript.Shell

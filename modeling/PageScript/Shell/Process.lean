/-
Programs that run: shells within shells, what programs do to the state, and where programs are.
-/
import PageScript.Shell.Builtin
import PageScript.Shell.Program.Table

namespace PageScript.Shell

-- ======== forks

/-- The time that a program left to itself takes before it does anything, in microseconds. -/
def startTime : Nat := 1000

def timeLimit : Nat := 3600 * 1000000

def pass (microseconds : Nat) : Action Unit := do
  let s ← get
  let clock := s.clock + microseconds
  match s.stopAt.filter (· ≤ clock) with
  | some stop =>
    set { s with clock := max s.clock stop }
    throw (.killed 15)
  | none =>
    if clock > timeLimit then unfinished
    set { s with clock }

def inFork (body : Action Unit) : Action (Except Stop Unit) := do
  let s ← get
  set { s with self := s.nextPid, nextPid := s.nextPid + 1 }
  let result ← attempt body
  let inner ← get
  set (s.rejoin inner)
  match result with
  | .error (.killed n) => finish (128 + n)
  | _ => pure ()
  return result

def noteDeath (result : Except Stop Unit) : Action Unit :=
  match result with
  | .error (.killed n) =>
    if n = 2 || n = 13 then return else write 2 (Signal.description n ++ "\n")
  | _ => return

def State.withdraw (s : State) (family time : Nat) : State :=
  { s with
    files := s.files.map fun
      | .queue ready added onDisk =>
        .queue ready (added.filter fun c => c.family ≠ family || c.time ≤ time) onDisk
      | file => file }

-- ======== effects

def undergo (e : Effect) : Action Unit := do
  modify fun s =>
    let s := { s with disk := { e.disk with here := s.disk.here } }
    let s := match e.rest with | some rest => s.leaveInput rest | none => s
    e.writes.foldl (fun s (stream, bytes) => s.emit stream bytes) s
  finish e.status
  pass (1000 * e.elapsed)
  match e.signal with
  | some n => throw (.killed n)
  | none => return

def State.blocked? (s : State) (stream : Nat) : Option String :=
  match (s.streamFile? stream).map fun (file : Nat) => s.files[file]? with
  | none => some "Bad file descriptor"
  | some (some .full) => some (reason .noSpace)
  | _ => none

def outputFault (program reason : String) : String × Nat :=
  let ordinary := "write error: " ++ reason
  let full := reason = "No space left on device"
  match program with
  | "sort" => ("fflush failed: 'standard output': " ++ reason ++ "\nsort: write error", 2)
  | "sed" => ("couldn't " ++ (if full then "flush" else "close") ++ " stdout: " ++ reason, 4)
  | "grep" | "egrep" | "fgrep" | "ls" | "dir" | "vdir" | "printenv" => (ordinary, 2)
  | "expr" => (ordinary, 3)
  | "tee" => ("'standard output': " ++ reason, 1)
  | "dd" =>
    ("error writing 'standard output': " ++ reason ++
      (if full then "" else "\ndd: closing output file 'standard output': " ++ reason), 1)
  | "yes" => ("standard output: " ++ reason, 1)
  | "cat" => (if full then ordinary else "standard output: " ++ reason, 1)
  | "wc" | "sum" | "cksum" | "md5sum" | "sha1sum" | "sha224sum" | "sha256sum"
  | "sha384sum" | "sha512sum" => (if full then "write error" else ordinary, 1)
  | _ => (ordinary, 1)

/-- Lets the effect of a program of the system take place, which complains if its output cannot be
written. -/
def undergoAs (program called : String) (e : Effect) : Action Unit := do
  match (← get).blocked? 1 with
  | none => undergo e
  | some why =>
    if e.writes.any fun w => w.1 = 1 && !w.2.isEmpty then
      undergo { e with signal := none }
      let (text, status) := outputFault program why
      write 2 (called ++ ": " ++ text ++ "\n")
      finish (max status e.status)
    else undergo e

def State.call (s : State) (name label : String) (args : List String) : Call :=
  { name, label, args, input := s.input, fromFile := s.inputOnDisk, environment := s.environment,
    disk := s.disk }

def ownPrograms : List (String × (Call → Effect)) :=
  [("echo", Program.echo .shell), ("printf", Program.printf .shell), ("test", Program.test .shell),
    ("[", Program.test .shell)]

/-- An effect that writes its complaints first, as a program does that keeps its output until it
ends. -/
def complaintsFirst (e : Effect) : Effect :=
  let (complaints, output) := e.writes.partition fun w => w.1 = 2
  { e with writes := complaints ++ output }

def runOwn (name : String) (program : Call → Effect) (args : List String) : Action Unit := do
  let s ← get
  let label := s.name ++ ": " ++ Number.natText s.line ++ ": " ++ name ++ ": "
  let effect := complaintsFirst (program (s.call name label args))
  undergo effect
  if (s.blocked? 1).isSome && effect.writes.any fun w => w.1 = 1 && !w.2.isEmpty then
    complain 1 (name ++ ": I/O error")

def evaluators : List String :=
  [".", "command", "eval", "exec", "hash", "type"]

def isBuiltin (name : String) : Bool :=
  evaluators.contains name || ownPrograms.any (fun p => p.1 = name) ||
    Builtin.table.any fun b => b.1 = name

-- ======== programs

def standardPath : String :=
  "/usr/local/sbin:/usr/local/bin:/usr/sbin:/usr/bin:/sbin:/bin"

def runnable (disk : Disk) (path : Path) : Except IoError Tree :=
  match disk.find path with
  | .ok (.program name) => .ok (.program name)
  | .ok (.file content traits) =>
    if traits.runs then .ok (.file content traits) else .error .permissionDenied
  | .ok _ => .error .permissionDenied
  | .error e => .error e

/-- The path of a program: its name if there is a slash in it, or what is found in one of the
directories of a list. -/
def locate (disk : Disk) (searched name : String) : Except IoError String :=
  if name.toList.contains '/' then (runnable disk (pathOf name)).map fun _ => name
  else if name = "" then .error .notFound
  else
    let paths := (searched.splitOn ":").map fun dir =>
      if dir = "" then name else Program.under dir name
    match paths.find? fun p => (runnable disk (pathOf p)).toOption.isSome with
    | some path => .ok path
    | none =>
      if paths.any fun p => disk.isFile (pathOf p) then .error .permissionDenied
      else .error .notFound

def State.locate (s : State) (name : String) : Except IoError String :=
  Shell.locate s.disk (s.value "PATH") name

/-- The interpreter of a script and the one argument that can stand behind it, or nothing if the
script says none. -/
def interpreter? (content : Stream) : Option (String × Option String) :=
  match content with
  | 0x23 :: 0x21 :: rest =>
    let blank (c : Char) : Bool := c = ' ' || c = '\t'
    let line := toChars ((rest.take 254).takeWhile (· ≠ 0x0A))
    let bare := ((line.dropWhile blank).reverse.dropWhile blank).reverse
    let path := bare.takeWhile (!blank ·)
    let arg := (bare.drop path.length).dropWhile blank
    if path.isEmpty then none
    else some (String.ofList path, if arg.isEmpty then none else some (String.ofList arg))
  | _ => none

def interpreterLimit : Nat := 5

/-- A program of the system with what it is called by and its arguments, which a path and arguments
lead to; each script on the way takes one of `fuel`. A script that names no interpreter is given
back as it is. -/
def follow (disk : Disk) : (fuel : Nat) → (path : String) → (args : List String) →
    Except IoError (Tree × String × List String)
  | 0, _, _ => .error .tooManyLinks
  | fuel + 1, path, args => do
    match ← runnable disk (pathOf path) with
    | .file content traits =>
      match interpreter? content with
      | some (interpreter, arg) =>
        follow disk fuel interpreter (arg.toList ++ path :: args)
      | none =>
        if content.take 2 = [0x23, 0x21] then .error .badFormat
        else return (.file content traits, path, args)
    | tree => return (tree, path, args)

/-- What a name means to the shell, as `type` says it. -/
def State.describe (s : State) (name : String) : Option String :=
  if keywords.contains name then some (name ++ " is a shell keyword")
  else
    match s.aliases.lookup name with
    | some value => some (name ++ " is an alias for " ++ value)
    | none =>
      if s.functions.any fun f => f.1 = name then some (name ++ " is a shell function")
      else if specialBuiltins.contains name then some (name ++ " is a special shell builtin")
      else if isBuiltin name then some (name ++ " is a shell builtin")
      else
        match s.locate name with
        | .ok path => some (name ++ " is " ++ path)
        | .error _ => none

def State.meaning (s : State) (name : String) : Option String :=
  match s.aliases.lookup name with
  | some value => some ("alias " ++ Builtin.aliasText name value)
  | none =>
    if keywords.contains name || (s.functions.any fun f => f.1 = name) || isBuiltin name then
      some name
    else (s.locate name).toOption

end PageScript.Shell

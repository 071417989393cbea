/-
Running scripts.

Commands are actions on the state of a shell. Words are expanded, streams redirected and variables
assigned before a command is looked for: among functions, commands of the shell's own, and programs.
A program runs in a fork, so that nothing it does to the shell's own state stays. Each step into a
script takes one of `fuel`; a script that uses all of it up is taken never to end.
-/
import PageScript.Shell.Process
import PageScript.Shell.Find.Walk
import PageScript.Shell.Records.Call

namespace PageScript.Shell

/-- How a command is run. -/
structure Mode where
  /-- Whether it may fail without ending a shell that ends when commands fail. -/
  tested : Bool := false
  /-- Whether the shell has nothing else to do, so that a program can take its place. -/
  final : Bool := false
  deriving Repr, DecidableEq, Inhabited

def restoreStreams (streams : List (Nat × Nat)) : Action Unit :=
  modify fun s => { s with streams }

def resume (outcome : Except Stop Unit) : Action Unit :=
  match outcome with
  | .ok _ => return
  | .error stop => throw stop

def checkFailure (mode : Mode) : Action Unit := do
  let s ← get
  if s.status ≠ 0 && s.has 'e' && !mode.tested then throw .exit

-- ======== redirections

def openReason (missing : String) (e : IoError) : String :=
  if e = .notFound || e = .notDirectory then missing else reason e

def streamOfPath? (disk : Disk) (path : String) : Option Nat :=
  match disk.find (pathOf path) with
  | .ok (.device (.stream n)) => some n
  | _ => none

def readScript (path : String) : Action (Except IoError Stream) := do
  let s ← get
  if streamOfPath? s.disk path = some 0 then
    set (s.leaveInput [])
    return .ok s.input
  else return s.disk.read (pathOf path)

def openStream (stream : Nat) (file : OpenFile) : Action Unit :=
  modify fun s =>
    let (number, s) := s.addFile file
    s.setStream stream number

def copyStream (stream source : Nat) : Action Unit := do
  let s ← get
  match s.streamFile? source with
  | some file => set (s.setStream stream file)
  | none => abort (Number.natText source ++ ": Bad file descriptor")

def openToRead (stream : Nat) (path : String) : Action Unit := do
  let s ← get
  match s.disk.find (pathOf path) with
  | .ok (.device .terminal) => abort ("cannot open " ++ path ++ ": " ++ reason .noDevice)
  | .ok (.device kind) => openStream stream (.queue kind.content [] false)
  | .ok (.dir ..) | .ok (.link _) => openStream stream .sink
  | .ok (.file content _) => openStream stream (.queue content [] true)
  | .ok (.program _) => openStream stream (.queue [0x7F] [] true)
  | .error e => abort ("cannot open " ++ path ++ ": " ++ openReason "No such file" e)

/-- Opens a file for writing: emptied, or as it is. -/
def openToWrite (stream : Nat) (path : String) (emptied protectedToo : Bool) : Action Unit := do
  let s ← get
  let refused (e : IoError) : Action Unit :=
    abort ("cannot create " ++ path ++ ": " ++ openReason "Directory nonexistent" e)
  match s.disk.place (pathOf path) with
  | .error e => refused e
  | .ok (.taken _ (.device .terminal)) => refused .noDevice
  | .ok (.taken _ (.device .full)) => openStream stream .full
  | .ok (.taken _ (.device _)) => openStream stream .sink
  | .ok (.taken location (.file content traits)) =>
    if protectedToo && s.has 'C' then refused .alreadyExists
    else
      let content := if emptied then [] else content
      set { s with disk := s.disk.putFile location content traits }
      openStream stream (.file location)
  | .ok (.taken _ (.dir ..)) => refused .isDirectory
  | .ok (.taken _ (.link _)) => refused .notFound
  | .ok (.taken _ (.program _)) => refused .permissionDenied
  | .ok (.free location) =>
    if path.endsWith "/" then refused .isDirectory
    else
      set { s with disk := s.disk.addFile location [] }
      openStream stream (.file location)

def redirectOne (run : Substitution) : Redirect → Action Unit
  | .mk stream action target => do
    match action with
    | .document number =>
      let word := ((← get).documents.lookup number).getD []
      let text ← expandDocument run word
      openStream stream (.queue (bytesOf text) [] false)
    | .duplicate =>
      let text ← expandText run target
      match text.toList with
      | ['-'] => modify fun s => s.closeStream stream
      | [d] =>
        if d.isDigit then copyStream stream (d.toNat - '0'.toNat)
        else abort "Syntax error: Bad fd number"
      | _ => abort "Syntax error: Bad fd number"
    | _ =>
      let path ← expandText run target
      match streamOfPath? (← get).disk path, action with
      | some source, _ => copyStream stream source
      | none, .read => openToRead stream path
      | none, .append => openToWrite stream path false false
      | none, .update => openToWrite stream path false false
      | none, .overwrite => openToWrite stream path true false
      | none, _ => openToWrite stream path true true

def redirect (run : Substitution) : List Redirect → Action Unit
  | [] => return
  | r :: rest => do
    redirectOne run r
    redirect run rest

-- ======== parts

/-- The words of a command. Behind a command that assigns variables, a word that looks like an
assignment is expanded like one. -/
def expandCommand (run : Substitution) (words : List Word) : Action (List String) := do
  match words with
  | first :: rest =>
    let assigns := match first.plain? with
      | some name => ["export", "readonly", "local"].contains name
      | none => false
    if assigns then
      let name ← expandFields run first
      let mut args := name
      for word in rest do
        match assignment? word with
        | some (variableName, value) =>
          args := args ++ [variableName ++ "=" ++ (← expandValue run value)]
        | none => args := args ++ (← expandFields run word)
      return args
    else expandWords run words
  | [] => return []

def assignAll (run : Substitution) (exported : Bool) :
    List (String × Word) → Action (List (String × Option Variable))
  | [] => return []
  | (name, word) :: rest => do
    let value ← expandValue run word
    let old := (← get).stored? name
    assign name value
    if exported then
      modify fun s => s.setVariable name { (s.stored? name).getD {} with exported := true }
    return (name, old) :: (← assignAll run exported rest)

def putBack (old : List (String × Option Variable)) : Action Unit :=
  modify fun s => old.reverse.foldl
    (fun s (name, v) =>
      match v with
      | some v => s.setVariable name v
      | none => s.dropVariable name) s

def trace (streams : List (Nat × Nat)) (assignments : List (String × Option Variable))
    (words : List String) : Action Unit := do
  let s ← get
  if s.has 'x' then
    let values := assignments.map fun (name, _) => name ++ "=" ++ s.value name
    let line := s.value "PS4" ++ " ".intercalate (values ++ words) ++ "\n"
    match streams.lookup 2 with
    | some file => modify fun s => s.writeTo file (bytesOf line)
    | none => return

def complainMissing (name : String) (e : IoError) : Action Unit :=
  match e with
  | .notFound | .notDirectory => complain 127 (name ++ ": not found")
  | .permissionDenied => complain 126 (name ++ ": Permission denied")
  | e => complain 126 (name ++ ": " ++ reason e)

def describeAll (names : List String) : Action Unit := do
  for name in names do
    match (← get).describe name with
    | some text => Builtin.say [text]
    | none =>
      Builtin.say [name ++ ": not found"]
      finish 127

def hash (names : List String) : Action Unit := do
  for name in names do
    let s ← get
    if name ≠ "-r" && !isBuiltin name && (s.locate name).toOption.isNone then
      complain 1 (name ++ ": not found")

def firstVariables (s : State) (environment : List (String × String)) :
    List (String × Variable) :=
  let set := ["IFS", "PWD", "PPID"]
  let inherited := environment.filter fun e => isName e.1 && !set.contains e.1
  let own : List (String × Variable) :=
    [("PWD", { value := some s.directoryPath, exported := true }),
      ("PPID", { value := some (Number.natText (s.ancestors.headD 1)) }),
      ("OPTIND", { value := some "1" }), ("IFS", { value := some " \t\n" }),
      ("PS1", { value := some "# " }), ("PS2", { value := some "> " }),
      ("PS4", { value := some "+ " })]
  let searched : List (String × Variable) :=
    if environment.any fun e => e.1 = "PATH" then []
    else [("PATH", { value := some standardPath })]
  own ++ searched ++ (inherited.map fun (name, value) =>
    (name, ({ value := some value, exported := true } : Variable))).reverse

def State.fresh (s : State) (name : String) : State :=
  let start : State :=
    { disk := s.disk, files := s.files, clock := s.clock, stopAt := s.stopAt
      nextPid := s.nextPid, signals := s.signals, self := s.self, pid := s.self, family := s.family,
      streams := s.streams, name
      ancestors := s.ancestors, nextDocument := s.nextDocument }
  let entered := (s.environment.lookup "PWD").filter fun (path : String) =>
    match s.disk.place (pathOf path) with
    | .ok (.taken location _) => path.startsWith "/" && location = s.disk.here
    | _ => false
  { start with
    directory := entered
    parameters := firstVariables { start with directory := entered } s.environment
    ignored := s.ignored ++ (s.traps.filter fun t => t.1 ≠ 0 && t.2 = "").map Prod.fst }

def State.inner (s : State) : State :=
  { s with traps := s.traps.filter (fun t => t.2 = ""), jobs := [] }

/-- What is read from the arguments of a shell: whether its script is an argument or on its input,
and its operands. -/
structure Invocation where
  command : Bool := false
  onInput : Bool := false
  operands : List String := []

/-- Reads the arguments of a shell; each takes one of `fuel`. -/
def readInvocation : (fuel : Nat) → Invocation → List String → Action Invocation
  | 0, i, args => return { i with operands := args }
  | _ + 1, i, [] => return i
  | fuel + 1, i, arg :: rest =>
    match arg.toList with
    | ['-', '-'] | ['-'] => return { i with operands := rest }
    | sign :: letter :: letters =>
      if sign = '-' || sign = '+' then do
        let on := sign = '-'
        let mut i := i
        let mut rest := rest
        for c in letter :: letters do
          if c = 'c' then i := { i with command := true }
          else if c = 'o' then
            match rest with
            | name :: more =>
              Builtin.switchNamed on name
              rest := more
            | [] => Builtin.listOptions on
          else if Builtin.isOption c || c = 'l' then
            if c = 's' then i := { i with onInput := true }
            Builtin.switch on c
          else abort ("Illegal option " ++ sign.toString ++ c.toString)
        readInvocation fuel i rest
      else return { i with operands := arg :: rest }
    | _ => return { i with operands := arg :: rest }

-- ======== running

mutual

def evalNode : (fuel : Nat) → Mode → Node → Action Unit
  | 0, _, _ => unfinished
  | fuel + 1, mode, node => do
    let s ← get
    if s.has 'n' then return
    if s.stopAt.any (· ≤ s.clock) then throw (.killed 15)
    match node with
    | .nothing => finish 0
    | .simple line assignments words redirects =>
      evalSimple fuel mode line assignments words redirects
      checkFailure mode
    | .redirected line body redirects =>
      modify fun s => { s with line }
      let streams := (← get).streams
      let outcome ← attempt do
        match ← attempt (redirect (substitute fuel) redirects) with
        | .error .fault => return
        | .error stop => throw stop
        | .ok _ => evalNode fuel { tested := mode.tested } body
      restoreStreams streams
      resume outcome
    | .pipe stages =>
      evalPipe fuel mode none stages
      checkFailure mode
    | .not body =>
      evalNode fuel { tested := true } body
      finish (if (← get).status = 0 then 1 else 0)
    | .both left right =>
      evalNode fuel { tested := true } left
      if (← get).status = 0 then evalNode fuel mode right
    | .either left right =>
      evalNode fuel { tested := true } left
      if (← get).status ≠ 0 then evalNode fuel mode right
    | .sequence left right =>
      evalNode fuel { mode with final := false } left
      evalNode fuel mode right
    | .background body =>
      evalBackground fuel body
    | .subshell line body redirects =>
      modify fun s => { s with line }
      let outcome ← evalFork fuel mode.tested State.inner (.redirected line body redirects)
      noteDeath outcome
      checkFailure mode
    | .choice test yes no =>
      evalNode fuel { tested := true } test
      if (← get).status = 0 then evalNode fuel mode yes else evalNode fuel mode no
    | .repeated negated test body =>
      modify fun s => { s with loops := s.loops + 1 }
      let outcome ← attempt (evalLoop fuel mode.tested negated test body 0)
      modify fun s => { s with loops := s.loops - 1 }
      resume outcome
    | .each line name words body =>
      modify fun s => { s with line }
      let items ← expandWords (substitute fuel) words
      modify fun s => { s with loops := s.loops + 1 }
      finish 0
      let outcome ← attempt (evalEach fuel mode.tested name items body)
      modify fun s => { s with loops := s.loops - 1 }
      resume outcome
    | .select line subject branches =>
      modify fun s => { s with line }
      let text ← expandText (substitute fuel) subject
      finish 0
      evalSelect fuel mode text branches
    | .define name body =>
      modify fun s =>
        { s with functions := (name, body) :: s.functions.filter fun f => f.1 ≠ name }
      finish 0
    answerSignals fuel

def answerSignals : (fuel : Nat) → Action Unit
  | 0 => unfinished
  | fuel + 1 => do
    let s ← get
    match s.signals.find? fun e => e.1 = s.self with
    | none => return
    | some (pid, signal) =>
      modify fun s => { s with signals := s.signals.erase (pid, signal) }
      if signal = 9 then throw (.killed 9)
      match s.ignores signal, s.traps.lookup signal with
      | true, _ => answerSignals fuel
      | false, some action =>
        let status := s.status
        evalText fuel {} action
        finish status
        answerSignals fuel
      | false, none =>
        if Signal.isHarmless signal then answerSignals fuel
        else if 19 ≤ signal && signal ≤ 22 then unfinished
        else throw (.killed signal)

def substitute : (fuel : Nat) → Substitution
  | 0, _ => unfinished
  | fuel + 1, body => do
    let before := (← get).status
    let file := (← get).files.size
    modify fun s => (s.addFile (.queue [] [] false)).2
    let outcome ← evalFork fuel false (fun s => (s.inner).setStream 1 file) body
    noteDeath outcome
    let s ← get
    let text := (toChars (s.contentOf file)).filter (· ≠ '\x00')
    set { s with
      status := before, substituted := some s.status
      files := s.files.setIfInBounds file .sink }
    return String.ofList (text.reverse.dropWhile (· = '\n')).reverse

def evalFork : (fuel : Nat) → (tested : Bool) → (State → State) → Node → Action (Except Stop Unit)
  | 0, _, _, _ => unfinished
  | fuel + 1, tested, ready, body =>
    inFork do
      modify ready
      endShell fuel (evalNode fuel { tested, final := true } body)

def endShell : (fuel : Nat) → Action Unit → Action Unit
  | 0, _ => unfinished
  | fuel + 1, body => do
    let killed (outcome : Except Stop Unit) : Action Unit :=
      match outcome with
      | .error (.killed n) => throw (.killed n)
      | _ => return
    let outcome ← attempt do
      body
      answerSignals fuel
    killed outcome
    let s ← get
    match s.traps.lookup 0 with
    | none | some "" => return
    | some action =>
      let status := s.status
      modify fun s => { s with traps := s.traps.filter (fun t => t.1 ≠ 0), running := none }
      let outcome ← attempt (evalText fuel {} action)
      killed outcome
      match outcome with
      | .error .exit => return
      | _ => finish status

/-- Runs commands that read from one another, the first of them from a file if one is given. -/
def evalPipe : (fuel : Nat) → Mode → (source : Option Nat) → List Node → Action Unit
  | 0, _, _, _ => unfinished
  | _ + 1, _, _, [] => return
  | fuel + 1, mode, source, stage :: rest => do
    let from? (s : State) : State := match source with | some f => s.setStream 0 f | none => s
    if rest.isEmpty then
      noteDeath (← evalFork fuel mode.tested (fun s => from? s.inner) stage)
    else
      let file := (← get).files.size
      modify fun s => (s.addFile (.queue [] [] false)).2
      noteDeath (← evalFork fuel mode.tested (fun s => (from? s.inner).setStream 1 file) stage)
      evalPipe fuel mode (some file) rest
    match source with
    | some f => modify fun s => { s with files := s.files.setIfInBounds f .sink }
    | none => return

def evalBackground : (fuel : Nat) → Node → Action Unit
  | 0, _ => unfinished
  | fuel + 1, body => do
    let s ← get
    let pid := s.nextPid
    let ready (s : State) : State :=
      let (file, s) := s.inner.addFile .sink
      { s.setStream 0 file with clock := s.clock + startTime, family := pid }
    let outcome ← evalFork fuel false ready body
    modify fun inner =>
      let signal := match outcome with | .error (.killed n) => some n | _ => none
      let job : Job := ⟨pid, inner.clock, inner.status, signal⟩
      { inner with clock := s.clock, status := 0, jobs := job :: inner.jobs, lastJob := some pid }

/-- Repeats a command while another one succeeds, or until it does. `status` is that of the last
round. -/
def evalLoop : (fuel : Nat) → (tested negated : Bool) → Node → Node → (status : Nat) → Action Unit
  | 0, _, _, _, _, _ => unfinished
  | fuel + 1, tested, negated, test, body, status => do
    let outcome ← attempt do
      evalNode fuel { tested := true } test
      return decide ((← get).status = 0)
    match outcome with
    | .error (.leave n) => if n > 1 then throw (.leave (n - 1)) else return
    | .error (.again n) =>
      if n > 1 then throw (.again (n - 1)) else evalLoop fuel tested negated test body status
    | .error stop => throw stop
    | .ok holds =>
      if holds = negated then finish status
      else
        match ← attempt (evalNode fuel { tested } body) with
        | .error (.leave n) => if n > 1 then throw (.leave (n - 1)) else return
        | .error (.again n) =>
          if n > 1 then throw (.again (n - 1))
          else evalLoop fuel tested negated test body (← get).status
        | .error stop => throw stop
        | .ok _ => evalLoop fuel tested negated test body (← get).status

def evalEach : (fuel : Nat) → (tested : Bool) → String → List String → Node → Action Unit
  | 0, _, _, _, _ => unfinished
  | _ + 1, _, _, [], _ => return
  | fuel + 1, tested, name, value :: rest, body => do
    assign name value
    match ← attempt (evalNode fuel { tested } body) with
    | .error (.leave n) => if n > 1 then throw (.leave (n - 1)) else return
    | .error (.again n) =>
      if n > 1 then throw (.again (n - 1)) else evalEach fuel tested name rest body
    | .error stop => throw stop
    | .ok _ => evalEach fuel tested name rest body

def evalSelect : (fuel : Nat) → Mode → String → List (List Word × Node) → Action Unit
  | 0, _, _, _ => unfinished
  | _ + 1, _, _, [] => return
  | fuel + 1, mode, text, (patterns, body) :: rest => do
    if ← anyMatches fuel text patterns then evalNode fuel mode body
    else evalSelect fuel mode text rest

def anyMatches : (fuel : Nat) → String → List Word → Action Bool
  | 0, _, _ => unfinished
  | _ + 1, _, [] => return false
  | fuel + 1, text, pattern :: rest => do
    let g ← expandPattern (substitute fuel) pattern
    if g.accepts text.toList then return true else anyMatches fuel text rest

def evalSimple : (fuel : Nat) → Mode → (line : Nat) → List (String × Word) → List Word →
    List Redirect → Action Unit
  | 0, _, _, _, _, _ => unfinished
  | fuel + 1, mode, line, assignments, words, redirects => do
    modify fun s => { s with line, substituted := none }
    let run := substitute fuel
    let argv ← expandCommand run words
    let streams := (← get).streams
    match argv with
    | [] =>
      match ← attempt (redirect run redirects) with
      | .error .fault => restoreStreams streams
      | .error stop => throw stop
      | .ok _ =>
        restoreStreams streams
        let assigned ← assignAll run false assignments
        trace streams assigned []
        finish ((← get).substituted.getD 0)
    | name :: args =>
      let s ← get
      match s.functions.lookup name with
      | some body =>
        match ← attempt (redirect run redirects) with
        | .error .fault => restoreStreams streams
        | .error stop => throw stop
        | .ok _ =>
          let old ← assignAll run true assignments
          trace streams old argv
          let outcome ← attempt (evalFunction fuel mode.tested body args)
          restoreStreams streams
          putBack old
          resume outcome
      | none =>
        if isBuiltin name then
          evalBuiltin fuel mode name args assignments redirects
        else
          match ← attempt (redirect run redirects) with
          | .error .fault => restoreStreams streams
          | .error stop => throw stop
          | .ok _ =>
            let old ← assignAll run true assignments
            trace streams old argv
            if mode.final && s.traps.isEmpty then
              execute fuel name args
              throw .exit
            else
              noteDeath (← inFork (execute fuel name args))
              restoreStreams streams
              putBack old

def evalFunction : (fuel : Nat) → (tested : Bool) → Node → (args : List String) → Action Unit
  | 0, _, _, _ => unfinished
  | fuel + 1, tested, body, args => do
    let s ← get
    set { s.rewind 1 with args, hidden := [] :: s.hidden, loops := 0 }
    let outcome ← attempt (evalNode fuel { tested } body)
    let inner ← get
    putBack (inner.hidden.headD [])
    modify fun inner =>
      { inner with
        args := s.args, hidden := s.hidden, loops := s.loops
        optionIndex := s.optionIndex, optionOffset := s.optionOffset }
    match outcome with
    | .error .back => return
    | outcome => resume outcome

def evalBuiltin : (fuel : Nat) → Mode → String → List String → List (String × Word) →
    List Redirect → Action Unit
  | 0, _, _, _, _, _ => unfinished
  | fuel + 1, mode, name, args, assignments, redirects => do
    let special := specialBuiltins.contains name
    let run := substitute fuel
    let s ← get
    match ← attempt (redirect run redirects) with
    | .error .fault =>
      restoreStreams s.streams
      if special then throw .fault else return
    | .error stop => throw stop
    | .ok _ =>
      let old ← assignAll run (!special) assignments
      trace s.streams old (name :: args)
      let outcome ← attempt (runBuiltin fuel mode name args)
      let stays := name = "exec" || (name = "command" && args.head? = some "exec")
      if !stays then restoreStreams s.streams
      if !special then putBack old
      match outcome with
      | .error .fault => if special then throw .fault else return
      | outcome => resume outcome

def runBuiltin : (fuel : Nat) → Mode → String → List String → Action Unit
  | 0, _, _, _ => unfinished
  | fuel + 1, mode, name, args => do
    let s ← get
    let outer := s.running
    let under (label : String) (body : Action Unit) : Action Unit := do
      modify fun s => { s with running := some label }
      let outcome ← attempt body
      modify fun s => { s with running := outer }
      resume outcome
    match name with
    | "eval" =>
      let text := " ".intercalate args
      if args.all (· = "") then finish 0
      else under name (evalText fuel { tested := mode.tested } text)
    | "." =>
      match args with
      | [] => return
      | file :: _ =>
        let path := if file.toList.contains '/' then some file
          else (((s.value "PATH").splitOn ":").map fun dir => Program.under dir file).find? fun p =>
            s.disk.isFile (pathOf p)
        match path with
        | none => under name (abort (file ++ ": not found"))
        | some path =>
          match ← readScript path with
          | .error .isDirectory => finish 0
          | .error e =>
            under name (abort ("cannot open " ++ path ++ ": " ++ openReason "No such file" e))
          | .ok content =>
            let line := s.line
            finish 0
            let outcome ← attempt (under path (evalText fuel {} (ofBytes content)))
            modify fun s => { s with line }
            match outcome with
            | .error .back => return
            | outcome => resume outcome
    | "exec" =>
      finish 0
      match args with
      | [] => return
      | program :: args =>
        modify fun s => { s with traps := [] }
        under name (execute fuel program args)
        throw .exit
    | "command" => evalCommand fuel mode args
    | "type" =>
      finish 0
      describeAll args
    | "hash" =>
      finish 0
      under name (hash args)
    | _ =>
      match ownPrograms.lookup name, Builtin.table.lookup name with
      | some program, _ => under name (runOwn name program args)
      | none, some body =>
        if name ≠ "exit" && name ≠ "return" then finish 0
        under name (body args)
      | none, none => return

def evalCommand : (fuel : Nat) → Mode → List String → Action Unit
  | 0, _, _ => unfinished
  | fuel + 1, mode, args => do
    match args with
    | [] => finish 0
    | "-p" :: rest => evalCommand fuel mode rest
    | "--" :: rest => evalCommand fuel mode rest
    | "-v" :: names =>
      finish 0
      match names.head?.map (← get).meaning with
      | some (some text) => Builtin.say [text]
      | some none => finish 127
      | none => return
    | "-V" :: names =>
      finish 0
      describeAll (names.take 1)
    | name :: rest =>
      if isBuiltin name then
        modify fun s => { s with hidden := [] :: s.hidden }
        let outcome ← attempt (runBuiltin fuel mode name rest)
        putBack ((← get).hidden.headD [])
        modify fun s => { s with hidden := s.hidden.drop 1 }
        match outcome with
        | .error .fault => return
        | outcome => resume outcome
      else noteDeath (← inFork (execute fuel name rest))

def execute : (fuel : Nat) → String → List String → Action Unit
  | 0, _, _ => unfinished
  | fuel + 1, name, args => do
    let s ← get
    match s.locate name with
    | .error e => complainMissing name e
    | .ok path =>
      match follow s.disk (interpreterLimit + 1) path args with
      | .error e => complainMissing name e
      | .ok (.program program, called, args) =>
        runProgram fuel program (if called = path then name else called) args
      | .ok (.file content _, path, args) =>
        modify fun s => { s.fresh path with args }
        endShell fuel (evalText fuel {} (ofBytes content))
      | .ok _ => complainMissing name .permissionDenied

def runProgram : (fuel : Nat) → (program called : String) → List String → Action Unit
  | 0, _, _, _ => unfinished
  | fuel + 1, program, called, args => do
    match program with
    | "sh" | "dash" => runShell fuel called args
    | "env" => runEnv fuel called args
    | "find" => runFind fuel called args
    | "timeout" => runTimeout fuel called args
    | "awk" | "mawk" | "nawk" => runRecords fuel called args
    | "nice" =>
      match args with
      | "-n" :: amount :: command :: rest =>
        if (integer? amount).isSome then runOther fuel called quoted command rest
        else
          write 2 (called ++ ": invalid adjustment " ++ quoted amount ++ "\n")
          finish 125
      | command :: rest => runOther fuel called quoted command rest
      | [] => Builtin.say ["0"]
    | "nohup" =>
      match args with
      | command :: rest =>
        runOther fuel called (fun name => "failed to run command " ++ quotedName name) command rest
      | [] =>
        write 2 (called ++ ": missing operand\nTry '" ++ called ++
          " --help' for more information.\n")
        finish 125
    | "kill" => Builtin.kill args
    | "which" =>
      let s ← get
      finish 0
      for name in args do
        match s.locate name with
        | .ok path => Builtin.say [path]
        | .error _ => finish 1
    | _ =>
      match Program.table.lookup program with
      | some run => undergoAs program called (run ((← get).call called (called ++ ": ") args))
      | none => complainMissing called .notFound

/-- Runs a program for another one, which complains if it cannot; `failure` says then what it was
that could not be run. -/
def runOther : (fuel : Nat) → (called : String) → (failure : String → String) →
    (name : String) → List String → Action Unit
  | 0, _, _, _, _ => unfinished
  | fuel + 1, called, failure, name, args => do
    let s ← get
    let searched := if s.value "PATH" = "" then standardPath else s.value "PATH"
    let refused (e : IoError) : Action Unit := do
      write 2 (called ++ ": " ++ failure name ++ ": " ++ reason e ++ "\n")
      finish (if e = .notFound then 127 else 126)
    match locate s.disk searched name with
    | .error e => refused e
    | .ok path =>
      match follow s.disk (interpreterLimit + 1) path args with
      | .error e => refused e
      | .ok (.program program, via, args) =>
        runProgram fuel program (if via = path then name else via) args
      | .ok (.file content _, path, args) =>
        modify fun s => { s.fresh path with args }
        endShell fuel (evalText fuel {} (ofBytes content))
      | .ok _ => refused .permissionDenied

def runShell : (fuel : Nat) → (called : String) → List String → Action Unit
  | 0, _, _ => unfinished
  | fuel + 1, called, args => do
    modify fun s => { s.fresh called with line := 0 }
    match ← attempt (readInvocation (args.length + 1) {} args) with
    | .error _ => return
    | .ok i =>
      let script (name : String) (args : List String) (text : String) (final : Bool) :
          Action Unit := do
        modify fun s => { s with name, args, line := 1 }
        endShell fuel (evalText fuel { final } text)
      match i.command, i.operands with
      | true, [] => complain 2 "-c requires an argument"
      | true, [text] => script called [] text true
      | true, text :: name :: args => script name args text true
      | false, operands =>
        match i.onInput, operands with
        | false, file :: args =>
          match ← readScript file with
          | .ok content => script file args (ofBytes content) false
          | .error .isDirectory => return
          | .error e => complain 2 ("cannot open " ++ file ++ ": " ++ openReason "No such file" e)
        | _, args =>
          let text := ofBytes (← get).input
          modify fun s => s.leaveInput []
          script called args text false

def runEnv : (fuel : Nat) → (called : String) → List String → Action Unit
  | 0, _, _ => unfinished
  | fuel + 1, called, args => do
    let own : List (String × Variable) := []
    match args with
    | "-i" :: rest | "-" :: rest =>
      modify fun s => { s with parameters := own }
      runEnv fuel called rest
    | "--" :: rest => runEnv fuel called rest
    | "-u" :: name :: rest =>
      modify fun s => s.dropVariable name
      runEnv fuel called rest
    | ["-u"] =>
      write 2 (called ++ ": option requires an argument -- 'u'\nTry '" ++ called ++
        " --help' for more information.\n")
      finish 125
    | word :: rest =>
      match Builtin.splitAssignment word with
      | (name, some value) =>
        modify fun s => s.setVariable name { value := some value, exported := true }
        runEnv fuel called rest
      | _ =>
        if word.startsWith "-" then
          let letter := String.ofList ((word.toList.drop 1).take 1)
          write 2 (called ++ ": invalid option -- " ++ ticked letter ++ "\nTry '" ++ called ++
            " --help' for more information.\n")
          finish 125
        else runOther fuel called quoted word rest
    | [] =>
      finish 0
      let s ← get
      Builtin.say (s.environment.map fun (name, value) => name ++ "=" ++ value)

def runFind : (fuel : Nat) → (called : String) → List String → Action Unit
  | 0, _, _ => unfinished
  | fuel + 1, called, args => do
    match Find.read (← get).disk args with
    | .error fault =>
      for text in fault.messages do write 2 (called ++ ": " ++ text ++ "\n")
      finish 1
    | .ok (paths, course, quest) =>
      for note in quest.notes do write 2 (called ++ ": " ++ note.message ++ "\n")
      if quest.notes.contains .barePercent then
        finish 1
        return
      let runWords (dir : Option String) (words : List String) : Action Bool := do
        match words with
        | [] => return false
        | name :: args =>
          let inside : Action Unit := do
            match dir with
            | some dir =>
              modify fun s =>
                { s with disk := ((s.disk.enter (pathOf dir)).toOption).getD s.disk }
            | none => pure ()
            runOther fuel called quoted name args
          match ← inFork inside with
          | .error (.killed _) => return false
          | _ => return (← get).status = 0
      let actions : Find.Actions Action :=
        { disk := return (← get).disk
          write := fun bytes => modify fun s => s.emit 1 bytes
          save := fun file bytes => modify fun s =>
            let old := (s.disk.read (pathOf file)).toOption.getD []
            { s with disk := (s.disk.write (pathOf file) (old ++ bytes)).toOption.getD s.disk }
          delete := fun path => do
            let s ← get
            match Program.placeOf s.disk path false with
            | .ok (_, .dir (_ :: _) _) =>
              write 2 (called ++ ": cannot delete " ++ quoted path ++ ": " ++ Program.notEmpty ++
                "\n")
              return false
            | .ok (location, _) =>
              set { s with disk := s.disk.remove location }
              return true
            | .error _ => return false
          run := runWords
          ask := fun question => do
            write 2 question
            let s ← get
            let line := s.input.takeWhile (· ≠ lineFeed)
            set (s.leaveInput (s.input.drop (line.length + 1)))
            return line.head? = some 0x79 || line.head? = some 0x59 }
      for file in quest.savedTo do
        modify fun s => { s with disk := (s.disk.write (pathOf file) []).toOption.getD s.disk }
      let mut failed := false
      let mut waiting : List String := []
      for path in paths do
        match Program.placeOf (← get).disk path course.followsFirst with
        | .error e =>
          write 2 (called ++ ": " ++ quoted path ++ ": " ++ reason e ++ "\n")
          failed := true
        | .ok (_, tree) =>
          let (_, found) ← (course.visit actions quest 1000 ⟨path, 0, tree, path⟩).run { waiting }
          waiting := found.waiting
      for words in quest.collections do
        if !waiting.isEmpty then
          if !(← runWords none ((words.filter (· ≠ "\x7b\x7d")) ++ waiting)) then failed := true
      finish (if failed then 1 else 0)

def runRecords : (fuel : Nat) → (called : String) → List String → Action Unit
  | 0, _, _ => unfinished
  | fuel + 1, called, args => do
    let name := Program.lastName called
    let label := name ++ ": "
    let runText (text : String) (ready : State → State) : Action Nat := do
      let outcome ← inFork do
        modify ready
        runShell fuel "sh" ["-c", text]
      match outcome with
      | .error (.killed n) => return 256 + n
      | _ => return (← get).status
    let surroundings : Records.Surroundings Action :=
      { input := do
          let bytes := (← get).input
          modify fun s => s.leaveInput []
          return bytes
        read := fun file => return (← get).disk.read (pathOf file)
        write := fun append file bytes => do
          let s ← get
          let before := if append then (s.disk.read (pathOf file)).toOption.getD [] else []
          match s.disk.write (pathOf file) (before ++ bytes) with
          | .ok disk =>
            set { s with disk }
            return .ok ()
          | .error e => return .error e
        emit := fun stream bytes => modify fun s => s.emit stream bytes
        run := fun text input => runText text fun s =>
          match input with
          | some bytes =>
            let (file, s) := s.addFile (.queue bytes [] false)
            s.setStream 0 file
          | none => s
        capture := fun text => do
          let file := (← get).files.size
          modify fun s => (s.addFile (.queue [] [] false)).2
          let status ← runText text fun s => s.setStream 1 file
          return ((← get).contentOf file, status) }
    match Records.request ((← get).call name label args) with
    | .usage stream =>
      finish 0
      write stream Records.usageText
    | .complaints texts =>
      write 2 (String.join (texts.map fun t => label ++ t ++ "\n"))
      finish 2
    | .run start =>
      match ← start.run surroundings label fuel with
      | some status => finish status
      | none => unfinished

def runTimeout : (fuel : Nat) → (called : String) → List String → Action Unit
  | 0, _, _ => unfinished
  | fuel + 1, called, args => do
    let known : OptionSet :=
      { flags := "fv".toList ++ ['\x01'], valued := "sk".toList, ordered := true
        long := [("signal", 's'), ("kill-after", 'k'), ("preserve-status", '\x01'),
          ("foreground", 'f'), ("verbose", 'v')] }
    let refused (text : String) : Action Unit := do
      write 2 (text ++ "Try '" ++ called ++ " --help' for more information.\n")
      finish 125
    match known.read args with
    | .error e => refused (called ++ ": " ++ e.message ++ "\n")
    | .ok o =>
      match (o.value? 's').map Signal.ofName?, o.operands with
      | some none, _ =>
        refused (called ++ ": " ++ quoted ((o.value? 's').getD "") ++ ": invalid signal\n")
      | signal, time :: name :: rest =>
        match Program.readTime? time with
        | none => refused (called ++ ": invalid time interval " ++ quoted time ++ "\n")
        | some limit =>
          let s ← get
          let deadline := s.clock + 1000 * limit
          let family := s.nextPid
          let outcome ← inFork do
            modify fun s => { s with family }
            runOther fuel called (fun name => "failed to run command " ++ quoted name) name rest
          if (← get).clock > deadline && limit > 0 then
            let signal := (signal.bind id).getD 15
            modify fun s => { s.withdraw family deadline with clock := deadline }
            if signal = 9 then throw (.killed 9)
            finish (if o.has '\x01' then 128 + signal else 124)
          else
            match outcome with
            | .error (.killed n) => throw (.killed n)
            | _ => return
      | _, _ => refused ""

def evalText : (fuel : Nat) → Mode → String → Action Unit
  | 0, _, _ => unfinished
  | fuel + 1, mode, text => do
    let line := (← get).line
    let outcome ← attempt (evalLines fuel mode { rest := text.toList })
    modify fun s => { s with line }
    resume outcome

def evalLines : (fuel : Nat) → Mode → Cursor → Action Unit
  | 0, _, _ => unfinished
  | fuel + 1, mode, cursor => do
    let s ← get
    let cursor := { cursor with
      aliases := s.aliases, nextDocument := s.nextDocument, documents := [] }
    match (readLine (8 * cursor.rest.length + 64)).run cursor with
    | .error f =>
      modify fun s => { s with line := f.line }
      abort f.cause.message
    | .ok (none, _) => return
    | .ok (some node, cursor) =>
      modify fun s =>
        { s with
          documents := cursor.documents ++ s.documents, nextDocument := cursor.nextDocument }
      let ended := match cursor.pushed with | some .done => true | _ => false
      match node with
      | .nothing => evalLines fuel mode cursor
      | node =>
        if !s.has 'n' then
          evalNode fuel { mode with final := mode.final && ended } node
        evalLines fuel mode cursor

end

end PageScript.Shell

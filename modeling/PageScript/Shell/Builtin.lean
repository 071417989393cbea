/-
Commands of the shell's own that need no other commands: those about variables, arguments, options,
directories, signals and names.

Each gets its arguments and leaves its status; it starts out with a status of zero.
-/
import PageScript.Shell.Expand
import PageScript.Shell.Program.Names

namespace PageScript.Shell.Builtin

abbrev Body := List String → Action Unit

def say (lines : List String) : Action Unit :=
  modify fun s => s.emit 1 (asLines lines)

def mutter (text : String) : Action Unit :=
  write 2 (text ++ "\n")

def number (text : String) : Action Nat :=
  match decimal? text with
  | some n => return n
  | none => abort ("Illegal number: " ++ text)

def shellQuoted (s : String) : String :=
  let pieces := (Text.splitOn '\'' s.toList).map fun p => "'" ++ String.ofList p ++ "'"
  let first := pieces.headD "''"
  pieces.drop 1 |>.foldl
    (fun text piece =>
      text ++ "\"'\"" ++ (if piece = "''" then "" else piece)) (if pieces.length > 1 && first = "''"
        then "" else first)

def leadingOptions (known : List Char) : List String → Action (List Char × List String)
  | "--" :: rest => return ([], rest)
  | arg :: rest =>
    match arg.toList with
    | '-' :: c :: more => do
      for letter in c :: more do
        if !known.contains letter then abort ("Illegal option -" ++ letter.toString)
      let (options, operands) ← leadingOptions known rest
      return (c :: more ++ options, operands)
    | _ => return ([], arg :: rest)
  | [] => return ([], [])

-- ======== variables

def splitAssignment (word : String) : String × Option String :=
  match word.toList.span (· ≠ '=') with
  | (name, _ :: value) => (String.ofList name, some (String.ofList value))
  | (name, []) => (String.ofList name, none)

def markAll (letter : String) (mark : Variable → Variable) (marked : Variable → Bool) : Body :=
  fun args => do
    let (options, operands) ← leadingOptions ['p'] args
    if operands.isEmpty || options.contains 'p' then
      let s ← get
      let all := (s.parameters.filter fun e => marked e.2).mergeSort fun a b => decide (a.1 ≤ b.1)
      say (all.map fun (name, v) =>
        letter ++ " " ++ name ++ (match v.value with
          | some value => "=" ++ shellQuoted value
          | none => ""))
    else
      for word in operands do
        let (name, value) := splitAssignment word
        if !isName name then abort (name ++ ": bad variable name")
        match value with
        | some value => assign name value
        | none => pure ()
        modify fun s => s.setVariable name (mark ((s.stored? name).getD {}))

def exportNames : Body :=
  markAll "export" (fun v => { v with exported := true }) (·.exported)

def readonly : Body :=
  markAll "readonly" (fun v => { v with fixed := true }) (·.fixed)

def hide : Body := fun args => do
  if (← get).hidden.isEmpty then abort "not in a function"
  for word in args do
    let (name, value) := splitAssignment word
    if !isName name then abort (name ++ ": bad variable name")
    let s ← get
    match s.hidden with
    | hidden :: outer =>
      if !(hidden.any fun h => h.1 = name) then
        set { s with hidden := ((name, s.stored? name) :: hidden) :: outer }
    | [] => pure ()
    match value with
    | some value => assign name value
    | none => pure ()

def unset : Body := fun args => do
  let (options, operands) ← leadingOptions ['f', 'v'] args
  for name in operands do
    if options.contains 'f' then
      modify fun s => { s with functions := s.functions.filter fun f => f.1 ≠ name }
    else
      if !isName name then abort (name ++ ": bad variable name")
      let s ← get
      match s.stored? name with
      | some { fixed := true, .. } => abort (name ++ ": is read only")
      | _ =>
        if name = "OPTIND" then placeOptions ""
        set (s.dropVariable name)

-- ======== arguments

def optionNames : List (String × Option Char) :=
  [("errexit", 'e'), ("noglob", 'f'), ("ignoreeof", 'I'), ("interactive", 'i'), ("monitor", 'm'),
    ("noexec", 'n'), ("stdin", 's'), ("xtrace", 'x'), ("verbose", 'v'), ("vi", 'V'), ("emacs", 'E'),
    ("noclobber", 'C'), ("allexport", 'a'), ("notify", 'b'), ("nounset", 'u'), ("privileged", 'p'),
    ("nolog", none), ("debug", none)]

def switch (on : Bool) (letter : Char) : Action Unit :=
  modify fun s =>
    let others := s.options.filter (· ≠ letter)
    { s with options := if on then letter :: others else others }

def isOption (letter : Char) : Bool :=
  optionNames.any fun o => o.2 = some letter

def switchNamed (on : Bool) (name : String) : Action Unit :=
  match optionNames.lookup name with
  | some (some letter) => switch on letter
  | some none => return
  | none => abort ("Illegal option -o " ++ name)

/-- Lists all options: as a table, or as commands that set them. -/
def listOptions (on : Bool) : Action Unit := do
  let s ← get
  let isOn (letter : Option Char) : Bool := (letter.map s.has).getD false
  if on then
    say ("Current option settings" :: optionNames.map fun (name, letter) =>
      ({ width := 16, left := true } : Program.Layout).pad name ++
        (if isOn letter then "on" else "off"))
  else
    say (optionNames.map fun (name, letter) =>
      "set " ++ (if isOn letter then "-" else "+") ++ "o " ++ name)

/-- Reads options, and gives back the arguments behind them if there are any or two dashes; each
argument takes one of `fuel`. -/
def readSwitches : (fuel : Nat) → List String → Action (Option (List String))
  | 0, args => return some args
  | _ + 1, [] => return none
  | fuel + 1, arg :: rest =>
    match arg.toList with
    | ['-', '-'] => return some rest
    | ['-'] => do
      switch false 'x'
      switch false 'v'
      if rest.isEmpty then return none else return some rest
    | sign :: letter :: letters =>
      if sign = '-' || sign = '+' then do
        let on := sign = '-'
        let mut rest := rest
        for c in letter :: letters do
          if c = 'o' then
            match rest with
            | [] => listOptions on
            | name :: more =>
              switchNamed on name
              rest := more
          else if isOption c then switch on c
          else abort ("Illegal option " ++ sign.toString ++ c.toString)
        readSwitches fuel rest
      else return some (arg :: rest)
    | _ => return some (arg :: rest)

def setAll : Body := fun args => do
  if args.isEmpty then
    let s ← get
    let all := s.parameters.mergeSort fun a b => decide (a.1 ≤ b.1)
    say (all.filterMap fun (name, v) => v.value.map fun value => name ++ "=" ++ shellQuoted value)
  else
    match ← readSwitches (args.length + 1) args with
    | some operands =>
      modify fun s => { s.rewind 1 with args := operands }
    | none => return

def shift : Body := fun args => do
  let n ← match args with
    | [] => pure 1
    | text :: _ => number text
  let s ← get
  if n > s.args.length then abort "can't shift that many"
  modify fun s => { s.rewind 1 with args := s.args.drop n }

def optionKind? (c : Char) : List Char → Option Bool
  | [] => none
  | d :: ':' :: rest => if c = d then some true else optionKind? c rest
  | d :: rest => if c = d then some false else optionKind? c rest

/-- What `getopts` finds: the value of its variable, the argument of the option, if that is to
change, a complaint, and where it goes on. -/
structure OptionFound where
  value : Char
  argument : Option (Option String) := none
  complaint : Option String := none
  index : Nat
  offset : Nat := 0

/-- The next option in arguments, from an argument and a place inside the one before it on. There is
none if the options have ended, and then only where to go on. -/
def nextOption (known : List Char) (args : List String) (index offset : Nat) :
    Except Nat OptionFound := do
  let quiet := known.head? = some ':'
  let current := if index > 1 then ((args[index - 2]?).getD "").toList.drop offset else []
  let (letters, index, offset) ←
    if offset > 0 && !current.isEmpty then pure (current, index, offset)
    else
      match (args[index - 1]?).map String.toList with
      | some ['-', '-'] => throw (index + 1)
      | some ('-' :: c :: rest) => pure (c :: rest, index + 1, 1)
      | _ => throw index
  let c := letters.headD '?'
  let rest := letters.drop 1
  let refused (value : Char) (text : String) (index offset : Nat) : OptionFound :=
    if quiet then { value, argument := some (some c.toString), index, offset }
    else { value := '?', argument := some none, complaint := some text, index, offset }
  match optionKind? c known with
  | none => return refused '?' ("Illegal option -" ++ c.toString) index (offset + 1)
  | some false => return { value := c, argument := some (some ""), index, offset := offset + 1 }
  | some true =>
    if !rest.isEmpty then
      return { value := c, argument := some (some (String.ofList rest)), index }
    else
      match args[index - 1]? with
      | some text => return { value := c, argument := some (some text), index := index + 1 }
      | none => return refused ':' ("No arg for -" ++ c.toString ++ " option") index 0

def getopts : Body := fun args => do
  match args with
  | known :: name :: own =>
    let s ← get
    let all := if own.isEmpty then s.args else own
    let s := if s.optionIndex > all.length + 1 then s.rewind 1 else s
    let (ended, found) := match nextOption known.toList all s.optionIndex s.optionOffset with
      | .ok found => (false, found)
      | .error index => (true, { value := '?', index })
    match found.complaint with
    | some text => mutter text
    | none => pure ()
    modify fun s =>
      let s := s.store "OPTIND" (Number.natText found.index)
      let s := match found.argument with
        | some (some text) => s.store "OPTARG" text
        | some none => s.dropVariable "OPTARG"
        | none => s
      { s with optionIndex := found.index, optionOffset := found.offset }
    if !isName name then abort (name ++ ": bad variable name")
    assign name found.value.toString
    if ended then finish 1
  | _ => abort "Usage: getopts optstring var [arg...]"

-- ======== reading

/-- A line of the input as far as it belongs together: its characters, those marked that a backslash
stands in front of, whether its end was found, and what follows. Each character takes one of `fuel`.
-/
def readLogicalLine (raw : Bool) : (fuel : Nat) → List Char → List Mark × Bool × List Char
  | 0, cs => ([], false, cs)
  | _, [] => ([], false, [])
  | _ + 1, '\n' :: rest => ([], true, rest)
  | fuel + 1, '\\' :: c :: rest =>
    if raw then
      let (line, ended, left) := readLogicalLine raw fuel (c :: rest)
      (('\\', false) :: line, ended, left)
    else if c = '\n' then readLogicalLine raw fuel rest
    else
      let (line, ended, left) := readLogicalLine raw fuel rest
      ((c, true) :: line, ended, left)
  | fuel + 1, c :: rest =>
    let (line, ended, left) := readLogicalLine raw fuel rest
    if c = '\\' && !raw then (line, ended, left)
    else ((c, false) :: line, ended, left)

/-- Parts a line into as many fields as there are names; the last one takes what is left. -/
def splitLine (dividers : List Char) : (count : Nat) → List Mark → List String
  | 0, _ => []
  | count + 1, line =>
    let divides (m : Mark) : Bool := !m.2 && dividers.contains m.1
    let blank (m : Mark) : Bool := divides m && (m.1 = ' ' || m.1 = '\t' || m.1 = '\n')
    let text (ms : List Mark) : String := String.ofList (ms.map Prod.fst)
    let line := line.dropWhile blank
    let field := line.takeWhile fun m => !divides m
    let after := (line.drop field.length).dropWhile blank
    let after := match after with
      | m :: rest => if divides m && !blank m then rest.dropWhile blank else after
      | [] => []
    if count = 0 then
      if after.isEmpty then [text field]
      else [text ((line.reverse.dropWhile blank).reverse)]
    else text field :: splitLine dividers count after

def readVariables : Body := fun args => do
  let (options, names) ← readFlags args
  if names.isEmpty then abort "arg count"
  for name in names do
    if !isName name then abort (name ++ ": bad variable name")
  let s ← get
  let cs := toChars s.input
  let (line, ended, left) := readLogicalLine (options.contains 'r') (cs.length + 1) cs
  modify fun s => s.leaveInput (ofChars left)
  let fields := splitLine s.dividers names.length line
  for (name, value) in names.zip (fields ++ List.replicate names.length "") do
    assign name value
  if !ended then finish 1
where
  /-- The options, of which one takes a text that is only for people, and the names. -/
  readFlags : List String → Action (List Char × List String)
    | "-p" :: _ :: rest => readFlags rest
    | "-r" :: rest => do
      let (options, names) ← readFlags rest
      return ('r' :: options, names)
    | args => leadingOptions ['r'] args

-- ======== directories

def tidy (segments : List (List Char)) : List (List Char) :=
  (segments.foldl
    (fun (kept : List (List Char)) s =>
      if s = [] ∨ s = ['.'] then kept
      else if s = ['.', '.'] then kept.drop 1
      else s :: kept)
    []).reverse

def entering (current path : String) : String :=
  let names (p : String) : List String := p.splitOn "/"
  let start := if path.startsWith "/" then [] else names current
  "/" ++ "/".intercalate ((start ++ names path).foldl
    (fun (found : List String) name =>
      if name = "" || name = "." then found
      else if name = ".." then found.dropLast
      else found ++ [name]) [])

def cd : Body := fun args => do
  let (options, operands) ← leadingOptions ['L', 'P'] args
  let s ← get
  let (target, shown) ← match operands with
    | [] => pure (s.value "HOME", false)
    | "-" :: _ => pure (s.value "OLDPWD", true)
    | dir :: _ => pure (dir, false)
  if target = "" then return
  let onPath := !(target.startsWith "/" || target.startsWith "./" || target.startsWith "../" ||
    target = "." || target = "..")
  let bases := if onPath then (s.value "CDPATH").splitOn ":" else [""]
  let bases := if bases.contains "" then bases else bases ++ [""]
  let candidates := bases.map fun base =>
    (if base = "" then target else Program.under base target, base ≠ "" && base ≠ ".")
  match candidates.find? fun c => s.disk.isDir (pathOf c.1) with
  | none => abort ("can't cd to " ++ target)
  | some (path, found) =>
    let entered := entering s.directoryPath path
    let whole := options.getLast? ≠ some 'P'
    match s.disk.enter (pathOf (if whole then entered else path)) with
    | .error _ => abort ("can't cd to " ++ target)
    | .ok disk =>
      let old := s.value "PWD"
      let new := if whole then entered else State.location disk
      modify fun s => { s with disk, directory := some new }
      modify fun s => (s.store "OLDPWD" old).store "PWD" new
      if shown || found then say [new]

def pwd : Body := fun args => do
  let (options, _) ← leadingOptions ['L', 'P'] args
  let s ← get
  say [if options.getLast? = some 'P' then State.location s.disk else s.directoryPath]

-- ======== signals

def killUsage : String :=
  "Usage: kill [-s sigspec | -signum | -sigspec] [pid | job]... or\nkill -l [exitstatus]"

def signalText (n : Nat) : String :=
  if n = 16 then "16" else Signal.display n

def signal? (text : String) : Option Nat :=
  if text.map Char.toUpper = "STKFLT" then none else Signal.ofName? text

/-- Sends a signal to a program. Those that were left to themselves ignore interrupts. -/
def sendSignal (signal pid : Nat) : Action Unit := do
  let s ← get
  match s.jobs.find? fun j => j.pid = pid with
  | some job =>
    let ignored := signal = 2 || signal = 3 || (signal ≠ 9 && s.ignores signal)
    if job.ends > s.clock && !Signal.isHarmless signal && !ignored then
      let ended := { job with ends := s.clock, status := 128 + signal, signal := some signal }
      let files := s.files.map fun
        | .queue ready added onDisk =>
          .queue ready (added.filter fun c => c.family ≠ pid || c.time ≤ s.clock) onDisk
        | file => file
      modify fun s =>
        { s with jobs := s.jobs.map fun j => if j.pid = pid then ended else j, files }
  | none =>
    if pid = s.self || pid = s.pid || s.ancestors.contains pid then
      if signal > 0 then modify fun s => { s with signals := s.signals ++ [(pid, signal)] }
    else if pid = 0 then
      modify fun s => { s with signals := s.signals ++ [(s.self, signal), (s.pid, signal)] }
    else
      report "No such process\n"
      finish 1

def kill : Body := fun args => do
  match args with
  | [] => abort killUsage
  | first :: rest =>
    if first = "-l" then
      match rest with
      | [] => say ("0" :: (List.range Signal.greatest).map fun n => signalText (n + 1))
      | text :: _ =>
        let n ← number text
        let n := if n > 128 then n - 128 else n
        if n > Signal.greatest then abort ("invalid signal number or exit status: " ++ text)
        say [signalText n]
    else
      let (signal, targets) ← match first.toList with
        | ['-', 's'] =>
          match rest with
          | [] => abort "No arg for -s option"
          | name :: rest =>
            match signal? name with
            | some n => pure (n, rest)
            | none => abort ("invalid signal number or name: " ++ name)
        | ['-', '-'] => pure (15, rest)
        | '-' :: c :: name =>
          let attached := if c = 's' then signal? (String.ofList name) else none
          match (signal? (String.ofList (c :: name))).or attached with
          | some n =>
            pure (n, match rest with | "--" :: rest => rest | rest => rest)
          | none => abort ("Illegal option -" ++ c.toString)
        | _ => pure (15, args)
      if targets.isEmpty then abort killUsage
      for target in targets do
        if target.startsWith "%" then
          match (← get).jobs.head? with
          | some job => sendSignal signal job.pid
          | none => abort ("No such job: " ++ target)
        else
          let pid ← number (if target.startsWith "-" then String.ofList (target.toList.drop 1)
            else target)
          sendSignal signal pid

/-- The number of a signal for which something is to be done; the end of the shell is number 0. -/
def trapNumber? (name : String) : Option Nat :=
  if name = "EXIT" then some 0
  else match decimal? name with
    | some n => if n ≤ Signal.greatest then some n else none
    | none => signal? name

def trap : Body := fun args => do
  let args := match args with | "--" :: rest => rest | args => args
  match args with
  | [] =>
    let s ← get
    let all := s.traps.mergeSort fun a b => decide (a.1 ≤ b.1)
    say (all.map fun (n, action) =>
      "trap -- " ++ shellQuoted action ++ " " ++ (if n = 0 then "EXIT" else signalText n))
  | first :: rest =>
    let resets := first = "-" || rest.isEmpty || (decimal? first).isSome
    let names := if rest.isEmpty || (decimal? first).isSome then args else rest
    for name in names do
      match trapNumber? name with
      | none =>
        mutter ("trap: " ++ name ++ ": bad trap")
        finish 1
        return
      | some n =>
        modify fun s =>
          let others := s.traps.filter fun t => t.1 ≠ n
          { s with traps := if resets then others else (n, first) :: others }

def wait : Body := fun args => do
  let await (job : Job) : Action Unit := do
    modify fun s => { s with clock := max s.clock job.ends,
                             jobs := s.jobs.filter fun j => j.pid ≠ job.pid }
    match job.signal with
    | some n => if n ≠ 2 && n ≠ 13 then mutter (Signal.description n)
    | none => pure ()
    finish job.status
  if args.isEmpty then
    for job in (← get).jobs.reverse do
      await job
    finish 0
  else
    for text in args do
      let pid ← if text.startsWith "%" then pure (((← get).jobs.head?.map Job.pid).getD 0)
        else number text
      match (← get).jobs.find? fun j => j.pid = pid with
      | some job => await job
      | none => finish 127

-- ======== names

def aliasPlace (name : String) : Nat :=
  let cs := name.toList.map Char.toNat
  (16 * cs.headD 0 + cs.sum) % 39

def aliasText (name value : String) : String :=
  name ++ "=" ++ shellQuoted value

def nameCommands : Body := fun args => do
  let s ← get
  if args.isEmpty then
    let all := s.aliases.mergeSort fun a b => decide (aliasPlace a.1 ≤ aliasPlace b.1)
    say (all.map fun (name, value) => aliasText name value)
  for word in args do
    match splitAssignment word with
    | (name, some value) =>
      modify fun s =>
        { s with aliases := s.aliases.filter (fun a => a.1 ≠ name) ++ [(name, value)] }
    | (name, none) =>
      match (← get).aliases.lookup name with
      | some value => say [aliasText name value]
      | none =>
        mutter ("alias: " ++ name ++ " not found")
        finish 1

def unalias : Body := fun args => do
  let (options, names) ← leadingOptions ['a'] args
  if options.contains 'a' then modify fun s => { s with aliases := [] }
  for name in names do
    let s ← get
    if s.aliases.any fun a => a.1 = name then
      modify fun s => { s with aliases := s.aliases.filter fun a => a.1 ≠ name }
    else
      mutter ("unalias: " ++ name ++ " not found")
      finish 1

-- ======== rest

def leaveLoops (stop : Nat → Stop) : Body := fun args => do
  let n ← match args with
    | [] => pure 1
    | text :: _ => do
      let n ← number text
      if n = 0 then abort ("Illegal number: " ++ text)
      pure n
  let loops := (← get).loops
  if loops > 0 then throw (stop (min n loops))

def exit : Body := fun args => do
  match args with
  | text :: _ => finish ((← number text) % 256)
  | [] => pure ()
  throw .exit

def comeBack : Body := fun args => do
  match args with
  | text :: _ => finish (← number text)
  | [] => pure ()
  throw .back

def umask : Body := fun args => do
  let s ← get
  let mask := s.disk.mask
  let digits (n : Nat) : String :=
    let ds := Nat.toDigits 8 n
    String.ofList (List.replicate (4 - ds.length) '0' ++ ds)
  let letters (shift : Nat) : String :=
    let allowed := 7 - mask / shift % 8
    (if allowed / 4 % 2 = 1 then "r" else "") ++ (if allowed / 2 % 2 = 1 then "w" else "") ++
      (if allowed % 2 = 1 then "x" else "")
  match args with
  | [] => say [digits mask]
  | "-S" :: _ => say ["u=" ++ letters 64 ++ ",g=" ++ letters 8 ++ ",o=" ++ letters 1]
  | text :: _ =>
    let digit := text.toList.head?.any Char.isDigit
    match Program.ModeChange.parse? text with
    | some (.absolute n _) => modify fun s => { s with disk := { s.disk with mask := n % 512 } }
    | some change =>
      let allowed := change.apply 0 false (0o777 - mask)
      modify fun s => { s with disk := { s.disk with mask := 0o777 - allowed % 512 } }
    | none =>
      if digit then abort ("Illegal number: " ++ text) else abort ("Illegal mode: " ++ text)

def ulimit : Body := fun args =>
  match args with
  | [] | ["-f"] => say ["unlimited"]
  | ["-c"] => say ["0"]
  | ["-n"] => say ["1024"]
  | _ => return

def times : Body := fun _ =>
  say ["0m0.000000s 0m0.000000s", "0m0.000000s 0m0.000000s"]

def table : List (String × Body) :=
  [(":", fun _ => return), ("true", fun _ => return), ("false", fun _ => finish 1),
    ("alias", nameCommands), ("break", leaveLoops .leave), ("cd", cd), ("chdir", cd),
    ("continue", leaveLoops .again), ("exit", exit), ("export", exportNames), ("getopts", getopts),
    ("jobs", fun _ => return), ("kill", kill), ("local", hide), ("pwd", pwd),
    ("read", readVariables), ("readonly", readonly), ("return", comeBack), ("set", setAll),
    ("shift", shift), ("times", times), ("trap", trap), ("ulimit", ulimit), ("umask", umask),
    ("unalias", unalias), ("unset", unset),
    ("wait", wait)]

end PageScript.Shell.Builtin

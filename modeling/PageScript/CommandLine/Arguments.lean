/-
What a command line says.

Arguments are read from left to right. Behind two dashes alone everything is a script; before, what
starts with a dash is a flag, unless it is a dash alone. A flag that takes a value finds it behind
an equals sign, behind its letter, or in the next argument, which must not look like a flag itself.
Settings that the command line leaves open may come from the environment.
-/
import PageScript.Disk.Path
import PageScript.Number.Decimal
import PageScript.Text.Split

namespace PageScript.CommandLine

-- ======== flags

/-- How results are shown. -/
inductive Format where
  | table
  | json
  | plain
  deriving Repr, DecidableEq, Inhabited

def Format.ofName? : String → Option Format
  | "table" => some .table
  | "json" => some .json
  | "plain" => some .plain
  | _ => none

/-- A flag without a value. -/
inductive Switch where
  | headless
  | verbose
  | help (brief : Bool)
  | version
  deriving Repr, DecidableEq, Inhabited

/-- A flag with a value. -/
inductive Setting where
  | config
  | webdriverUrl
  | driverBinary
  | waitScale
  | retryInterval
  | screenshotDir
  | output
  | format
  deriving Repr, DecidableEq, Inhabited

/-- A flag. -/
inductive Flag where
  | switch (s : Switch)
  | setting (s : Setting)
  deriving Repr, DecidableEq, Inhabited

def Flag.ofName? : String → Option Flag
  | "config" => some (.setting .config)
  | "webdriver-url" => some (.setting .webdriverUrl)
  | "driver-binary" => some (.setting .driverBinary)
  | "headless" => some (.switch .headless)
  | "wait-scale" => some (.setting .waitScale)
  | "retry-interval-ms" => some (.setting .retryInterval)
  | "screenshot-dir" => some (.setting .screenshotDir)
  | "output" => some (.setting .output)
  | "format" => some (.setting .format)
  | "verbose" => some (.switch .verbose)
  | "help" => some (.switch (.help false))
  | "version" => some (.switch .version)
  | _ => none

def Flag.ofLetter? : Char → Option Flag
  | 'o' => some (.setting .output)
  | 'v' => some (.switch .verbose)
  | 'h' => some (.switch (.help true))
  | 'V' => some (.switch .version)
  | _ => none

def Setting.environmentName? : Setting → Option String
  | .config => some "UISCRIPT_CONFIG"
  | .webdriverUrl => some "UISCRIPT_WEBDRIVER_URL"
  | .driverBinary => some "UISCRIPT_DRIVER_BINARY"
  | _ => none

-- ======== options

/-- What the flags and the scripts of a command line amount to. -/
structure Options where
  scripts : List Path := []
  config : Path := ⟨"uiscript.toml"⟩
  webdriverUrl : Option String := none
  driverBinary : Option Path := none
  headless : Bool := false
  waitScale : Option Float := none
  retryIntervalMs : Option Nat := none
  screenshotDir : Option Path := none
  output : Option Path := none
  format : Format := .table
  verbose : Bool := false
  deriving Inhabited

/-- Why a command line cannot be read. -/
inductive UsageError where
  | unknown (flag : String)
  | repeated (flag : Flag)
  | noValue (setting : Setting)
  | unwantedValue (switch : Switch)
  | badValue (setting : Setting) (value : String)
  | emptyScript
  | noScripts
  deriving Repr, DecidableEq, Inhabited

/-- What a command line asks for. -/
inductive Request where
  | run (options : Options)
  | help (brief : Bool)
  | version
  deriving Inhabited

def path? (value : String) : Option Path :=
  if value.isEmpty then none else some ⟨value⟩

def nat64? (value : String) : Option Nat :=
  let ds :=
    match value.toList with
    | '+' :: rest => rest
    | cs => cs
  let n := Number.digitsValue ds
  if ds ≠ [] ∧ ds.all Char.isDigit ∧ n < 2 ^ 64 then some n else none

def Options.set? (o : Options) (value : String) : Setting → Option Options
  | .config => (path? value).map fun p => { o with config := p }
  | .webdriverUrl => some { o with webdriverUrl := some value }
  | .driverBinary => (path? value).map fun p => { o with driverBinary := some p }
  | .waitScale => (Number.parse? value).map fun x => { o with waitScale := some x }
  | .retryInterval => (nat64? value).map fun n => { o with retryIntervalMs := some n }
  | .screenshotDir => (path? value).map fun p => { o with screenshotDir := some p }
  | .output => (path? value).map fun p => { o with output := some p }
  | .format => (Format.ofName? value).map fun f => { o with format := f }

-- ======== reading

/-- What has been read of a command line. -/
structure Draft where
  options : Options := {}
  /-- The flags there were. -/
  given : List Flag := []
  deriving Inhabited

/-- How far the reading of a command line has come. -/
inductive Progress where
  /-- Flags and scripts may follow. -/
  | ready (draft : Draft)
  /-- The value of a setting must follow. -/
  | awaiting (setting : Setting) (draft : Draft)
  /-- Only scripts may follow. -/
  | closed (draft : Draft)
  /-- What follows does not matter. -/
  | done (request : Request)
  deriving Inhabited

namespace Draft

def note (d : Draft) (flag : Flag) : Except UsageError Draft :=
  if flag ∈ d.given then .error (.repeated flag) else .ok { d with given := flag :: d.given }

def assign (d : Draft) (setting : Setting) (value : String) : Except UsageError Draft := do
  let d ← d.note (.setting setting)
  match d.options.set? value setting with
  | some options => return { d with options }
  | none => throw (.badValue setting value)

def turn (d : Draft) : Switch → Except UsageError Progress
  | .help brief => return .done (.help brief)
  | .version => return .done .version
  | .headless => do
    let d ← d.note (.switch .headless)
    return .ready { d with options.headless := true }
  | .verbose => do
    let d ← d.note (.switch .verbose)
    return .ready { d with options.verbose := true }

def addScript (d : Draft) (script : String) : Except UsageError Draft :=
  match path? script with
  | some p => .ok { d with options.scripts := d.options.scripts ++ [p] }
  | none => .error .emptyScript

/-- Reads a flag by its long name, with the value behind its equals sign if there is one. -/
def long (d : Draft) (cs : List Char) : Except UsageError Progress :=
  let (name, value) :=
    match Text.splitAtFirst? '=' cs with
    | some (name, value) => (name, some (String.ofList value))
    | none => (cs, none)
  match Flag.ofName? (String.ofList name), value with
  | none, _ => throw (.unknown (String.ofList cs))
  | some (.switch s), none => d.turn s
  | some (.switch s), some _ => throw (.unwantedValue s)
  | some (.setting s), some value => return .ready (← d.assign s value)
  | some (.setting s), none => return .awaiting s d

/-- Reads flags by their letters, of which the last may have its value behind it. -/
def letters (d : Draft) : List Char → Except UsageError Progress
  | [] => return .ready d
  | c :: rest =>
    match Flag.ofLetter? c with
    | none => throw (.unknown (String.ofList [c]))
    | some (.switch s) => do
      match ← d.turn s with
      | .ready d => d.letters rest
      | progress => return progress
    | some (.setting s) =>
      match rest with
      | [] => return .awaiting s d
      | '=' :: value => return .ready (← d.assign s (String.ofList value))
      | value => return .ready (← d.assign s (String.ofList value))

end Draft

def Progress.read (p : Progress) (argument : String) : Except UsageError Progress :=
  match p, argument.toList with
  | .done request, _ => return .done request
  | .closed d, _ => return .closed (← d.addScript argument)
  | .ready d, ['-', '-'] => return .closed d
  | .ready d, '-' :: '-' :: name => d.long name
  | .ready d, '-' :: c :: rest => d.letters (c :: rest)
  | .ready d, _ => return .ready (← d.addScript argument)
  | .awaiting s _, '-' :: _ :: _ => throw (.noValue s)
  | .awaiting s d, _ => return .ready (← d.assign s argument)

def Draft.fill (d : Draft) (environment : String → Option String) : Except UsageError Draft :=
  [Setting.config, .webdriverUrl, .driverBinary].foldlM
    (fun d s =>
      if .setting s ∈ d.given then return d
      else
        match s.environmentName?.bind environment with
        | some value => d.assign s value
        | none => return d)
    d

def Request.ofArguments (environment : String → Option String) (arguments : List String) :
    Except UsageError Request := do
  let finish (d : Draft) : Except UsageError Request := do
    let d ← d.fill environment
    if d.options.scripts.isEmpty then throw .noScripts else return .run d.options
  match ← arguments.foldlM Progress.read (.ready {}) with
  | .done request => return request
  | .ready d => finish d
  | .closed d => finish d
  | .awaiting s _ => throw (.noValue s)

end PageScript.CommandLine

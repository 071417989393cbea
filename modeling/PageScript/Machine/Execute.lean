/-
Running statements.

A source is run statement by statement. In a skipped branch only the words of conditionals count; as
predicates of an `if`, statements that fail in the ordinary way make its outcome false. A piece of
script that is run inside another one gets a frame, and the conditionals opened in it have to be
closed in it.
-/
import PageScript.Command
import PageScript.Json.Writer
import PageScript.Machine.Control
import PageScript.Machine.Verify
import PageScript.Statement.Parser

namespace PageScript.Machine

variable {σ : Type}

-- ======== programs

/-- Runs another program to its end, logs what it writes, and gives its standard output. -/
def runProgram [Programs σ] (command : String) (args : List String) (dir : Path) : Run σ String := do
  let m ← get
  match Programs.start m.browser m.disk (Command.resolve m.disk command dir) args dir with
  | .error e => Run.fail (.io none e)
  | .ok none => throw .unfinished
  | .ok (some (finished, disk)) =>
    set { m with disk }
    let lines := Command.lines finished.stdout
    lines.forM fun line => Run.log .info .exec ("stdout: " ++ line)
    (Command.lines finished.stderr).forM fun line => Run.log .info .exec ("stderr: " ++ line)
    if finished.status.isSuccess then return Command.captured lines
    else Run.fail (.subprocess command finished.status.number)

-- ======== frames

/-- Runs a source in which conditionals have to be closed as they were opened. -/
def block (statements : Source → Run σ Unit) (source : Source) : Run σ Unit := do
  let depth := (← get).conditions.depth
  let result ← (statements source).outcome
  let opened ← modifyGet fun m =>
    (m.conditions.depth, { m with conditions := m.conditions.truncate depth })
  Run.ofOutcome result
  if depth < opened then Run.fail (.syntaxFault .ifOpen)

/-- Runs a source in a frame of its own. A failure from inside takes the open frames along. -/
def inFrame (statements : Source → Run σ Unit) (name : String) (dir : Path) (source : Source) :
    Run σ Unit := do
  modify fun m => { m with frames := m.frames.push name dir }
  let result ← (block statements source).outcome
  let trace ← modifyGet fun m => (m.frames.trace, { m with frames := m.frames.pop })
  Run.ofOutcome (result.mapError (·.withTrace trace))

/-- Runs a file, whose path starts from the current frame's directory. -/
def file (statements : Source → Run σ Unit) (file : Path) : Run σ Unit := do
  let m ← get
  let path := m.frames.workingDir.join file
  match m.disk.readText path with
  | .error e => Run.fail (.io (some path) e)
  | .ok text =>
    Run.info ("Running " ++ path.text)
    inFrame statements path.text (path.parent?.getD ⟨"."⟩) (.ofText m.settings.lexicon text)

/-- Runs the body of an alias with the given arguments. -/
def invoke (statements : Source → Run σ Unit) (name : String) (bindings : Bindings) :
    Run σ Unit := do
  let m ← get
  match m.aliases.get? name with
  | none => Run.fail (.syntaxFault (.unknownAlias name))
  | some found =>
    inFrame statements ("alias " ++ name) m.frames.workingDir (.ofBlock ⟨found.body, bindings⟩)

/-- Runs a block again and again, up to `fuel` times, until something in it fails. -/
def loop (statements : Source → Run σ Unit) (body : Block) : (fuel : Nat) → Run σ Unit
  | 0 => throw .unfinished
  | fuel + 1 => do
    match ← (block statements (.ofBlock body)).outcome with
    | .ok () => loop statements body fuel
    | .error f =>
      if f.endsLoop then modify fun m => { m with negateNext := false }
      else throw (.failed f)

-- ======== statements

/-- Carries out one word of a conditional. -/
def conditional : Control → Run σ Unit
  | .ifBegin => modify fun m => { m with conditions := m.conditions.begin }
  | .thenEnter => do
    let (_, conditions) ← Run.ofExcept .syntaxFault (← get).conditions.enter
    modify fun m => { m with conditions }
  | .endIf => do
    let conditions ← Run.ofExcept .syntaxFault (← get).conditions.close
    modify fun m => { m with conditions }

/-- Carries out a statement. `statements` runs the pieces of script in it, and `limit` bounds how
often a loop is run or a check is tried. -/
def execute [World σ] (statements : Source → Run σ Unit) (limit : Nat) :
    Statement → Run σ Unit
  | .version => Run.info "uiscript engine 0.1.0"
  | .defaultWait seconds =>
    modify fun m =>
      let settings := { m.settings with defaultWaitSecs := seconds }
      { m with settings, budget := m.budget.arm m.clock (settings.scaledWait seconds) }
  | .defaultScreenshot directory =>
    modify fun m => { m with screenshotDir := some (m.frames.workingDir.join ⟨directory⟩) }
  | .browser command => control command
  | .includeFile path => file statements ⟨path⟩
  | .call hook args => do
    let result ← Run.call (.invoke hook args)
    Run.info ("call " ++ hook ++ " returned " ++ Json.compact result)
  | .defineAlias definition => modify fun m => { m with aliases := m.aliases.define definition }
  | .invoke name bindings => invoke statements name bindings
  | .locate locator => do
    let negated ← modifyGet fun m => (m.negateNext, { m with current := some locator })
    verify limit (.locate locator)
    if negated then
      let _ ← Run.ask .clearCurrent
  | .verify probe => verify limit probe
  | .not => modify fun m => { m with negateNext := true }
  | .logAuto on => modify fun m => { m with autoLog := on }
  | .logDump => drainConsole
  | .dump => do Run.info (← Run.call .pageSource)
  | .info => describe
  | .clickNow => Run.call .click
  | .screenshot path => screenshot ⟨path⟩
  | .sleep seconds => Run.sleep (Duration.ofSeconds seconds)
  | .wait seconds =>
    modify fun m => { m with budget := m.budget.arm m.clock (m.settings.scaledWait seconds) }
  | .pushWait => modify fun m => { m with budget := m.budget.push }
  | .popWait => do
    match (← get).budget.pop? with
    | some budget => modify fun m => { m with budget }
    | none => Run.fail (.syntaxFault .popWithoutPush)
  | .echo text => do
    Run.info text
    modify fun m => { m with transcript := text :: m.transcript }
  | .set text => do
    Run.call .clear
    Run.call (.send text)
  | .send text => Run.call (.send text)
  | .clear => Run.call .clear
  | .press key => Run.call (.press key)
  | .exec command args run => do
    let m ← get
    let dir := m.frames.workingDir
    let output ← runProgram command args dir
    if run then
      inFrame statements ("exec-include " ++ command) dir (.ofText m.settings.lexicon output)
  | .control word => conditional word
  | .fail message => Run.fail (.explicit message)
  | .mouse steps => Run.call (.mouse steps)
  | .while body => if body.span.isEmpty then pure () else loop statements body limit
  | .scrollIntoView => Run.call .scrollIntoView

/-- Notes how a predicate came out, or stops at a failure that is no outcome of one. -/
def settle (first : Token) (capturing : Bool) : Except Failure Unit → Run σ Unit
  | .ok () =>
    if capturing then modify fun m => { m with conditions := m.conditions.record true } else pure ()
  | .error f =>
    if capturing && f.isPredicate then
      modify fun m => { m with conditions := m.conditions.record false }
    else throw (.failed (f.withToken first))

/-- Carries out a statement that has been read, unless it is skipped. -/
def step [World σ] (statements : Source → Run σ Unit) (limit : Nat) (first : Token)
    (statement : Statement) : Run σ Unit := do
  let conditions := (← get).conditions
  if conditions.skipping && !statement.isControl then return
  let result ← (execute statements limit statement).outcome
  settle first (conditions.capturing && !statement.isControl) result
  if (← get).autoLog then drainConsole

/-- What is found at a place: the first token of a statement, the statement or what is wrong with
it, and the place behind it. -/
structure Reading where
  first : Token
  parsed : Except Failure Statement
  after : Cursor

/-- What a machine reads at a place. -/
def read (m : Machine σ) (source : Source) : Reading :=
  let (first, rest) := source.next m.arena
  let (parsed, after) := Cursor.statement ⟨rest, m.arena⟩ m.aliases first
  { first, parsed, after }

/-- The machine that has read: it keeps the tokens captured on the way, and knows the line. -/
def noting (m : Machine σ) (r : Reading) : Machine σ :=
  { m with arena := r.after.arena, frames := m.frames.setLine r.first.line }

/-- One turn of a run: reads a statement and carries it out. Gives the statement and the place
behind it, or nothing at the end of the source. -/
def turn [World σ] (statements : Source → Run σ Unit) (limit : Nat) (source : Source) :
    Run σ (Option (Statement × Source)) := do
  let m ← get
  let r := m.read source
  if r.first.isFinish then return none
  set (m.noting r)
  let statement ← Run.ofOutcome r.parsed
  step statements limit r.first statement
  return some (statement, r.after.source)

/-- Runs the statements of a source to its end. Each statement takes one of `fuel`, and so does each
level of scripts in scripts. -/
def statements [World σ] : (fuel : Nat) → Source → Run σ Unit
  | 0, _ => throw .unfinished
  | fuel + 1, source => do
    match ← turn (statements fuel) fuel source with
    | none => pure ()
    | some (_, behind) => statements fuel behind

end PageScript.Machine

/-
The command line: runs scripts as tests against a WebDriver server, and shows what became of them.

It ends with 0 if all tests passed, with 1 if one failed, and with 2 if they could not be run.
-/
import PageScript.CommandLine.Help
import PageScript.Settings.Load
import PageScript.Suite.Run
import PageScript.World

namespace PageScript.CommandLine

-- ======== settings

/-- Settings as far as the command line changes them. -/
def Options.override (o : Options) (s : Settings) : Settings :=
  { s with
    waitScale := o.waitScale.getD s.waitScale
    retryIntervalMs := o.retryIntervalMs.getD s.retryIntervalMs
    screenshotDir := o.screenshotDir <|> s.screenshotDir
    browser := { s.browser with
      webdriverUrl := o.webdriverUrl <|> s.browser.webdriverUrl
      driverBinary := o.driverBinary.getD s.browser.driverBinary
      headless := o.headless || s.browser.headless } }

-- ======== errors

/-- Why tests could not be run. -/
inductive SetupError where
  | settings (file : Path) (error : SettingsError)
  | discovery (path : Path) (error : Suite.SuiteError)
  | noScripts
  | results (error : Suite.SuiteError)
  deriving Repr, DecidableEq, Inhabited

/-- The wording of an error in settings, with its cause. -/
def settingsErrorWithCause : SettingsError → String
  | .unreadable file cause => (SettingsError.unreadable file cause).message ++ ": " ++ cause.message
  | e => e.message

/-- The wording of an error around tests, with its cause. -/
def suiteErrorWithCause : Suite.SuiteError → String
  | .io cause => (Suite.SuiteError.io cause).message ++ ": " ++ cause.message
  | .walk path below cause =>
    (Suite.SuiteError.walk path below cause).message ++ ": " ++ Suite.walkMessage below cause ++
      ": " ++ cause.message
  | e => e.message

/-- The wording of why tests could not be run. -/
def SetupError.message : SetupError → String
  | .settings file e => "loading " ++ file.text ++ ": " ++ settingsErrorWithCause e
  | .discovery path e => "discovering scripts in " ++ path.text ++ ": " ++ suiteErrorWithCause e
  | .noScripts => "no *.ui scripts found"
  | .results e => suiteErrorWithCause e

-- ======== showing

/-- The lines that a report is shown in: those for standard output and those for standard error. -/
def display (format : Format) (r : Suite.Report) : List String × List String :=
  let (good, bad) :=
    if r.success then (["✅ " ++ r.summary], []) else ([], ["❌ " ++ r.summary])
  match format with
  | .json => ([r.toJson.pretty], [])
  | .table => (Text.Table.lines Suite.heads (r.results.map Suite.Result.cells) ++ good, bad)
  | .plain => (r.results.map (fun x => String.intercalate "\t" x.cells) ++ good, bad)

-- ======== running

/-- What a command works with. -/
structure World where
  /-- The environment variables. -/
  environment : String → Option String
  disk : Disk
  server : WebDriver.Server
  /-- The time, in nanoseconds from the start of 1970. -/
  now : Nat := 0

/-- What a command leaves behind. -/
structure Outcome where
  exit : Nat
  stdout : List String := []
  stderr : List String := []
  disk : Disk
  server : WebDriver.Server
  /-- What the machines have done, the latest first. -/
  journal : List Event := []

/-- All tests at some paths. -/
def discoverAll (disk : Disk) (paths : List Path) : Except SetupError (List Suite.Case) := do
  let tests ← paths.foldlM (fun tests p =>
    match Suite.discover disk p tests with
    | (.ok _, tests) => Except.ok tests
    | (.error e, _) => .error (.discovery p e)) []
  if tests.isEmpty then throw .noScripts else return tests

/-- The settings and the tests of a run. -/
def prepare (o : Options) (disk : Disk) : Except SetupError (Settings × List Suite.Case) := do
  let settings ←
    match Settings.load disk o.config with
    | .ok s => pure (o.override s)
    | .error e => throw (.settings o.config e)
  return (settings, ← discoverAll disk o.scripts)

/-- A client that has no session yet. -/
def freshClient (settings : Settings) (last : WebDriver.Client) : WebDriver.Client :=
  { settings := settings.browser, server := last.server, host := last.host }

/-- Runs the tests that the options ask for. Nothing comes back if the fuel is used up. -/
def runTests (fuel : Nat) (w : World) (o : Options) : Option Outcome :=
  let failed (disk : Disk) (server : WebDriver.Server) (journal : List Event) (e : SetupError) :
      Outcome :=
    { exit := 2, stderr := ["❌ " ++ e.message], disk, server, journal }
  match prepare o w.disk with
  | .error e => some (failed w.disk w.server [] e)
  | .ok (settings, cases) => do
    let setup : Suite.Setup WebDriver.Client :=
      { settings, fresh := fun last => .ok (freshClient settings last), start := w.now }
    let (report, after) ←
      Suite.run setup fuel cases { browser := { server := w.server, host := .ofDisk }, disk := w.disk }
    let (written, disk) : Except Suite.SuiteError Unit × Disk :=
      match o.output.map (report.write after.disk) with
      | some (written, disk) => (written.map fun _ => (), disk)
      | none => (.ok (), after.disk)
    match written with
    | .error e => return failed disk after.browser.server after.journal (.results e)
    | .ok () =>
      let (stdout, stderr) := display o.format report
      return {
        exit := if report.success then 0 else 1
        stdout, stderr, disk
        server := after.browser.server
        journal := after.journal }

/-- The line that names the program and its version. -/
def versionLine : String := "uiscript 0.1.0"

/-- Does what a command line asks for. Nothing comes back if the fuel is used up. -/
def run (fuel : Nat) (w : World) (arguments : List String) : Option Outcome :=
  let ended : Outcome := { exit := 0, disk := w.disk, server := w.server }
  match Request.ofArguments w.environment arguments with
  | .error _ => some { ended with exit := 2, stderr := help true w.environment }
  | .ok (.help brief) => some { ended with stdout := help brief w.environment }
  | .ok .version => some { ended with stdout := [versionLine] }
  | .ok (.run o) => runTests fuel w o

end PageScript.CommandLine

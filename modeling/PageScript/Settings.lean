/-
Settings of a run: waiting, screenshots, character classes and the browser.
-/
import PageScript.Browser.Basic
import PageScript.Budget
import PageScript.Disk.Path
import PageScript.Token.Lexicon

namespace PageScript

/-- How a browser is launched and reached. -/
structure BrowserSettings where
  /-- The address of a WebDriver server that is running; without one a server is launched. -/
  webdriverUrl : Option String := none
  /-- The server program to launch. -/
  driverBinary : Path := ⟨"chromedriver"⟩
  /-- The port for a launched server; without one a free port is taken. -/
  driverPort : Option Nat := none
  headless : Bool := false
  width : Nat := 1280
  height : Nat := 720
  chromeWidth : Nat := 0
  chromeHeight : Nat := 0
  args : List String := []
  startupTimeoutSecs : Nat := 30
  deriving Repr, DecidableEq, Inhabited

/-- The settings of a run. -/
structure Settings where
  /-- The wait budget at the start, in seconds. -/
  defaultWaitSecs : Float := 30.0
  /-- What every wait is multiplied by. -/
  waitScale : Float := 1.0
  /-- Seconds added to every wait after that. -/
  waitOffsetSecs : Float := 0.0
  /-- The pause between two attempts of a check. -/
  retryIntervalMs : Nat := 100
  /-- The directory for screenshots with relative paths. -/
  screenshotDir : Option Path := none
  lexicon : Lexicon := {}
  browser : BrowserSettings := {}
  deriving Inhabited

namespace Settings

/-- The budget that a wait of so many seconds gives. -/
def scaledWait (s : Settings) (seconds : Float) : Nat :=
  Duration.ofSeconds (seconds * s.waitScale + s.waitOffsetSecs)

/-- The pause between two attempts of a check. -/
def retryInterval (s : Settings) : Nat :=
  Duration.ofMillis s.retryIntervalMs

/-- The options with which a browser is first launched. -/
def browserOptions (s : Settings) : BrowserOptions where
  width := s.browser.width
  height := s.browser.height
  chromeWidth := s.browser.chromeWidth
  chromeHeight := s.browser.chromeHeight
  headless := s.browser.headless
  args := s.browser.args

end Settings

end PageScript

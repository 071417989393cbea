/-
Reading settings from a file.
-/
import PageScript.Disk
import PageScript.Settings
import PageScript.Toml.Reader

namespace PageScript

/-- Why settings could not be read. -/
inductive SettingsError where
  | unreadable (file : Path) (cause : IoError)
  /-- The text of the file is no TOML from a place on. -/
  | malformed (file : Path) (position : Toml.Position)
  /-- A value is not one that its setting can have. -/
  | unfit (file : Path)
  deriving Repr, DecidableEq, Inhabited

/-- The wording of an error in reading settings. -/
def SettingsError.message : SettingsError → String
  | .unreadable file cause => "IO error reading " ++ file.text ++ ": " ++ cause.message
  | .malformed file p =>
    "Invalid config " ++ file.text ++ ": TOML parse error at line " ++ toString p.line ++
      ", column " ++ toString p.column
  | .unfit file => "Invalid config " ++ file.text ++ ": unexpected value"

namespace Settings

-- ======== fields

/-- A field as `read` reads it, or its default where it is missing. -/
def field? {α : Type} (read : Toml → Option α) (default : α) : Option Toml → Option α
  | none => some default
  | some v => read v

/-- A text. -/
def text? : Toml → Option String
  | .str s => some s
  | _ => none

/-- A truth value. -/
def truth? : Toml → Option Bool
  | .bool b => some b
  | _ => none

/-- A number; a whole one counts too. -/
def number? : Toml → Option Float
  | .float x => some x
  | .int n => some (Number.ofFraction (decide (n < 0)) n.natAbs 1)
  | _ => none

/-- A whole number from zero up to a limit. -/
def natUpTo? (limit : Nat) : Toml → Option Nat
  | .int n => if 0 ≤ n ∧ n ≤ limit then some n.toNat else none
  | _ => none

/-- A list of texts. -/
def texts? : Toml → Option (List String)
  | .arr items => items.mapM text?
  | _ => none

-- ======== records

/-- Character classes. -/
def lexicon? (v : Toml) : Option Lexicon := do
  let d : Lexicon := {}
  match ← v.record? ["quote_chars", "word_chars", "whitespace", "slash_slash_comments",
    "slash_star_comments"] with
  | [quotes, extras, blanks, lineComments, blockComments] =>
    some {
      quotes := ← field? text? d.quotes quotes
      wordExtras := ← field? text? d.wordExtras extras
      blanks := ← field? text? d.blanks blanks
      lineComments := ← field? truth? d.lineComments lineComments
      blockComments := ← field? truth? d.blockComments blockComments }
  | _ => none

/-- Browser settings. -/
def browser? (v : Toml) : Option BrowserSettings := do
  let d : BrowserSettings := {}
  match ← v.record? ["webdriver_url", "driver_binary", "driver_port", "headless", "width", "height",
    "chrome_width", "chrome_height", "args", "startup_timeout_secs"] with
  | [url, binary, port, headless, width, height, chromeWidth, chromeHeight, args, timeout] =>
    some {
      webdriverUrl := ← field? (fun v => (text? v).map some) d.webdriverUrl url
      driverBinary := ← field? (fun v => (text? v).map Path.mk) d.driverBinary binary
      driverPort := ← field? (fun v => (natUpTo? (2 ^ 16 - 1) v).map some) d.driverPort port
      headless := ← field? truth? d.headless headless
      width := ← field? (natUpTo? (2 ^ 32 - 1)) d.width width
      height := ← field? (natUpTo? (2 ^ 32 - 1)) d.height height
      chromeWidth := ← field? (natUpTo? (2 ^ 32 - 1)) d.chromeWidth chromeWidth
      chromeHeight := ← field? (natUpTo? (2 ^ 32 - 1)) d.chromeHeight chromeHeight
      args := ← field? texts? d.args args
      startupTimeoutSecs := ← field? (natUpTo? (2 ^ 64 - 1)) d.startupTimeoutSecs timeout }
  | _ => none

/-- Settings. -/
def ofToml? (v : Toml) : Option Settings := do
  let d : Settings := {}
  match ← v.record? ["default_wait_secs", "wait_scale", "wait_offset_secs", "retry_interval_ms",
    "screenshot_dir", "lexer", "browser"] with
  | [wait, scale, offset, interval, screenshots, lexer, browser] =>
    some {
      defaultWaitSecs := ← field? number? d.defaultWaitSecs wait
      waitScale := ← field? number? d.waitScale scale
      waitOffsetSecs := ← field? number? d.waitOffsetSecs offset
      retryIntervalMs := ← field? (natUpTo? (2 ^ 64 - 1)) d.retryIntervalMs interval
      screenshotDir :=
        ← field? (fun v => (text? v).map fun s => some ⟨s⟩) d.screenshotDir screenshots
      lexicon := ← field? lexicon? d.lexicon lexer
      browser := ← field? browser? d.browser browser }
  | _ => none

/-- The settings in a file; without the file, those that everything has by itself. -/
def load (disk : Disk) (file : Path) : Except SettingsError Settings :=
  if !disk.contains file then .ok {}
  else
    match disk.readText file with
    | .error cause => .error (.unreadable file cause)
    | .ok text =>
      match Toml.parse text with
      | .error position => .error (.malformed file position)
      | .ok document =>
        match ofToml? document with
        | some settings => .ok settings
        | none => .error (.unfit file)

end Settings

end PageScript

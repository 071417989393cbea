/-
How the command line is used, in brief and at length.

Each flag stands on a line of its own with what it does below it. The brief form puts everything
about a flag into one line; the long form sets apart where a value may come from and says what each
possible value means.
-/
import PageScript.CommandLine.Arguments

namespace PageScript.CommandLine

/-- What is said about an argument or a flag. -/
structure Entry where
  /-- How it is written. -/
  usage : String
  purpose : String
  /-- The environment variable that a value may come from. -/
  environment : Option String := none
  /-- The value it has if none is given. -/
  default : Option String := none
  /-- The values it may have, and what they mean. -/
  values : List (String × String) := []

def formatEntries : List (String × String) :=
  [("table", "Human-readable table format"), ("json", "JSON format"),
    ("plain", "One line per script")]

def entries (brief : Bool) : List Entry := [
  { usage := "      --config <CONFIG>", purpose := "Configuration file",
    environment := Setting.config.environmentName?, default := some "uiscript.toml" },
  { usage := "      --webdriver-url <WEBDRIVER_URL>",
    purpose := "Connect to a running WebDriver endpoint instead of launching one",
    environment := Setting.webdriverUrl.environmentName? },
  { usage := "      --driver-binary <DRIVER_BINARY>",
    purpose := "WebDriver server binary to launch",
    environment := Setting.driverBinary.environmentName? },
  { usage := "      --headless", purpose := "Run the browser headless" },
  { usage := "      --wait-scale <WAIT_SCALE>",
    purpose := "Multiplier applied to every `wait N`" },
  { usage := "      --retry-interval-ms <RETRY_INTERVAL_MS>",
    purpose := "Pause between failed assertion attempts" },
  { usage := "      --screenshot-dir <SCREENSHOT_DIR>", purpose := "Directory for screenshots" },
  { usage := "  -o, --output <OUTPUT>",
    purpose := "Write test-results.json into this directory" },
  { usage := "      --format <FORMAT>", purpose := "Output format", default := some "table",
    values := formatEntries },
  { usage := "  -v, --verbose", purpose := "Enable verbose output" },
  { usage := "  -h, --help",
    purpose :=
      if brief then "Print help (see more with '--help')"
      else "Print help (see a summary with '-h')" },
  { usage := "  -V, --version", purpose := "Print version" }]

def margin : String := "          "

def Entry.sources (e : Entry) (environment : String → Option String) : List String :=
  let named := e.environment.map fun name =>
    "[env: " ++ name ++ "=" ++ (environment name).getD "" ++ "]"
  named.toList ++ (e.default.map fun value => "[default: " ++ value ++ "]").toList

def Entry.brief (e : Entry) (environment : String → Option String) : List String :=
  let values :=
    if e.values.isEmpty then []
    else ["[possible values: " ++ ", ".intercalate (e.values.map Prod.fst) ++ "]"]
  [e.usage, margin ++ " ".intercalate (e.purpose :: e.sources environment ++ values)]

def Entry.long (e : Entry) (environment : String → Option String) : List String :=
  let sources := e.sources environment
  let longest := (e.values.map (·.1.length)).foldl max 0
  let value (v : String × String) : String :=
    let gap := String.ofList (List.replicate (longest - v.1.length) ' ')
    margin ++ "- " ++ v.1 ++ ": " ++ gap ++ v.2
  [e.usage, margin ++ e.purpose] ++
    (if sources.isEmpty then [] else margin :: sources.map (margin ++ ·)) ++
    (if e.values.isEmpty then []
      else ["", margin ++ "Possible values:"] ++ e.values.map value)

def help (brief : Bool) (environment : String → Option String) : List String :=
  let purpose := "Script files or directories of `*.ui` scripts"
  let scripts := "  <SCRIPTS>..."
  let about := (entries brief).map fun e =>
    if brief then e.brief environment else e.long environment
  ["Command-line runner for uiscript UI checks", "", "Usage: uiscript [OPTIONS] <SCRIPTS>...", "",
    "Arguments:"] ++
    (if brief then [scripts ++ "  " ++ purpose] else [scripts, margin ++ purpose]) ++
    ["", "Options:"] ++
    (if brief then about else about.intersperse [""]).flatten

end PageScript.CommandLine

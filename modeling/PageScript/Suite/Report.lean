/-
What became of tests.
-/
import PageScript.Calendar
import PageScript.Json.Writer
import PageScript.Suite
import PageScript.Text.Split
import PageScript.Text.Table

namespace PageScript.Suite

/-- What became of a test. -/
structure Result where
  case : Case
  /-- When it was started, in nanoseconds from the start of 1970. -/
  startedAt : Nat
  /-- How long it took, in nanoseconds. -/
  duration : Nat
  /-- Why it failed, if it did. -/
  error : Option String
  deriving Repr, DecidableEq, Inhabited

/-- Whether a test passed. -/
def Result.success (r : Result) : Bool :=
  r.error.isNone

/-- What became of all tests. -/
structure Report where
  duration : Nat := 0
  results : List Result := []
  deriving Repr, DecidableEq, Inhabited

/-- A duration in whole milliseconds. -/
def millis (duration : Nat) : Nat :=
  duration / 1000000

-- ======== counts

namespace Report

/-- How many tests there were. -/
def total (r : Report) : Nat :=
  r.results.length

/-- How many tests passed. -/
def passed (r : Report) : Nat :=
  r.results.countP (·.success)

/-- How many tests failed. -/
def failed (r : Report) : Nat :=
  r.results.countP (!·.success)

/-- Whether no test failed. -/
def success (r : Report) : Bool :=
  r.failed == 0

end Report

-- ======== JSON

/-- A test's result as JSON. -/
def Result.toJson (r : Result) : Json :=
  .obj [("name", .str r.case.name), ("path", .str r.case.path.text), ("success", .bool r.success),
    ("duration_ms", .int (millis r.duration)),
    ("error", match r.error with
      | some e => .str e
      | none => .null),
    ("started_at", .str (Calendar.text r.startedAt))]

namespace Report

/-- A report as JSON. -/
def toJson (r : Report) : Json :=
  .obj [("total", .int r.total), ("passed", .int r.passed), ("failed", .int r.failed),
    ("duration_ms", .int (millis r.duration)), ("results", .arr (r.results.map Result.toJson))]

/-- The directory that results are written to unless another one is given. -/
def defaultDir : Path := ⟨"test-results"⟩

/-- The name of the file that results are written to. -/
def fileName : Path := ⟨"test-results.json"⟩

/-- Writes a report into a directory, which is made if it is not there. The path of the file comes
back, and the disk as it is then. -/
def write (r : Report) (disk : Disk) (dir : Path) : Except SuiteError Path × Disk :=
  let file := dir.join fileName
  match disk.makeDirs dir with
  | (.error cause, disk) => (.error (.io cause), disk)
  | (.ok (), disk) =>
    match disk.write file (Text.encode r.toJson.pretty) with
    | .ok disk => (.ok file, disk)
    | .error cause => (.error (.io cause), disk)

end Report

-- ======== tables

/-- The heads of a table of results. -/
def heads : List String := ["Status", "Script", "Duration", "Error"]

/-- A test's result as cells of a table; of its error only the first line. -/
def Result.cells (r : Result) : List String :=
  [if r.success then "✓ pass" else "✗ fail", r.case.name, toString (millis r.duration) ++ " ms",
    Text.firstLine (r.error.getD "")]

/-- The counts of a report in one line. -/
def Report.summary (r : Report) : String :=
  toString r.passed ++ " passed, " ++ toString r.failed ++ " failed (" ++
    toString (millis r.duration) ++ " ms)"

end PageScript.Suite

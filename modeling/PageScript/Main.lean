/-
The program: the command line over the files of the current directory.

The files are read before and written back afterwards, as far as they have changed. No WebDriver
server can be reached from here, so a script that needs a browser fails.
-/
import PageScript.CommandLine
import PageScript.Shell.System
import Std.Time.DateTime.Timestamp

namespace PageScript.Main

/-- How deep directories are read. -/
def depth : Nat := 64

/-- Whether a file is one to be run: it starts by naming its interpreter. -/
def isExecutable (bytes : List UInt8) : Bool :=
  bytes.take 2 = [0x23, 0x21]

/-- Reads what is below a directory. -/
def readTree : (depth : Nat) → (directory : String) → IO Tree
  | 0, _ => return .ofEntries []
  | depth + 1, directory => do
    let mut entries := #[]
    for entry in ← ((← IO.currentDir) / directory).readDir do
      if ← entry.path.isDir then
        let below ← readTree depth (directory ++ "/" ++ entry.fileName)
        entries := entries.push (entry.fileName, below)
      else
        let bytes := (← IO.FS.readBinFile entry.path).toList
        entries := entries.push (entry.fileName, .ofBytes bytes (isExecutable bytes))
    return .ofEntries entries.toList

/-- The bytes of the file at a place in a tree. -/
def bytesAt? (t : Tree) (place : String) : Option (List UInt8) :=
  match t.get? (place.splitOn "/") with
  | some (.file bytes _) => some bytes
  | _ => none

/-- Writes what is new or changed below the current directory, and removes files that are gone. -/
def writeTree (before after : Tree) : IO Unit := do
  for place in after.listing do
    if place.endsWith "/" then IO.FS.createDirAll place
    else
      match bytesAt? after place with
      | some bytes =>
        if bytesAt? before place ≠ some bytes then
          IO.FS.writeBinFile place ⟨bytes.toArray⟩
      | none => pure ()
  for place in before.listing do
    if (bytesAt? before place).isSome && (bytesAt? after place).isNone then IO.FS.removeFile place

/-- The line for something in the journal, if it is shown. -/
def logLine? (e : Event) : Option String :=
  match e.deed with
  | .log .info _ message => some (" INFO " ++ message)
  | .log .warn _ message => some (" WARN " ++ message)
  | .log .error _ message => some ("ERROR " ++ message)
  | .call _ => none

/-- How much a run may do. -/
def fuel : Nat := 1000000000

/-- Does what the arguments ask for, and gives the exit code. -/
def command (arguments : List String) : IO UInt32 := do
  let before ← readTree depth "."
  let names := ["UISCRIPT_CONFIG", "UISCRIPT_WEBDRIVER_URL", "UISCRIPT_DRIVER_BINARY"]
  let values ← names.mapM fun name => return (name, ← IO.getEnv name)
  let empty := Disk.system
  let world : CommandLine.World :=
    { environment := fun name => (values.lookup name).join
      disk := { empty with root := empty.root.set empty.here before }
      server := { reachable := false }
      now := (← Std.Time.Timestamp.now).toNanosecondsSinceUnixEpoch.val.toNat }
  match CommandLine.run fuel world arguments with
  | none => return 2
  | some o =>
    writeTree before ((o.disk.root.get? empty.here).getD before)
    for event in o.journal.reverse do
      match logLine? event with
      | some line => IO.println line
      | none => pure ()
    for line in o.stdout do IO.println line
    for line in o.stderr do IO.eprintln line
    return o.exit.toUInt32

end PageScript.Main

/-- Runs the program. -/
def main (arguments : List String) : IO UInt32 :=
  PageScript.Main.command arguments

/-
Scripts that are run as tests, and finding them.

A file is a test by itself, whatever its name. In a directory, the tests are the script files below
it at any depth, in the order of a walk; their names are their places in it without the extension.
-/
import PageScript.Disk

namespace PageScript.Suite

/-- A script that is run as a test. -/
structure Case where
  /-- Taken from file names, which are texts here; how other names would be shown is left out. -/
  name : String
  path : Path
  deriving Repr, DecidableEq, Inhabited

/-- What can go wrong around tests. -/
inductive SuiteError where
  /-- There is neither a file nor a directory. -/
  | notFound (path : Path)
  /-- A directory below one could not be opened. -/
  | walk (path below : Path) (cause : IoError)
  /-- Results could not be written. -/
  | io (cause : IoError)
  deriving Repr, DecidableEq, Inhabited

/-- The wording of a failure on a walk. -/
def walkMessage (below : Path) (cause : IoError) : String :=
  "IO error for operation on " ++ below.text ++ ": " ++ cause.message

/-- The wording of an error around tests. -/
def SuiteError.message : SuiteError → String
  | .notFound path => "Not a script file or directory: " ++ path.text
  | .walk path below cause => "Failed to scan " ++ path.text ++ ": " ++ walkMessage below cause
  | .io cause => "IO error: " ++ cause.message

/-- The extension of script files. -/
def extension : String := "ui"

/-- The file name at the end of a location, cut into stem and extension. -/
def lastName (location : List String) : List Char × Option (List Char) :=
  Path.splitExtension (location.getLastD "").toList

/-- Whether the file at a location is a script. -/
def isScript (location : List String) : Bool :=
  (lastName location).2 = some extension.toList

/-- The last name of a location without its extension. The point goes with the extension, unless
what is left in front of it and the point together name no file. -/
def bareName (location : List String) : String :=
  let stem := (lastName location).1
  let pointed : Path := ⟨String.ofList (stem ++ ['.'])⟩
  if pointed.fileName?.isNone then pointed.text else String.ofList stem

/-- The path of a location below a directory. -/
def pathBelow (directory : Path) (location : List String) : Path :=
  location.foldl (fun p name => p.join ⟨name⟩) directory

/-- The test at a location below a directory. -/
def Case.below (directory : Path) (location : List String) : Case where
  name := String.intercalate "/" (location.dropLast ++ [bareName location])
  path := pathBelow directory location

/-- The test that a single file is. -/
def Case.ofFile (path : Path) : Case where
  name := path.stem?.getD path.text
  path

/-- The tests among what a walk through a directory comes to. The walk ends at a directory whose
path is too long for it to be opened. -/
def scan (directory : Path) : List (List String × Tree) → Except SuiteError (List Case)
  | [] => .ok []
  | (location, t) :: rest => do
    let path := pathBelow directory location
    if t.isDir && path.text.utf8ByteSize > Disk.pathLimit then
      throw (.walk directory path .nameTooLong)
    let found ← scan directory rest
    return if t.isRegular && isScript location then .below directory location :: found else found

/-- Registers the tests at a path behind those that there are, and counts them. -/
def discover (disk : Disk) (path : Path) (tests : List Case) : Except SuiteError Nat × List Case :=
  if disk.isFile path then (.ok 1, tests ++ [.ofFile path])
  else
    match disk.find path with
    | .ok (.dir entries traits) =>
      match scan path (Tree.dir entries traits).tour with
      | .ok found => (.ok found.length, tests ++ found)
      | .error e => (.error e, tests)
    | _ => (.error (.notFound path), tests)

end PageScript.Suite

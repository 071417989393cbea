/-
The disk: one directory tree, and the directory from which relative paths start.

Every operation follows a path name by name, as a system does: a name on the way that is no
directory is one error, a name that is not there another, and a slash at the end asks for a
directory. A link on the way is replaced by the path it holds. Names and paths can only be so long,
and none can hold a NUL.
-/
import PageScript.Disk.Error
import PageScript.Disk.Path
import PageScript.Disk.Tree
import PageScript.Text.Utf8

namespace PageScript

/-- A directory tree and the current directory in it. -/
structure Disk where
  root : Tree := .ofEntries []
  here : List String := []
  /-- The permissions that new files do not get, as bits. -/
  mask : Nat := 0o022
  /-- When the latest change was. -/
  now : Nat := startOfClock * 10 ^ 9
  deriving Inhabited

namespace Disk

-- ======== following

/-- Where a path leads: to something, or to a name that is free in a directory. -/
inductive Place where
  | taken (location : List String) (tree : Tree)
  | free (location : List String)

/-- How many bytes a name may have. -/
def nameLimit : Nat := 255

/-- How many bytes a path may have. -/
def pathLimit : Nat := 4095

/-- How many links there may be on the way. -/
def linkLimit : Nat := 40

/-- Follows segments from a place in the tree; `links` is how many links there may still be. A link
at the end is only followed if `toEnd` says so. -/
def follow (root : Tree) (toEnd : Bool) (links : Nat) (location : List String) (current : Tree) :
    List (List Char) → Except IoError Place
  | [] => .ok (.taken location current)
  | segment :: rest =>
    if !current.isDir then .error .notDirectory
    else if segment = [] ∨ segment = ['.'] then follow root toEnd links location current rest
    else if segment = ['.', '.'] then
      let up := location.dropLast
      follow root toEnd links up ((root.get? up).getD root) rest
    else if (String.ofList segment).utf8ByteSize > nameLimit then .error .nameTooLong
    else
      let name := String.ofList segment
      match current.child? name with
      | some (.link target) =>
        if rest.isEmpty && !toEnd then .ok (.taken (location ++ [name]) (.link target))
        else
          match links with
          | 0 => .error .tooManyLinks
          | links + 1 =>
            let way := (Path.mk target).segments ++ rest
            if (Path.mk target).isAbsolute then follow root toEnd links [] root way
            else follow root toEnd links location current way
      | some sub => follow root toEnd links (location ++ [name]) sub rest
      | none =>
        if rest.all (·.isEmpty) then .ok (.free (location ++ [name]))
        else .error .notFound
termination_by segments => (links, segments.length)

/-- Where a path leads from the current directory. The empty path leads nowhere. A link at its end
is only followed if `toEnd` says so. -/
def place (d : Disk) (p : Path) (toEnd : Bool := true) : Except IoError Place :=
  if p.text.toList.contains '\x00' then .error .nulInPath
  else if p.text.isEmpty then .error .notFound
  else if p.text.utf8ByteSize > pathLimit then .error .nameTooLong
  else
    let start := if p.isAbsolute then [] else d.here
    match d.root.get? start with
    | some tree => follow d.root toEnd linkLimit start tree p.segments
    | none => .error .notFound

/-- What is at a path. -/
def find (d : Disk) (p : Path) : Except IoError Tree :=
  match d.place p with
  | .ok (.taken _ tree) => .ok tree
  | .ok (.free ..) => .error .notFound
  | .error e => .error e

/-- Whether there is something at a path. -/
def contains (d : Disk) (p : Path) : Bool :=
  match d.find p with
  | .ok _ => true
  | .error _ => false

/-- Whether there is something at a path, if only a link that leads nowhere. -/
def holds (d : Disk) (p : Path) : Bool :=
  match d.place p false with
  | .ok (.taken ..) => true
  | _ => false

/-- Whether there is a file at a path. -/
def isFile (d : Disk) (p : Path) : Bool :=
  match d.find p with
  | .ok (.file ..) => true
  | .ok (.program _) => true
  | _ => false

/-- Whether there is a directory at a path. -/
def isDir (d : Disk) (p : Path) : Bool :=
  match d.find p with
  | .ok tree => tree.isDir
  | .error _ => false

/-- The disk as seen from a directory. -/
def enter (d : Disk) (p : Path) : Except IoError Disk :=
  match d.place p with
  | .ok (.taken location (.dir ..)) => .ok { d with here := location }
  | .ok (.taken ..) => .error .notDirectory
  | .ok (.free ..) => .error .notFound
  | .error e => .error e

-- ======== content

/-- The bytes of a file. -/
def read (d : Disk) (p : Path) : Except IoError (List UInt8) :=
  match d.find p with
  | .ok (.file content _) => .ok content
  | .ok (.program _) => .ok [0x7F]
  | .ok (.device .terminal) => .error .noDevice
  | .ok (.device kind) => .ok kind.content
  | .ok (.link _) => .error .notFound
  | .ok (.dir ..) => .error .isDirectory
  | .error e => .error e

/-- The text of a file. -/
def readText (d : Disk) (p : Path) : Except IoError String :=
  match d.read p with
  | .ok bytes =>
    match Text.decode? bytes with
    | some text => .ok text
    | none => .error .notText
  | .error e => .error e

/-- Puts a tree at a location. -/
def put (d : Disk) (location : List String) (tree : Tree) : Disk :=
  { d with root := d.root.set location tree }

/-- Takes away what is at a location. -/
def remove (d : Disk) (location : List String) : Disk :=
  { d with root := d.root.erase location }

/-- Puts a file at a location, which is changed by that. -/
def putFile (d : Disk) (location : List String) (content : List UInt8) (traits : Traits) : Disk :=
  { d.put location (.file content { traits with changed := d.now + 1 }) with now := d.now + 1 }

/-- A mode without the permissions that new files do not get. -/
def masked (d : Disk) (mode : Nat) : Nat :=
  mode - (mode &&& d.mask)

/-- Puts a new file at a location. -/
def addFile (d : Disk) (location : List String) (content : List UInt8) : Disk :=
  d.putFile location content { mode := d.masked 0o666 }

/-- Puts a new directory at a location. -/
def addDir (d : Disk) (location : List String) : Disk :=
  { d.put location (.dir [] { mode := d.masked 0o777, changed := d.now + 1 }) with
    now := d.now + 1 }

/-- Puts bytes into a file, which is made if it is not there. A slash at the end asks for a
directory, which no file is. -/
def write (d : Disk) (p : Path) (bytes : List UInt8) : Except IoError Disk :=
  match d.place p.bare with
  | .error e => .error e
  | .ok place =>
    if p.bare ≠ p then .error .isDirectory
    else
      match place with
      | .taken location (.file _ traits) => .ok (d.putFile location bytes traits)
      | .taken _ (.dir ..) => .error .isDirectory
      | .taken _ (.program _) => .error .permissionDenied
      | .taken _ (.link _) => .error .notFound
      | .taken _ (.device .terminal) => .error .noDevice
      | .taken _ (.device .full) => if bytes.isEmpty then .ok d else .error .noSpace
      | .taken _ (.device _) => .ok d
      | .free location => .ok (d.addFile location bytes)

/-- Makes a directory. -/
def makeDir (d : Disk) (p : Path) : Except IoError Disk :=
  match d.place p.bare false with
  | .ok (.taken ..) => .error .alreadyExists
  | .ok (.free location) => .ok (d.addDir location)
  | .error e => .error e

/-- Makes a directory unless there is one, and tells whether there is one now. -/
def ensureDir (d : Disk) (p : Path) : Except IoError Unit × Disk :=
  match d.makeDir p with
  | .ok made => (.ok (), made)
  | .error e => (if d.isDir p then .ok () else .error e, d)

/-- Makes a directory and those above it that are not there; each level up takes one of `fuel`. -/
def makeDirsFrom : Nat → Disk → Path → Except IoError Unit × Disk
  | 0, d, _ => (.error (.other "failed to create whole tree"), d)
  | fuel + 1, d, p =>
    if p.text.isEmpty then (.ok (), d)
    else
      match d.makeDir p with
      | .error .notFound =>
        match p.parent? with
        | none => (.error (.other "failed to create whole tree"), d)
        | some above =>
          match makeDirsFrom fuel d above with
          | (.error e, d) => (.error e, d)
          | (.ok (), d) => d.ensureDir p
      | _ => d.ensureDir p

/-- Makes a directory and those above it that are not there. The directories that were made on the
way stay, even if the last one cannot be made. -/
def makeDirs (d : Disk) (p : Path) : Except IoError Unit × Disk :=
  makeDirsFrom (p.text.length + 1) d p

/-- Everything below the current directory. -/
def listing (d : Disk) : List String :=
  ((d.root.get? d.here).getD (.ofEntries [])).listing

end Disk

end PageScript

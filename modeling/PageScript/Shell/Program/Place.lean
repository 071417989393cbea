/-
Where files are: paths taken apart and put together, and what they lead to.
-/
import PageScript.Shell.Program.Basic

namespace PageScript.Shell.Program

def bareName (file : String) : String :=
  (Path.bare ⟨file⟩).text

def lastName (file : String) : String :=
  String.ofList (((bareName file).toList.reverse.takeWhile (· ≠ '/')).reverse)

def under (dir name : String) : String :=
  if dir.endsWith "/" then dir ++ name else dir ++ "/" ++ name

/-- Where a file is on a disk, and what it is. A link at the end is only followed if `toEnd` says
so. -/
def placeOf (disk : Disk) (file : String) (toEnd : Bool := true) :
    Except IoError (List String × Tree) :=
  match disk.place (pathOf file) toEnd with
  | .ok (.taken location tree) => .ok (location, tree)
  | .ok (.free _) => .error .notFound
  | .error e => .error e

def notEmpty : String :=
  "Directory not empty"

def ask (call : Call) (effect : Effect) (text : String) : Bool × Effect :=
  let input := effect.rest.getD call.input
  let line := input.takeWhile (· ≠ lineFeed)
  (line.head? = some 0x79 || line.head? = some 0x59,
    { effect with
      rest := some (input.drop (line.length + 1))
      writes := effect.writes ++ [(2, bytesOf (call.label ++ text ++ "? "))] })

end PageScript.Shell.Program

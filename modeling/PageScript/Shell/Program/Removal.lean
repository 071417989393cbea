/-
Files taken away: `rm` and `rmdir`.
-/
import PageScript.Shell.Program.Mode
import PageScript.Shell.Program.Place

namespace PageScript.Shell.Program

/-- The paths of a tree in the order in which they are removed, with whether they are directories.
-/
def removedPaths : (fuel : Nat) → Tree → String → List (String × Bool)
  | 0, _, _ => []
  | fuel + 1, .dir entries _, path =>
    (entries.flatMap fun (name, tree) => removedPaths fuel tree (under path (pack name))) ++
      [(path, true)]
  | _ + 1, _, path => [(path, false)]

/-- Takes away what leave is given for, from the bottom up; tells whether all of it is gone. Each
level takes one of `fuel`. -/
def removeAsking (call : Call) : (fuel : Nat) → Effect → String → Tree → Bool × Effect
  | 0, effect, _, _ => (false, effect)
  | fuel + 1, effect, path, tree =>
    let final (effect : Effect) : Bool × Effect :=
      let (agreed, effect) :=
        ask call effect ("remove " ++ kindWords tree ++ " " ++ quotedName path)
      match agreed, placeOf effect.disk path false with
      | true, .ok (location, _) => (true, { effect with disk := effect.disk.remove location })
      | _, _ => (false, effect)
    match tree with
    | .dir (entry :: entries) _ =>
      let (agreed, effect) := ask call effect ("descend into directory " ++ quotedName path)
      if !agreed then (false, effect)
      else
        let (all, effect) := (entry :: entries).foldl
          (fun (acc : Bool × Effect) (name, inner) =>
            let (gone, effect) := removeAsking call fuel acc.2 (under path (pack name)) inner
            (acc.1 && gone, effect)) (true, effect)
        if all then final effect else (false, effect)
    | _ => final effect

def removeOne (call : Call) (o : Options) (effect : Effect) (file : String) : Effect :=
  let deep := o.has 'r' || o.has 'R'
  let asks := o.last? ['f', 'i', 'I'] = some 'i'
  let refused (why : String) : Effect :=
    effect.complain call 1 ("cannot remove " ++ quotedName file ++ ": " ++ why)
  let gone (location : List String) (tree : Tree) : Effect :=
    if asks then (removeAsking call 1000 effect (bareName file) tree).2
    else
      let effect := { effect with disk := effect.disk.remove location }
      if o.has 'v' then
        (removedPaths 1000 tree (bareName file)).foldl
          (fun e (path, isDir) =>
            e.send (bytesOf ((if isDir then "removed directory " else "removed ") ++
              quotedName path ++ "\n"))) effect
      else effect
  match placeOf effect.disk file false with
  | .error e => if o.has 'f' && e = .notFound then effect else refused (reason e)
  | .ok (location, .dir entries traits) =>
    let name := lastName file
    let isLink := match placeOf effect.disk (bareName file) false with
      | .ok (_, .link _) => true
      | _ => false
    if !deep && !(o.has 'd') then refused "Is a directory"
    else if isLink then refused "Not a directory"
    else if name = "." || name = ".." then
      effect.complain call 1 ("refusing to remove '.' or '..' directory: skipping " ++
        quotedName file)
    else if location.isEmpty then
      (effect.complain call 1 "it is dangerous to operate recursively on '/'").complain call 1
        "use --no-preserve-root to override this failsafe"
    else if !deep && !entries.isEmpty then refused notEmpty
    else gone location (.dir entries traits)
  | .ok (location, tree) => gone location tree

def rm (call : Call) : Effect :=
  call.withOptions 1
    { flags := "rRfvdiI".toList
      long := [("recursive", 'r'), ("force", 'f'), ("verbose", 'v'), ("dir", 'd')] }
    fun o =>
      let deep := o.has 'r' || o.has 'R'
      let count := o.operands.length
      let once := o.last? ['f', 'i', 'I'] = some 'I' && (count > 3 || (deep && count > 0))
      let start : Effect := { disk := call.disk }
      let (agreed, start) :=
        if once then
          ask call start ("remove " ++ Number.natText count ++
            (if count = 1 then " argument" else " arguments") ++
            (if deep then " recursively" else ""))
        else (true, start)
      if o.operands.isEmpty && !o.has 'f' then .misused call 1 "missing operand"
      else if agreed then o.operands.foldl (removeOne call o) start
      else start

def removeDir (call : Call) (o : Options) (effect : Effect) (file : String) : Effect :=
  let effect := if o.has 'v' then
      effect.send (bytesOf (call.label ++ "removing directory, " ++ quotedName file ++ "\n"))
    else effect
  let refused (why : String) : Effect :=
    effect.complain call 1 ("failed to remove " ++ quotedName file ++ ": " ++ why)
  match placeOf effect.disk file false with
  | .error e => refused (reason e)
  | .ok (location, .dir [] _) => { effect with disk := effect.disk.remove location }
  | .ok (_, .dir ..) => if o.has '\x01' then effect else refused notEmpty
  | .ok _ => refused "Not a directory"

def rmdir (call : Call) : Effect :=
  call.withOptions 1
    { flags := "pv".toList ++ ['\x01']
      long := [("parents", 'p'), ("verbose", 'v'), ("ignore-fail-on-non-empty", '\x01')] }
    fun o =>
      if o.operands.isEmpty then .misused call 1 "missing operand"
      else
        o.operands.foldl
          (fun effect file =>
            if o.has 'p' then
              let parts := (bareName file).splitOn "/"
              let paths := (List.range parts.length).reverse.map fun n =>
                "/".intercalate (parts.take (n + 1))
              paths.foldl
                (fun (effect : Effect) p =>
                  if effect.status ≠ 0 || p = "" then effect else removeDir call o effect p) effect
            else removeDir call o effect file)
          { disk := call.disk }

end PageScript.Shell.Program

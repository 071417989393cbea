/-
Files made and altered: `mkdir`, `touch` and `chmod`.
-/
import PageScript.Shell.Date.Civil
import PageScript.Shell.Date.Parser
import PageScript.Shell.Program.Mode
import PageScript.Shell.Program.Place

namespace PageScript.Shell.Program

def makeOne (call : Call) (o : Options) (effect : Effect) (file : String) : Effect :=
  let said (effect : Effect) (path : String) : Effect :=
    if o.has 'v' then
      effect.send (bytesOf (call.label ++ "created directory " ++ quotedName path ++ "\n"))
    else effect
  let refused (effect : Effect) (path : String) (e : IoError) : Effect :=
    effect.complain call 1 ("cannot create directory " ++ quoted path ++ ": " ++ reason e)
  let moded (disk : Disk) (path : String) : Disk :=
    match (o.value? 'm').bind ModeChange.parse?, placeOf disk path with
    | some change, .ok (location, tree) =>
      if path = file || path = bareName file then
        alterTraits disk location tree fun t => { t with mode := change.apply disk.mask true 0o777 }
      else disk
    | _, _ => disk
  let make (effect : Effect) (path : String) : Effect :=
    match effect.disk.makeDir (pathOf path) with
    | .ok disk => said { effect with disk := moded disk path } path
    | .error e => refused effect path e
  if o.has 'p' then
    let parts := (bareName file).splitOn "/"
    let paths := (List.range parts.length).map fun n => "/".intercalate (parts.take (n + 1))
    (paths.foldl
      (fun (acc : Effect × Bool) path =>
        if acc.2 || path = "" || acc.1.disk.isDir (pathOf path) then acc
        else if acc.1.disk.isFile (pathOf path) then
          (refused acc.1 path
            (if path = bareName file then .alreadyExists else .notDirectory), true)
        else
          let effect := make acc.1 path
          (effect, effect.status > acc.1.status))
      (effect, false)).1
  else make effect file

def mkdir (call : Call) : Effect :=
  call.withOptions 1
    { flags := "pvZ".toList, valued := "m".toList
      long := [("parents", 'p'), ("verbose", 'v'), ("mode", 'm')] }
    fun o =>
      let bad := (o.value? 'm').filter fun (text : String) => (ModeChange.parse? text).isNone
      match bad with
      | some text => .complaining call 1 ("invalid mode " ++ quoted text)
      | none =>
        if o.operands.isEmpty then .misused call 1 "missing operand"
        else o.operands.foldl (makeOne call o) { disk := call.disk }

/-- A time written as digits: perhaps a year, then month, day, hour and minute, and perhaps seconds
behind a point. -/
def stampTime? (text : String) : Option Int :=
  let (front, back) := text.toList.span (· ≠ '.')
  let two (cs : List Char) : Int := Number.digitsValue (cs.take 2)
  let seconds : Option Int := match back with
    | [] => some 0
    | [_, a, b] => if a.isDigit && b.isDigit then some (Number.digitsValue [a, b]) else none
    | _ => none
  if !front.all Char.isDigit then none
  else
    let (year, rest) : Int × List Char := match front.length with
      | 12 => (Number.digitsValue (front.take 4), front.drop 4)
      | 10 =>
        let y := two front
        (if y < 69 then 2000 + y else 1900 + y, front.drop 2)
      | _ => (2026, front)
    if rest.length ≠ 8 then none
    else
      seconds.map fun second =>
        ({ year, month := two rest, day := two (rest.drop 2), hour := two (rest.drop 4),
           minute := two (rest.drop 6), second } : Date.Civil).seconds

def askedTime (call : Call) (o : Options) : Except String (Option Nat) :=
  match o.value? 'd', o.value? 't', o.value? 'r' with
  | some text, _, _ =>
    match Date.parse? text with
    | some (seconds, nanos) => .ok (some (seconds.toNat * 10 ^ 9 + nanos))
    | none => .error ("invalid date format " ++ quoted text)
  | none, some text, _ =>
    match stampTime? text with
    | some seconds => .ok (some (seconds.toNat * 10 ^ 9))
    | none => .error ("invalid date format " ++ quoted text)
  | none, none, some file =>
    match placeOf call.disk file with
    | .ok (_, tree) => .ok (some (timeOf tree))
    | .error e => .error ("failed to get attributes of " ++ quotedName file ++ ": " ++ reason e)
  | none, none, none => .ok none

def touch (call : Call) : Effect :=
  call.withOptions 1
    { flags := "acmfh".toList, valued := "drt".toList
      long := [("no-create", 'c'), ("date", 'd'), ("reference", 'r'), ("no-dereference", 'h')] }
    fun o =>
      let only := o.has 'a' && !o.has 'm'
      match askedTime call o with
      | .error text => .complaining call 1 text
      | .ok time =>
        if o.operands.isEmpty then .misused call 1 "missing file operand"
        else
          o.operands.foldl
            (fun (effect : Effect) file =>
              let refused (e : IoError) : Effect :=
                effect.complain call 1 ("cannot touch " ++ quotedName file ++ ": " ++ reason e)
              let stamped (disk : Disk) : Disk :=
                match placeOf disk file with
                | .ok (location, tree) =>
                  if only then disk
                  else
                    { alterTraits disk location tree
                        fun t => { t with changed := time.getD (disk.now + 1) } with
                      now := disk.now + 1 }
                | .error _ => disk
              match effect.disk.place (pathOf file) with
              | .ok (.taken ..) => { effect with disk := stamped effect.disk }
              | .ok (.free _) =>
                if o.has 'c' then effect
                else if file.endsWith "/" then
                  effect.complain call 1
                    ("setting times of " ++ quotedName file ++ ": No such file or directory")
                else
                  match effect.disk.write (pathOf file) [] with
                  | .ok disk => { effect with disk := if time.isSome then stamped disk else disk }
                  | .error e => refused e
              | .error e => refused e)
            { disk := call.disk }

-- ======== modes

/-- Something with a path and all that is below it, links left out; each level takes one of `fuel`.
-/
def withBelow (deep : Bool) : (fuel : Nat) → (path : String) → Tree → List String
  | 0, path, _ => [path]
  | fuel + 1, path, .dir entries _ =>
    path :: if deep then entries.flatMap fun (name, tree) =>
        withBelow deep fuel (under path (pack name)) tree
      else []
  | _, _, .link _ => []
  | _, path, _ => [path]

def changeMode (call : Call) (o : Options) (change : Tree → Nat) (effect : Effect) (file : String) :
    Effect :=
  match placeOf effect.disk file with
  | .error e =>
    let effect := if o.has 'f' then { effect with status := 1 }
      else effect.complain call 1 ("cannot access " ++ quotedName file ++ ": " ++ reason e)
    if o.has 'v' then effect.send (bytesOf (quotedName file ++ " could not be accessed\n"))
    else effect
  | .ok (location, tree) =>
    let (old, new) := (modeOf tree, change tree)
    let effect := { effect with
      disk := alterTraits effect.disk location tree fun t => { t with mode := new } }
    let text (mode : Nat) : String := octalText mode 4 ++ " (" ++ modeText mode ++ ")"
    if old ≠ new && (o.has 'v' || o.has 'c') then
      effect.send (bytesOf ("mode of " ++ quotedName file ++ " changed from " ++ text old ++
        " to " ++ text new ++ "\n"))
    else if o.has 'v' then
      effect.send (bytesOf ("mode of " ++ quotedName file ++ " retained as " ++ text old ++ "\n"))
    else effect

def chmod (call : Call) : Effect :=
  let args := call.args.map fun a =>
    if a.startsWith "-" && (ModeChange.parse? a).isSome then "\x01" ++ a else a
  Call.withOptions { call with args } 1
    { flags := "Rvcf".toList, valuedLong := ['\x01']
      long := [("recursive", 'R'), ("verbose", 'v'), ("changes", 'c'), ("silent", 'f'),
        ("quiet", 'f'), ("reference", '\x01')] }
    fun o =>
      let go (change : Tree → Nat) (files : List String) : Effect :=
        let all := files.flatMap fun file =>
          match placeOf call.disk file with
          | .ok (_, tree) => withBelow (o.has 'R') 1000 file tree
          | .error _ => [file]
        all.foldl (changeMode call o change) { disk := call.disk }
      match o.value? '\x01', o.operands with
      | some file, files =>
        match placeOf call.disk file with
        | .ok (_, like) =>
          if files.isEmpty then .misused call 1 "missing operand"
          else go (fun _ => modeOf like) files
        | .error e =>
          .complaining call 1
            ("failed to get attributes of " ++ quotedName file ++ ": " ++ reason e)
      | none, [] => .misused call 1 "missing operand"
      | none, [mode] =>
        .misused call 1 ("missing operand after " ++
          quoted (String.ofList (mode.toList.filter (· ≠ '\x01'))))
      | none, mode :: files =>
        let mode := if mode.startsWith "\x01" then String.ofList (mode.toList.drop 1) else mode
        match ModeChange.parse? mode with
        | none => .misused call 1 ("invalid mode: " ++ quoted mode)
        | some change =>
          go (fun tree => change.apply call.disk.mask tree.isDir (modeOf tree)) files

end PageScript.Shell.Program

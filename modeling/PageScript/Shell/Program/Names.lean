/-
Programs about names and about the system: `basename`, `dirname`, `printenv`, `uname`, `sleep`,
`yes` and the like.
-/
import PageScript.Shell.Program.Figures
import PageScript.Shell.Program.Mode
import PageScript.Shell.Program.Place

namespace PageScript.Shell.Program

-- ======== paths

def baseOf (ending path : String) : String :=
  if path = "" then ""
  else
    let name := lastName path
    if name = "" then "/"
    else if name ≠ ending && ending ≠ "" && name.endsWith ending then
      String.ofList (name.toList.take (name.length - ending.length))
    else name

def basename (call : Call) : Effect :=
  call.withOptions 1
    { flags := "az".toList, valued := "s".toList, ordered := true
      long := [("multiple", 'a'), ("suffix", 's')] }
    fun o =>
      match o.has 'a' || o.has 's', o.operands with
      | _, [] => .misused call 1 "missing operand"
      | true, paths => .sending call (asLines (paths.map (baseOf ((o.value? 's').getD ""))))
      | false, [path] => .sending call (asLines [baseOf "" path])
      | false, [path, ending] => .sending call (asLines [baseOf ending path])
      | false, _ :: _ :: extra :: _ => .misused call 1 ("extra operand " ++ quoted extra)

def dirOf (path : String) : String :=
  let bare := (path.toList.reverse.dropWhile (· = '/'))
  let above := (bare.dropWhile (· ≠ '/')).dropWhile (· = '/')
  if !above.isEmpty then String.ofList above.reverse
  else if path.startsWith "/" then "/"
  else "."

def dirname (call : Call) : Effect :=
  call.withOptions 1 { flags := "z".toList } fun o =>
    if o.operands.isEmpty then .misused call 1 "missing operand"
    else .sending call (asLines (o.operands.map dirOf))

-- ======== system

def printenv (call : Call) : Effect :=
  if call.args.isEmpty then
    .sending call (asLines (call.environment.map fun (name, value) => name ++ "=" ++ value))
  else
    let found := call.args.filterMap fun name => call.environment.lookup name
    { Effect.sending call (asLines found) with
      status := if found.length < call.args.length then 1 else 0 }

def uname (call : Call) : Effect :=
  call.withOptions 1 { flags := "asnrvmpio".toList } fun o =>
    let parts := [('s', "Linux"), ('n', "localhost"), ('m', "x86_64"), ('o', "GNU/Linux")]
    let wanted := parts.filter fun (letter, _) => o.has 'a' || o.has letter
    let wanted := if wanted.isEmpty then ["Linux"] else wanted.map Prod.snd
    .sending call (asLines [" ".intercalate wanted])

def identity (call : Call) : Effect :=
  call.withOptions 1 { flags := "ugnrG".toList } fun o =>
    if o.has 'u' || o.has 'g' || o.has 'G' then
      .sending call (asLines [if o.has 'n' then "root" else "0"])
    else .sending call (asLines ["uid=0(root) gid=0(root) groups=0(root)"])

/-- A time in milliseconds: a number, with a letter behind it for what it counts. -/
def readTime? (text : String) : Option Nat :=
  let unit := match text.toList.getLast? with
    | some 's' => some 1
    | some 'm' => some 60
    | some 'h' => some 3600
    | some 'd' => some 86400
    | _ => none
  let number := if unit.isSome then String.ofList text.toList.dropLast else text
  if number = "inf" ∨ number = "infinity" then some (10 ^ 15)
  else
    match Decimal.read? number with
    | some d =>
      if d.value < 0 then none
      else some ((d.value.toNat * 1000 * unit.getD 1) / 10 ^ d.places)
    | none => none

def sleep (call : Call) : Effect :=
  call.withOptions 1 {} fun o =>
    match o.operands.find? fun t => (readTime? t).isNone, o.operands with
    | _, [] => .misused call 1 "missing operand"
    | some bad, _ => .misused call 1 ("invalid time interval " ++ quoted bad)
    | none, times => { disk := call.disk, elapsed := (times.filterMap readTime?).sum }

def pipeCapacity : Nat := 65536

def yes (call : Call) : Effect :=
  let line := bytesOf ((if call.args.isEmpty then "y" else " ".intercalate call.args) ++ "\n")
  let count := 2 * pipeCapacity / line.length + 1
  { writes := [(1, (List.replicate count line).flatten)], signal := some 13, disk := call.disk }

def saying (text : String) (status : Nat := 0) (call : Call) : Effect :=
  { Effect.sending call (asLines [text]) with status }

def nproc (call : Call) : Effect :=
  call.withOptions 1
    { valuedLong := ['i'], long := [("all", 'a'), ("ignore", 'i')] } fun o =>
    match o.operands, (o.value? 'i').map fun t => (t, decimal? t) with
    | extra :: _, _ => .misused call 1 ("extra operand " ++ quoted extra)
    | [], some (text, none) => .complaining call 1 ("invalid number: " ++ quoted text)
    | [], _ => saying "1" 0 call

def logname (call : Call) : Effect :=
  call.withOptions 1 {} fun o =>
    match o.operands with
    | [] => .complaining call 1 "no login name"
    | extra :: _ => .misused call 1 ("extra operand " ++ quoted extra)

def groups (call : Call) : Effect :=
  call.withOptions 1 {} fun o =>
    if o.operands.isEmpty then saying "root" 0 call
    else
      o.operands.foldl
        (fun (effect : Effect) name =>
          if name = "root" then effect.send (asLines ["root : root"])
          else effect.complain call 1 (quoted name ++ ": no such user"))
        { disk := call.disk }

def ending (status : Nat) (call : Call) : Effect :=
  { status, disk := call.disk }

/-- Writes the current directory, by the path it was entered by if that is asked for. -/
def pwd (call : Call) : Effect :=
  call.withOptions 1 { flags := "LP".toList, long := [("logical", 'L'), ("physical", 'P')] }
    fun o =>
    let start : Effect := { disk := call.disk }
    let start := if o.operands.isEmpty then start
      else start.complain call 0 "ignoring non-option arguments"
    let entered := (call.environment.lookup "PWD").filter fun (path : String) =>
      path.startsWith "/" && o.last? ['L', 'P'] = some 'L' &&
        ((placeOf call.disk path).toOption.map Prod.fst) = some call.disk.here
    start.send (asLines [entered.getD (pack ("/" ++ "/".intercalate call.disk.here))])

end PageScript.Shell.Program

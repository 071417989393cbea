/-
How scripts that work through records are called: options, the script, and its arguments.
-/
import PageScript.Shell.Records.Eval
import PageScript.Shell.Records.Rules

namespace PageScript.Shell.Records

/-- What a script is called with. -/
structure Invocation where
  divider : Option String := none
  assignments : List (String × String) := []
  /-- The files that hold the script. -/
  files : List String := []
  operands : List String := []
  /-- Whether only the usage is asked for. -/
  usage : Bool := false
  deriving Repr, DecidableEq, Inhabited

def usageText : String :=
  "\n".intercalate
    ["Usage: mawk [Options] [Program] [file ...]", "", "Program:",
      "    The -f option value is the name of a file containing program text.",
      "    If no -f option is given, a \"--\" ends option processing; the following",
      "    parameters are the program text.", "", "Options:",
      "    -f program-file  Program  text is read from file instead of from the",
      "                     command-line.  Multiple -f options are accepted.",
      "    -F value         sets the field separator, FS, to value.",
      "    -v var=value     assigns value to program variable var.",
      "    --               unambiguous end of options.", "",
      "    Implementation-specific options are prefixed with \"-W\".  They can be",
      "    abbreviated:", "", "    -W version       show version information and exit.",
      "    -W compat        pre-POSIX 2001.",
      "    -W dump          show assembler-like listing of program and exit.",
      "    -W help          show this message and exit.",
      "    -W interactive   set unbuffered output, line-buffered input.",
      "    -W exec file     use file as program as well as last option.",
      "    -W posix         stricter POSIX checking.",
      "    -W random=number set initial random seed.",
      "    -W sprintf=number adjust size of sprintf buffer.",
      "    -W usage         show this message and exit."] ++ "\n"

/-- Reads what a script is called with, or what is wrong with it; each argument takes one of
`fuel`. -/
def readInvocation : (fuel : Nat) → Invocation → List String → Except String Invocation
  | 0, i, args => .ok { i with operands := args }
  | _, i, [] => .ok i
  | fuel + 1, i, arg :: rest =>
    let option (letter : Char) (value : String) (rest : List String) :
        Except String Invocation :=
      match letter with
      | 'F' => readInvocation fuel { i with divider := some (unescape value) } rest
      | 'f' => readInvocation fuel { i with files := i.files ++ [value] } rest
      | 'v' =>
        match Run.assignment? value with
        | some (name, text) =>
          let assignments := i.assignments ++ [(name, unescape text)]
          readInvocation fuel { i with assignments } rest
        | none => .error ("improper assignment: -v " ++ value)
      | _ => readInvocation fuel i rest
    match arg.toList with
    | ['-', '-'] => .ok { i with operands := rest }
    | '-' :: letter :: inner =>
      if ['F', 'f', 'v', 'W'].contains letter then
        match inner, rest with
        | [], [] => .error ("option -" ++ letter.toString ++ " lacks argument")
        | [], value :: rest =>
          if letter = 'W' ∧ (value.startsWith "h" ∨ value.startsWith "u") then
            .ok { i with usage := true }
          else option letter value rest
        | inner, rest => option letter (String.ofList inner) rest
      else if arg = "--help" ∨ arg = "--usage" then .ok { i with usage := true }
      else .error ("not an option: " ++ arg)
    | _ => .ok { i with operands := arg :: rest }

def Machine.ofCall (script : Script) (i : Invocation) (operands : List String) (call : Call) :
    Machine :=
  let table (entries : List (String × String)) : Table :=
    entries.foldl (fun t (k, v) => (t.touchText k true).set k (.given v)) {}
  let args := (call.name :: operands).zipIdx.map fun (arg, n) => (Number.natText n, arg)
  let texts : List (String × String) :=
    [("CONVFMT", "%.6g"), ("FILENAME", ""), ("FS", i.divider.getD " "), ("OFMT", "%.6g"),
      ("OFS", " "), ("ORS", "\n"), ("RS", "\n"), ("SUBSEP", "\x1C")]
  let counts : List (String × Nat) :=
    [("ARGC", args.length), ("FNR", 0), ("NR", 0), ("RLENGTH", 0), ("RSTART", 0)]
  let globals : List (String × Slot) :=
    (texts.map fun (n, v) => (n, .value (.text v))) ++
      (counts.map fun (n, v) => (n, .value (.ofNat v))) ++
      [("ARGV", .table 0), ("ENVIRON", .table 1)]
  { script
    globals := i.assignments.foldl
      (fun names (n, v) => Run.entered names n (.value (.given v))) globals
    tables := #[table args, table call.environment] }

/-- The script that a call names, with the arguments that are left for it; or what is wrong with
the call. -/
def Invocation.script (i : Invocation) (call : Call) :
    Except (List String) (Script × List String) := do
  let parse (text : String) : Except (List String) Script :=
    (Script.parse text).mapError fun faults => faults.map ScriptFault.text
  match i.files, i.operands with
  | [], [] => return ({}, [])
  | [], text :: operands => return (← parse text, operands)
  | files, operands =>
    let texts ← files.mapM fun file =>
      match call.fetch file with
      | .ok bytes => .ok (ofBytes bytes)
      | .error e => .error ["cannot open \"" ++ file ++ "\" (" ++ reason e ++ ")"]
    return (← parse ("\n".intercalate texts), operands)

/-- What a call asks for: a text to write, complaints, or a script to run. -/
inductive Request where
  /-- How the program is to be called, and the stream that it is told on. -/
  | usage (stream : Nat)
  | complaints (texts : List String)
  | run (start : Machine)

def request (call : Call) : Request :=
  if call.args.isEmpty then .usage 2
  else
    match readInvocation (call.args.length + 1) {} call.args with
    | .error text => .complaints [text]
    | .ok i =>
      if i.usage then .usage 1
      else
        match i.script call with
        | .error texts => .complaints texts
        | .ok (script, operands) => .run (.ofCall script i operands call)

end PageScript.Shell.Records

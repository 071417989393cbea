/-
Programs: what they are called with, and what they leave behind.

A program gets its arguments, its standard input, its environment and the disk. It leaves a status,
what it wrote to its streams in the order of writing, and the disk as it has become. Bytes are kept
as bytes, since what programs write need not be text.
-/
import PageScript.Disk
import PageScript.Shell.Quotation

namespace PageScript.Shell

/-- What a program is called with. -/
structure Call where
  /-- What the program was called. -/
  name : String
  /-- What stands in front of complaints. -/
  label : String := name ++ ": "
  args : List String := []
  input : Stream := []
  /-- Whether the input is a file on the disk. -/
  fromFile : Bool := false
  environment : List (String × String) := []
  disk : Disk
  deriving Inhabited

/-- What a program leaves behind. -/
structure Effect where
  status : Nat := 0
  /-- What was written to which stream. -/
  writes : List (Nat × Stream) := []
  /-- What is left of the input, if the program has read from it. -/
  rest : Option Stream := none
  /-- The time the program took, in milliseconds. -/
  elapsed : Nat := 0
  /-- The signal that has ended the program. -/
  signal : Option Nat := none
  disk : Disk
  deriving Inhabited

namespace Effect

def writing (call : Call) (text : String) : Effect :=
  { writes := [(1, bytesOf text)], disk := call.disk }

def sending (call : Call) (bytes : Stream) : Effect :=
  { writes := [(1, bytes)], disk := call.disk }

def complaining (call : Call) (status : Nat) (text : String) : Effect :=
  { status, writes := [(2, bytesOf (call.label ++ text ++ "\n"))], disk := call.disk }

def misused (call : Call) (status : Nat) (text : String) : Effect :=
  complaining call status
    (text ++ "\nTry '" ++ call.name ++ " --help' for more information.")

def answering (call : Call) (holds : Bool) : Effect :=
  { status := if holds then 0 else 1, disk := call.disk }

def send (e : Effect) (bytes : Stream) : Effect :=
  { e with writes := e.writes ++ [(1, bytes)] }

/-- A complaint on top of what a program has written; the status gets at least as bad. -/
def complain (e : Effect) (call : Call) (status : Nat) (text : String) : Effect :=
  { e with
    status := max e.status status
    writes := e.writes ++ [(2, bytesOf (call.label ++ text ++ "\n"))] }

/-- Writes bytes to a file in place of what it holds, on top of what a program has written. -/
def store (e : Effect) (file : String) (bytes : Stream) : Except IoError Effect :=
  match e.disk.find (pathOf file) with
  | .ok (.device (.stream n)) => .ok { e with writes := e.writes ++ [(n, bytes)] }
  | _ => (e.disk.write (pathOf file) bytes).map fun disk => { e with disk }

end Effect

def reason (e : IoError) : String :=
  (e.message.splitOn " (os error").headD ""

namespace Call

def isInput (call : Call) (file : String) : Bool :=
  file = "-" ||
    match call.disk.find (pathOf file) with
    | .ok (.device (.stream 0)) => true
    | _ => false

def fetch (call : Call) (file : String) : Except IoError Stream :=
  if call.isInput file then .ok call.input else call.disk.read (pathOf file)

/-- The bytes of a file, or what is left of the input, which is then read to its end. -/
def take (call : Call) (effect : Effect) (file : String) : Except IoError (Stream × Effect) :=
  if call.isInput file then .ok (effect.rest.getD call.input, { effect with rest := some [] })
  else (call.disk.read (pathOf file)).map fun bytes => (bytes, effect)

/-- Does something with one file after the other, and complains about those that cannot be read
when their turn comes. -/
def feed {σ : Type} (call : Call) (files : List String) (start : σ)
    (step : σ → String → Stream → Effect → σ × Effect) (status : Nat := 1)
    (wording : String → IoError → String := fun file e => nameText file ++ ": " ++ reason e) :
    σ × Effect :=
  let files := if files.isEmpty then ["-"] else files
  files.foldl
    (fun (state, effect) file =>
      match call.take effect file with
      | .ok (bytes, effect) => step state file bytes effect
      | .error e => (state, effect.complain call status (wording file e)))
    (start, { disk := call.disk })

/-- The files named by operands with their bytes, and complaints about those that cannot be read.
Without any names, it is the input. -/
def inputs (call : Call) (files : List String) (status : Nat := 1)
    (wording : String → IoError → String := fun file e => nameText file ++ ": " ++ reason e) :
    List (String × Stream) × Effect :=
  call.feed files [] (fun found file bytes effect => (found ++ [(file, bytes)], effect)) status wording

def feedEach (call : Call) (files : List String) (f : String → Stream → Stream)
    (status : Nat := 1)
    (wording : String → IoError → String := fun file e => nameText file ++ ": " ++ reason e) :
    Effect :=
  (call.feed files () (fun _ file bytes effect => ((), effect.send (f file bytes))) status wording).2

/-- Rewrites files as one text. What is known of it is written before each complaint. -/
def feedAll (call : Call) (files : List String) (f : Stream → Stream) (status : Nat := 1)
    (wording : String → IoError → String := fun file e => nameText file ++ ": " ++ reason e) :
    Effect :=
  let files := if files.isEmpty then ["-"] else files
  let flush (text : Stream) (sent : Nat) (effect : Effect) : Nat × Effect :=
    let bytes := f text
    (bytes.length, effect.send (bytes.drop sent))
  let (text, sent, effect) := files.foldl
    (fun (text, sent, effect) file =>
      match call.take effect file with
      | .ok (bytes, effect) => (text ++ bytes, sent, effect)
      | .error e =>
        let (sent, effect) := flush text sent effect
        (text, sent, effect.complain call status (wording file e)))
    (([], 0, { disk := call.disk }) : Stream × Nat × Effect)
  (flush text sent effect).2

def gathered (call : Call) (files : List String) (status : Nat := 1)
    (wording : String → IoError → String := fun file e => nameText file ++ ": " ++ reason e) :
    Stream × Effect :=
  let (found, effect) := call.inputs files status wording
  ((found.map Prod.snd).flatten, effect)

end Call

-- ======== options

/-- The options that a program knows: letters, letters that take a value, and long names for
letters. -/
structure OptionSet where
  flags : List Char := []
  valued : List Char := []
  /-- Letters that take a value and stand for long names only. -/
  valuedLong : List Char := []
  long : List (String × Char) := []
  /-- Whether the first operand ends the options. -/
  ordered : Bool := false

/-- The options and operands that a program is called with. -/
structure Options where
  given : List (Char × String) := []
  operands : List String := []
  deriving Repr, DecidableEq, Inhabited

namespace Options

def has (o : Options) (letter : Char) : Bool :=
  o.given.any fun g => g.1 = letter

def values (o : Options) (letter : Char) : List String :=
  (o.given.filter fun g => g.1 = letter).map Prod.snd

def value? (o : Options) (letter : Char) : Option String :=
  (o.values letter).getLast?

def last? (o : Options) (letters : List Char) : Option Char :=
  (o.given.filter fun g => letters.contains g.1).getLast?.map Prod.fst

/-- The byte that ends lines: none of a text if the option for that is given. -/
def mark (o : Options) : UInt8 :=
  if o.has 'z' then 0 else lineFeed

def give (o : Options) (letter : Char) (value : String := "") : Options :=
  { o with given := (letter, value) :: o.given }

end Options

/-- What is wrong with options. -/
inductive OptionFault where
  | unknown (letter : Char)
  | missing (letter : Char)
  | unknownLong (arg : String)
  | ambiguous (arg : String) (names : List String)
  | missingLong (name : String)
  | extraLong (name : String)
  deriving Repr, DecidableEq, Inhabited

def OptionFault.message : OptionFault → String
  | .unknown letter => "invalid option -- " ++ ticked letter.toString
  | .missing letter => "option requires an argument -- " ++ ticked letter.toString
  | .unknownLong arg => "unrecognized option " ++ ticked arg
  | .ambiguous arg names =>
    "option " ++ ticked arg ++ " is ambiguous; possibilities:" ++
      String.join (names.map fun name => " " ++ ticked ("--" ++ name))
  | .missingLong name => "option " ++ ticked ("--" ++ name) ++ " requires an argument"
  | .extraLong name => "option " ++ ticked ("--" ++ name) ++ " doesn't allow an argument"

namespace OptionSet

/-- The options that a long name stands for, or else those whose names start with it. There are
several only if they are not the same. -/
def longs (s : OptionSet) (name : String) : List (String × Char) :=
  match s.long.find? fun l => l.1 = name with
  | some found => [found]
  | none =>
    match s.long.filter fun l => l.1.startsWith name with
    | found :: others => if others.all fun l => l.2 = found.2 then [found] else found :: others
    | [] => []

/-- Reads letters behind a dash: the options, and the one whose value is still awaited. -/
def readLetters (s : OptionSet) :
    List Char → Except OptionFault (List (Char × String) × Option Char)
  | [] => .ok ([], none)
  | c :: rest =>
    if s.valued.contains c then
      .ok (if rest.isEmpty then ([], some c) else ([(c, String.ofList rest)], none))
    else if s.flags.contains c then do
      let (options, awaited) ← readLetters s rest
      return ((c, "") :: options, awaited)
    else .error (.unknown c)

def readLong (s : OptionSet) (text : List Char) :
    Except OptionFault (List (Char × String) × Option (Char × String)) :=
  let name := String.ofList (text.takeWhile (· ≠ '='))
  let value := text.dropWhile (· ≠ '=')
  match s.longs name with
  | [] => .error (.unknownLong ("--" ++ String.ofList text))
  | found :: other :: others =>
    .error (.ambiguous ("--" ++ String.ofList text) ((found :: other :: others).map Prod.fst))
  | [(name, c)] =>
    match s.valued.contains c || s.valuedLong.contains c, value with
    | true, [] => .ok ([], some (c, name))
    | true, _ :: value => .ok ([(c, String.ofList value)], none)
    | false, [] => .ok ([(c, "")], none)
    | false, _ :: _ => .error (.extraLong name)

/-- Parts options from operands. An option is a letter behind a dash; letters can stand together,
and one that takes a value finds it behind itself or in the next argument, where it is then
`awaited`, the long name that it was called by beside it. Two dashes end the options. -/
def readFrom (s : OptionSet) (awaited : Option (Char × String)) :
    List String → Except OptionFault Options
  | [] =>
    match awaited with
    | some (c, "") => .error (.missing c)
    | some (_, name) => .error (.missingLong name)
    | none => .ok {}
  | arg :: rest =>
    match awaited, arg.toList with
    | some (c, _), _ => do return (← s.readFrom none rest).give c arg
    | none, ['-', '-'] => .ok { operands := rest }
    | none, '-' :: '-' :: text => do
      let (options, awaited) ← s.readLong text
      let o ← s.readFrom awaited rest
      return { o with given := options ++ o.given }
    | none, '-' :: letter :: letters => do
      let (options, awaited) ← s.readLetters (letter :: letters)
      let o ← s.readFrom (awaited.map (·, "")) rest
      return { o with given := options ++ o.given }
    | none, _ =>
      if s.ordered then .ok { operands := arg :: rest }
      else do
        let o ← s.readFrom none rest
        return { o with operands := arg :: o.operands }

def read (s : OptionSet) (args : List String) : Except OptionFault Options :=
  s.readFrom none args

end OptionSet

/-- A program that reads its options first, and ends with a status if there is something wrong with
them. -/
def Call.withOptions (call : Call) (status : Nat) (set : OptionSet) (body : Options → Effect) :
    Effect :=
  match set.read call.args with
  | .ok options => body options
  | .error e => .misused call status e.message

/-- The word of a list that the value of an option names, by itself or by its start, or what is
wrong with it. -/
def chosen (option : String) (known : List String) (value : String) : Except String String :=
  let list := String.join (known.map fun k => "\n  - " ++ quoted k)
  match known.find? (· = value), known.filter fun k => k.startsWith value with
  | some k, _ | none, [k] => .ok k
  | none, [] =>
    .error ("invalid argument " ++ quoted value ++ " for " ++ quoted ("--" ++ option) ++
      "\nValid arguments are:" ++ list)
  | none, _ =>
    .error ("ambiguous argument " ++ quoted value ++ " for " ++ quoted ("--" ++ option) ++
      "\nValid arguments are:" ++ list)

/-- Arguments in which a number behind a dash that comes first is the value of an option. -/
def expandCount (letter : Char) : List String → List String
  | arg :: rest =>
    match arg.toList with
    | '-' :: d :: ds =>
      if d.isDigit then String.ofList ['-', letter] :: String.ofList (d :: ds) :: rest
      else arg :: rest
    | _ => arg :: rest
  | [] => []

end PageScript.Shell

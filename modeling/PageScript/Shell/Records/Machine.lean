/-
The state of a script that works through records.

The surroundings of a script are the files and commands that it reads from and writes to; a script
knows them only by what it can ask of them. What is written to the standard output waits until
another program could write there too.
-/
import PageScript.Shell.Program.Basic
import PageScript.Shell.Records.Script
import PageScript.Shell.Records.Table
import PageScript.Shell.Records.Token

namespace PageScript.Shell.Records

/-- What a script can ask of its surroundings. -/
structure Surroundings (m : Type → Type) where
  /-- All that is left of the standard input. -/
  input : m Stream
  read : String → m (Except IoError Stream)
  /-- Writes a file, anew or at its end. -/
  write : (append : Bool) → String → Stream → m (Except IoError Unit)
  /-- Writes to the standard output or to the complaints. -/
  emit : Nat → Stream → m Unit
  /-- Runs a command, on an input of its own if there is one; the status with 256 and a signal for
  one that was killed. -/
  run : String → Option Stream → m Nat
  /-- Runs a command for what it writes. -/
  capture : String → m (Stream × Nat)

/-- What a name stands for. -/
inductive Slot where
  | value (v : Value)
  | table (id : Nat)
  /-- A value that nobody has given yet, or a table that nobody has used yet. -/
  | either (id : Nat)
  | fresh
  deriving Inhabited

/-- Something that can be assigned to, found. -/
inductive Spot where
  | named (name : String)
  | field (n : Nat)
  | cell (id : Nat) (key : String)
  deriving Repr, DecidableEq, Inhabited

/-- Lines that are being read: what is left of them, and the status of the command that they come
from. -/
structure Reader where
  rest : List Char
  status : Option Nat := none
  deriving Inhabited

/-- Output that is being written. -/
structure Writer where
  direction : Direction
  /-- What was written for a command, the latest first. -/
  pending : List Stream := []
  deriving Inhabited

/-- The state of a script. -/
structure Machine where
  script : Script
  globals : List (String × Slot) := []
  /-- The names of the function that runs, if one does. -/
  locals : Option (List (String × Slot)) := none
  tables : Array Table := #[]
  record : String := ""
  fields : Array Value := #[]
  /-- What is left of the file that records are read from. -/
  input : Option (List Char) := none
  /-- The next one of the arguments. -/
  nextArg : Nat := 1
  /-- Whether records have been read from somewhere. -/
  started : Bool := false
  readers : List (String × Reader) := []
  writers : List (String × Writer) := []
  /-- What was written to the standard output, the latest first. -/
  pending : List Stream := []
  /-- The rules whose range has begun. -/
  ranges : List Nat := []
  status : Nat := 0
  deriving Inhabited

/-- Why a script does not go on with the next statement. -/
inductive Halt where
  | next
  | nextFile
  | exit
  | give (v : Value)
  | leave
  | again
  /-- Something is wrong, which ends the script. -/
  | fault (message : String)
  /-- A file cannot be opened. -/
  | refused (message : String)
  | unfinished
  deriving Inhabited

abbrev Run (m : Type → Type) := ExceptT Halt (StateT Machine m)

namespace Run

variable {m : Type → Type} [Monad m]

def caught {α : Type} (body : Run m α) : Run m (Except Halt α) :=
  ExceptT.mk do return .ok (← body.run)

def ask {α : Type} (question : m α) : Run m α :=
  ExceptT.lift (StateT.lift question)

-- ======== names

def slot (name : String) : Run m Slot := do
  let s ← get
  return (s.locals.bind fun names => names.lookup name) <|> s.globals.lookup name |>.getD .fresh

def entered (names : List (String × Slot)) (name : String) (slot : Slot) :
    List (String × Slot) :=
  match names with
  | [] => [(name, slot)]
  | (n, old) :: rest =>
    if n = name then (n, slot) :: rest else (n, old) :: entered rest name slot

def setSlot (name : String) (slot : Slot) : Run m Unit :=
  modify fun s =>
    match s.locals with
    | some names =>
      if (names.lookup name).isSome then { s with locals := some (entered names name slot) }
      else { s with globals := entered s.globals name slot }
    | none => { s with globals := entered s.globals name slot }

def newTable (t : Table := {}) : Run m Nat := do
  let s ← get
  set { s with tables := s.tables.push t }
  return s.tables.size

def tableOf (name : String) : Run m Nat := do
  match ← slot name with
  | .table id => return id
  | .either id =>
    setSlot name (.table id)
    return id
  | _ =>
    let id ← newTable
    setSlot name (.table id)
    return id

def table (id : Nat) : Run m Table :=
  return (← get).tables.getD id {}

def setTable (id : Nat) (t : Table) : Run m Unit :=
  modify fun s => { s with tables := s.tables.setIfInBounds id t }

def global (name : String) : Run m Value := do
  match (← get).globals.lookup name with
  | some (.value v) => return v
  | _ => return .absent

def setGlobal (name : String) (v : Value) : Run m Unit :=
  modify fun s => { s with globals := entered s.globals name (.value v) }

def conversion : Run m String :=
  return (← global "CONVFMT").toText "%.6g"

def textOf (v : Value) : Run m String := do
  match v with
  | .number x =>
    match wholeText? x with
    | some s => return s
    | none => return v.toText (← conversion)
  | v => return v.toText ""

-- ======== fields

/-- How a text is divided. -/
inductive Divider where
  | blanks
  | characters
  | one (c : Char)
  | expression (r : Regex)

def expressionOf (source : String) : Run m Regex :=
  match Expression.read source.toList with
  | .ok r => return r
  | .error e =>
    throw (.fault ("regular expression compile failed (" ++ e.message ++ ")\n" ++ source))

def dividerOf (s : String) : Run m Divider := do
  match s.toList with
  | [] => return .characters
  | [' '] => return .blanks
  | [c] => return .one c
  | _ => return .expression (← expressionOf s)

/-- The parts of a text between matches of an expression, from a place on; each takes one of
`fuel`. Matches of nothing do not divide. -/
def partsFrom (r : Regex) (text : Array Char) : (fuel start place : Nat) → List String
  | 0, start, _ => [String.ofList (text.extract start text.size).toList]
  | fuel + 1, start, place =>
    match r.find? text place with
    | none => [String.ofList (text.extract start text.size).toList]
    | some found =>
      if found.way.place = found.start then
        if found.start < text.size then partsFrom r text fuel start (found.start + 1)
        else [String.ofList (text.extract start text.size).toList]
      else
        String.ofList (text.extract start found.start).toList ::
          partsFrom r text fuel found.way.place found.way.place

/-- The words of a text; each character takes one of `fuel`. -/
def wordsOf : (fuel : Nat) → List Char → List String
  | 0, _ => []
  | fuel + 1, cs =>
    let isBlank (c : Char) : Bool := c = ' ' || c = '\t' || c = '\n'
    let cs := cs.dropWhile isBlank
    if cs.isEmpty then []
    else String.ofList (cs.takeWhile (!isBlank ·)) :: wordsOf fuel (cs.dropWhile (!isBlank ·))

def Divider.divide (d : Divider) (s : String) : List String :=
  if s = "" then []
  else
    match d with
    | .blanks => wordsOf (s.length + 1) s.toList
    | .characters => s.toList.map Char.toString
    | .one c => (Text.splitOn c s.toList).map String.ofList
    | .expression r =>
      let text := s.toList.toArray
      partsFrom r text (text.size + 2) 0 0

def setRecord (s : String) : Run m Unit := do
  let d ← dividerOf (← textOf (← global "FS"))
  modify fun machine =>
    { machine with record := s, fields := ((d.divide s).map Value.given).toArray }

def record : Run m String :=
  return (← get).record

/-- A field; number 0 is the record. -/
def field (n : Nat) : Run m Value := do
  let s ← get
  return if n = 0 then .given s.record else s.fields.getD (n - 1) .absent

def setFields (fields : Array Value) : Run m Unit := do
  let between ← textOf (← global "OFS")
  let texts ← fields.toList.mapM textOf
  modify fun s => { s with fields, record := between.intercalate texts }

def extended (fields : Array Value) (n : Nat) : Array Value :=
  fields ++ Array.replicate (n - fields.size) (.text "")

def setFieldCount (n : Nat) : Run m Unit := do
  setFields (extended ((← get).fields.extract 0 n) n)

def setField (n : Nat) (v : Value) : Run m Unit := do
  if n = 0 then setRecord (← textOf v)
  else setFields ((extended (← get).fields n).setIfInBounds (n - 1) v)

-- ======== values

def named (name : String) : Run m Value := do
  let s ← get
  match s.locals.bind fun names => names.lookup name with
  | some (.value v) => return v
  | some _ => return .absent
  | none =>
    if name = "NF" then return .ofNat s.fields.size
    match s.globals.lookup name with
    | some (.value v) => return v
    | _ => return .absent

def setNamed (name : String) (v : Value) : Run m Unit := do
  let isLocal := (((← get).locals.bind fun names => names.lookup name)).isSome
  if name = "NF" && !isLocal then setFieldCount (integerOf v.toNumber).toNat
  else setSlot name (.value v)

def value (spot : Spot) : Run m Value := do
  match spot with
  | .named name => named name
  | .field n => field n
  | .cell id key => return ((← table id).get? key).getD .absent

def setValue (spot : Spot) (v : Value) : Run m Unit := do
  match spot with
  | .named name => setNamed name v
  | .field n => setField n v
  | .cell id key => setTable id ((← table id).set key v)

/-- A value as a key: its text, and the whole number that it is, if it is one. -/
def keyOf (v : Value) : Run m (String × Option Int) := do
  let whole := match v with
    | .number x => (Number.whole? x).bind fun n =>
        if -2 ^ 63 < n ∧ n < 2 ^ 63 then some n else none
    | _ => none
  return (← textOf v, whole)

-- ======== output

variable (w : Surroundings m)

def flush : Run m Unit := do
  let bytes := (← get).pending.reverse.flatten
  modify fun s => { s with pending := [] }
  if !bytes.isEmpty then ask (w.emit 1 bytes)

def put (text : String) : Run m Unit :=
  modify fun s => { s with pending := bytesOf text :: s.pending }

def putTo (direction : Direction) (name text : String) : Run m Unit := do
  match direction, name with
  | .command, _ =>
    if ((← get).writers.lookup name).isNone then
      flush w
      modify fun s => { s with writers := s.writers ++ [(name, { direction })] }
    modify fun s =>
      { s with writers := s.writers.map fun (n, writer) =>
          if n = name then (n, { writer with pending := bytesOf text :: writer.pending })
          else (n, writer) }
  | _, "/dev/stdout" | _, "-" => put text
  | _, "/dev/stderr" => ask (w.emit 2 (bytesOf text))
  | _, _ =>
    let known := ((← get).writers.lookup name).isSome
    match ← ask (w.write (known || direction = .append) name (bytesOf text)) with
    | .ok _ =>
      if !known then modify fun s => { s with writers := s.writers ++ [(name, { direction })] }
    | .error e =>
      throw (.refused ("cannot open \"" ++ name ++ "\" for output (" ++ reason e ++ ")"))

/-- Closes what is read from or written to under a name, and gives the status of it. -/
def close (name : String) : Run m Int := do
  let s ← get
  set { s with
    writers := s.writers.filter fun e => e.1 ≠ name
    readers := s.readers.filter fun e => e.1 ≠ name }
  match s.writers.lookup name, s.readers.lookup name with
  | some writer, _ =>
    if writer.direction = .command then
      flush w
      return (← ask (w.run name (some writer.pending.reverse.flatten)))
    return 0
  | none, some reader => return (reader.status.getD 0)
  | none, none => return -1

def closeAll : Run m Unit := do
  for (name, writer) in (← get).writers do
    if writer.direction = .command then
      let _ ← ask (w.run name (some writer.pending.reverse.flatten))
  modify fun s => { s with writers := [] }
  flush w

-- ======== input

/-- How records end. -/
inductive Ending where
  | one (c : Char)
  | emptyLines
  | expression (r : Regex)

def ending : Run m Ending := do
  let s ← textOf (← global "RS")
  match s.toList with
  | [] => return .emptyLines
  | [c] => return .one c
  | _ => return .expression (← expressionOf s)

/-- The first record of a text, and what is left of it; none if there is nothing. -/
def Ending.first? (e : Ending) (cs : List Char) : Option (String × List Char) :=
  match e with
  | .one c =>
    if cs.isEmpty then none
    else
      let front := cs.takeWhile (· ≠ c)
      some (String.ofList front, cs.drop (front.length + 1))
  | .emptyLines =>
    let cs := cs.dropWhile (· = '\n')
    if cs.isEmpty then none
    else
      let (front, rest) := paragraph cs
      some (String.ofList front, rest)
  | .expression r =>
    if cs.isEmpty then none
    else
      let text := cs.toArray
      match (r.find? text).filter fun found => found.start < found.way.place with
      | some found =>
        some (String.ofList (text.extract 0 found.start).toList, cs.drop found.way.place)
      | none => some (String.ofList cs, [])
where
  /-- The lines up to an empty one, and what follows it. -/
  paragraph : List Char → List Char × List Char
    | [] => ([], [])
    | '\n' :: '\n' :: rest => ([], rest.dropWhile (· = '\n'))
    | ['\n'] => ([], [])
    | c :: rest =>
      let (front, left) := paragraph rest
      (c :: front, left)

def assignment? (arg : String) : Option (String × String) :=
  let name := arg.toList.takeWhile fun c => startsName c || c.isDigit
  match name, arg.toList.drop name.length with
  | c :: _, '=' :: value =>
    if startsName c then some (String.ofList name, String.ofList value) else none
  | _, _ => none

/-- Begins with the next file that is named by the arguments, or with the standard input if none
is; tells whether there is one. Each argument takes one of `fuel`. -/
def openNext : (fuel : Nat) → Run m Bool
  | 0 => return false
  | fuel + 1 => do
    let s ← get
    let count := (integerOf (← global "ARGC").toNumber).toNat
    let start (name : String) (bytes : Stream) : Run m Unit := do
      modify fun s => { s with input := some (toChars bytes), started := true }
      setGlobal "FILENAME" (.text name)
      setGlobal "FNR" (.number 0)
    if count ≤ s.nextArg then
      if s.started then return false
      start "-" (← ask w.input)
      return true
    else
      set { s with nextArg := s.nextArg + 1 }
      let id ← tableOf "ARGV"
      let arg ← textOf (((← table id).get? (Number.natText s.nextArg)).getD .absent)
      if arg = "" then openNext fuel
      else
        match assignment? arg with
        | some (name, value) =>
          setNamed name (.given (unescape value))
          openNext fuel
        | none =>
          if arg = "-" then
            start "-" (← ask w.input)
            return true
          match ← ask (w.read arg) with
          | .ok bytes =>
            start arg bytes
            return true
          | .error .isDirectory => throw (.refused "read error (Is a directory)")
          | .error e => throw (.refused ("cannot open \"" ++ arg ++ "\" (" ++ reason e ++ ")"))

/-- The next record of the input; each file takes one of `fuel`. -/
def nextRecord : (fuel : Nat) → Run m (Option String)
  | 0 => return none
  | fuel + 1 => do
    match (← get).input with
    | some cs =>
      match (← ending).first? cs with
      | some (line, rest) =>
        modify fun s => { s with input := some rest }
        return some line
      | none =>
        modify fun s => { s with input := none }
        nextRecord fuel
    | none =>
      let files := (integerOf (← global "ARGC").toNumber).toNat
      if ← openNext w (files + 2) then nextRecord fuel else return none

def mainRecord : Run m (Option String) := do
  nextRecord w (2 * (integerOf (← global "ARGC").toNumber).toNat + 4)

def countRecord (inFile : Bool) : Run m Unit := do
  setGlobal "NR" (.number ((← global "NR").toNumber + 1))
  if inFile then setGlobal "FNR" (.number ((← global "FNR").toNumber + 1))

/-- The next line of what is read under a name; none if there is nothing more. -/
def readFrom (name : String) : Run m (Option String) := do
  match (← get).readers.lookup name with
  | none => return none
  | some reader =>
    match (← ending).first? reader.rest with
    | none => return none
    | some (line, rest) =>
      modify fun s =>
        { s with readers := s.readers.map fun (n, r) =>
            if n = name then (n, { r with rest }) else (n, r) }
      return some line

/-- Begins to read under a name, unless that has been done; tells whether it can be read. -/
def openReader (name : String) (command : Bool) : Run m Bool := do
  if ((← get).readers.lookup name).isSome then return true
  let add (reader : Reader) : Run m Bool := do
    modify fun s => { s with readers := s.readers ++ [(name, reader)] }
    return true
  if command then
    flush w
    let (bytes, status) ← ask (w.capture name)
    add { rest := toChars bytes, status := some status }
  else if name = "-" || name = "/dev/stdin" then add { rest := toChars (← ask w.input) }
  else
    match ← ask (w.read name) with
    | .ok bytes => add { rest := toChars bytes }
    | .error _ => return false

end Run

end PageScript.Shell.Records

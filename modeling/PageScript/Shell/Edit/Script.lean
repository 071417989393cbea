/-
Editing scripts: what `sed` does to which lines.

A script is a list of instructions, each with the lines it is for. Blocks are instructions that say
where they end, and jumps name labels, so that running a script is a matter of going from one
instruction to another.
-/
import PageScript.Shell.Program.Print
import PageScript.Shell.Regex
import PageScript.Text.Split

namespace PageScript.Shell.Edit

open Program

-- ======== instructions

/-- Which lines an instruction is for. -/
inductive Address where
  | line (number : Nat)
  | last
  /-- Every so many lines from one on. -/
  | step (first step : Nat)
  /-- The lines that an expression matches; without one, it is the last one used. -/
  | matching (r : Option Regex)
  deriving Repr, DecidableEq, Inhabited

/-- Where the lines of an instruction end. -/
inductive Bound where
  | upTo (a : Address)
  /-- So many lines further. -/
  | further (count : Nat)
  /-- At the next multiple of a number. -/
  | multiple (number : Nat)
  deriving Repr, DecidableEq, Inhabited

/-- A part of what takes the place of a match. -/
inductive Piece where
  | char (c : Char)
  | group (number : Nat)
  /-- A change of case: `U`, `L`, `u`, `l`, or `E` for the end of it. -/
  | casing (letter : Char)
  deriving Repr, DecidableEq, Inhabited

/-- How a match is replaced. -/
structure Replacement where
  pattern : Option Regex
  pieces : List Piece
  /-- Which match is the first to be replaced. -/
  occurrence : Nat := 1
  all : Bool := false
  printed : Bool := false
  file : Option String := none
  deriving Repr, DecidableEq, Inhabited

/-- What is done to a line. -/
inductive Action where
  /-- Starts a block that ends so many instructions on. -/
  | block (length : Nat)
  | label (name : String)
  | number
  | append (text : String)
  | insert (text : String)
  | change (text : String)
  /-- Goes on at a label, or with the next line if there is none. -/
  | jump (label : String)
  | jumpIf (label : String)
  | jumpUnless (label : String)
  | delete
  | deleteFirst
  | recall
  | recallMore
  | keep
  | keepMore
  | exchange
  | list
  | next
  | nextMore
  | print
  | printFirst
  | quit (status : Nat)
  | leave (status : Nat)
  | read (file : String)
  | save (file : String)
  | saveFirst (file : String)
  | substitute (r : Replacement)
  | exchangeChars (pairs : List (Char × Char))
  | empty
  deriving Repr, DecidableEq, Inhabited

/-- An instruction. -/
structure Instruction where
  first : Option Address := none
  second : Option Bound := none
  negated : Bool := false
  action : Action
  deriving Repr, DecidableEq, Inhabited

-- ======== reading

/-- What is wrong with a script, and how far it was read. -/
structure Fault where
  place : Nat
  text : String
  deriving Repr, DecidableEq, Inhabited

/-- A place in a script: what is left of it, and how much was read. -/
structure Cursor where
  rest : List Char
  place : Nat := 0
  deriving Inhabited

abbrev Reading := StateT Cursor (Except Fault)

def fault {α : Type} (text : String) : Reading α := do
  throw ⟨(← get).place, text⟩

def take? : Reading (Option Char) := do
  let c ← get
  match c.rest with
  | [] => return none
  | d :: rest =>
    set ({ rest, place := c.place + 1 } : Cursor)
    return some d

def next? : Reading (Option Char) := do
  return (← get).rest.head?

def takeWhile (kind : Char → Bool) : Reading (List Char) := do
  let c ← get
  let taken := c.rest.takeWhile kind
  set ({ rest := c.rest.drop taken.length, place := c.place + taken.length } : Cursor)
  return taken

def isBlank (c : Char) : Bool :=
  c = ' ' || c = '\t'

/-- Reads up to a mark: the text, in which a mark behind a backslash stands for itself, and what
follows. In an expression the mark does not count inside brackets. -/
def upToMark (mark : Char) (expression : Bool) :
    (fuel : Nat) → (inside : Bool) → List Char → Option (List Char × List Char)
  | 0, _, _ => none
  | _, _, [] => none
  | fuel + 1, inside, '\\' :: c :: rest =>
    if inside then (upToMark mark expression fuel true (c :: rest)).map fun (f, b) => ('\\' :: f, b)
    else
      let kept := if c = mark then [c] else if c = '\n' && expression then ['\n'] else ['\\', c]
      (upToMark mark expression fuel inside rest).map fun (f, b) => (kept ++ f, b)
  | fuel + 1, inside, c :: rest =>
    if c = mark && !inside then some ([], rest)
    else if expression && c = '[' && !inside then
      let (front, after) := match rest with
        | '^' :: ']' :: after => (['^', ']'], after)
        | '^' :: after => (['^'], after)
        | ']' :: after => ([']'], after)
        | after => ([], after)
      (upToMark mark expression fuel true after).map fun (f, b) => ('[' :: front ++ f, b)
    else
      (upToMark mark expression fuel (inside && c ≠ ']') rest).map fun (f, b) => (c :: f, b)

def takeUpTo (mark : Char) (expression : Bool) (wording : String) : Reading (List Char) := do
  let c ← get
  match upToMark mark expression (c.rest.length + 1) false c.rest with
  | some (text, rest) =>
    set ({ rest, place := c.place + (c.rest.length - rest.length) } : Cursor)
    return text
  | none =>
    set ({ rest := [], place := c.place + c.rest.length } : Cursor)
    fault wording

/-- A text with the escapes replaced that stand for characters; each step takes one of `fuel`. Other
backslashes stay, with what follows them. -/
def unescape : (fuel : Nat) → List Char → List Char
  | 0, cs => cs
  | _, [] => []
  | fuel + 1, '\\' :: c :: rest =>
    let number (ds : List Char) (n : Nat) (after : List Char) : List Char :=
      if ds.isEmpty then '\\' :: c :: unescape fuel rest
      else strayOf (n % 256) :: unescape fuel after
    match c with
    | 'a' => '\x07' :: unescape fuel rest
    | 'f' => '\x0c' :: unescape fuel rest
    | 'n' => '\n' :: unescape fuel rest
    | 'r' => '\r' :: unescape fuel rest
    | 't' => '\t' :: unescape fuel rest
    | 'v' => '\x0b' :: unescape fuel rest
    | 'x' =>
      let ds := (rest.take 2).takeWhile fun d => (Number.hexValue? d).isSome
      number ds (hexadecimal ds) (rest.drop ds.length)
    | 'o' =>
      let ds := (rest.take 3).takeWhile isOctal
      number ds (octal ds).toNat (rest.drop ds.length)
    | 'd' =>
      let ds := (rest.take 3).takeWhile Char.isDigit
      number ds (Number.digitsValue ds) (rest.drop ds.length)
    | _ => '\\' :: c :: unescape fuel rest
  | fuel + 1, c :: rest => c :: unescape fuel rest

/-- The expression that a text writes; the empty text stands for the last one used. -/
def readRegex (form : RegexForm) (ignoreCase : Bool) (text : List Char) :
    Reading (Option (Regex × Nat)) :=
  if text.isEmpty then return none
  else
    let plain := widen (narrow (String.ofList (unescape (text.length + 1) text)))
    match Regex.parse { form, ignoreCase, strict := true } plain.toList with
    | .ok r => return some r
    | .error e => fault e.message

def readAddress (form : RegexForm) : Reading (Option Address) := do
  match ← next? with
  | some '$' =>
    discard take?
    return some .last
  | some c =>
    if c.isDigit then
      let first := Number.digitsValue (← takeWhile Char.isDigit)
      match ← next? with
      | some '~' =>
        discard take?
        let step := Number.digitsValue (← takeWhile Char.isDigit)
        return some (.step first step)
      | _ => return some (.line first)
    else if c = '/' || c = '\\' then
      discard take?
      let mark ← if c = '/' then pure '/' else do pure ((← take?).getD '/')
      let text ← takeUpTo mark true "unterminated address regex"
      let flags ← takeWhile fun c => c = 'I' || c = 'M'
      let r ← readRegex form (flags.contains 'I') text
      return some (.matching (r.map Prod.fst))
    else return none
  | none => return none

def readBound (form : RegexForm) : Reading Bound := do
  match ← next? with
  | some '+' =>
    discard take?
    return .further (Number.digitsValue (← takeWhile Char.isDigit))
  | some '~' =>
    discard take?
    return .multiple (Number.digitsValue (← takeWhile Char.isDigit))
  | _ =>
    match ← readAddress form with
    | some a => return .upTo a
    | none =>
      discard take?
      fault "unexpected \x60,'"

/-- The parts of what takes the place of a match; each takes one of `fuel`. -/
def readPieces : (fuel : Nat) → List Char → List Piece
  | 0, _ => []
  | _, [] => []
  | fuel + 1, '\\' :: c :: rest =>
    if c.isDigit then .group (c.toNat - '0'.toNat) :: readPieces fuel rest
    else if "ULulE".toList.contains c then .casing c :: readPieces fuel rest
    else .char c :: readPieces fuel rest
  | fuel + 1, '&' :: rest => .group 0 :: readPieces fuel rest
  | fuel + 1, c :: rest => .char c :: readPieces fuel rest

def readFile : Reading String := do
  discard (takeWhile isBlank)
  let name ← takeWhile (· ≠ '\n')
  if name.isEmpty then fault "missing filename in r/R/w/W commands"
  return String.ofList name

/-- Reads the flags behind a replacement; each takes one of `fuel`. -/
def readFlags : (fuel : Nat) → (ignoreCase : Bool) → Replacement → Reading (Bool × Replacement)
  | 0, ignoreCase, r => return (ignoreCase, r)
  | fuel + 1, ignoreCase, r => do
    match ← next? with
    | none => return (ignoreCase, r)
    | some c =>
      if c = ';' || c = '\n' || c = '\x7d' || c = '#' then return (ignoreCase, r)
      else if c.isDigit then
        let n := Number.digitsValue (← takeWhile Char.isDigit)
        if n = 0 then fault "number option to \x60s' command may not be zero"
        readFlags fuel ignoreCase { r with occurrence := n }
      else
        discard take?
        match c with
        | 'g' =>
          if r.all then fault "multiple \x60g' options to \x60s' command"
          readFlags fuel ignoreCase { r with all := true }
        | 'p' =>
          if r.printed then fault "multiple \x60p' options to \x60s' command"
          readFlags fuel ignoreCase { r with printed := true }
        | 'i' | 'I' => readFlags fuel true r
        | 'm' | 'M' => readFlags fuel ignoreCase r
        | 'w' =>
          let file ← readFile
          return (ignoreCase, { r with file := some file })
        | _ =>
          if isBlank c then readFlags fuel ignoreCase r else fault "unknown option to \x60s'"

def readReplacement (form : RegexForm) : Reading Action := do
  let unterminated := "unterminated \x60s' command"
  match ← take? with
  | none => fault unterminated
  | some mark =>
    let pattern ← takeUpTo mark true unterminated
    let text ← takeUpTo mark false unterminated
    let pieces := readPieces (text.length + 1) (unescape (text.length + 1) text)
    let (ignoreCase, r) ← readFlags 100 false { pattern := none, pieces }
    let regex ← readRegex form ignoreCase pattern
    let most := pieces.foldl (fun n p => match p with | .group m => max n m | _ => n) 0
    match regex with
    | some (_, groups) =>
      if most > groups then
        fault ("invalid reference \\" ++ Number.natText most ++ " on \x60s' command's RHS")
    | none => pure ()
    return .substitute { r with pattern := regex.map Prod.fst }

def plainChars : List Char → List Char
  | '\\' :: '\\' :: rest => '\\' :: plainChars rest
  | '\\' :: 'n' :: rest => '\n' :: plainChars rest
  | '\\' :: 't' :: rest => '\t' :: plainChars rest
  | c :: rest => c :: plainChars rest
  | [] => []

def readExchange : Reading Action := do
  let unterminated := "unterminated \x60y' command"
  match ← take? with
  | none => fault unterminated
  | some mark =>
    let old := plainChars (← takeUpTo mark false unterminated)
    let new := plainChars (← takeUpTo mark false unterminated)
    if old.length ≠ new.length then fault "strings for \x60y' command are different lengths"
    return .exchangeChars (old.zip new)

/-- Reads text up to the end of its line; a backslash carries it on to the next line, or stands in
front of a character that is meant as it is. Each character takes one of `fuel`. -/
def readLines : (fuel : Nat) → List Char → List Char × List Char
  | 0, cs => ([], cs)
  | _, [] => ([], [])
  | _ + 1, ['\\'] => ([], [])
  | fuel + 1, '\\' :: c :: rest =>
    let (text, left) := readLines fuel rest
    (c :: text, left)
  | fuel + 1, c :: rest =>
    if c = '\n' then ([], rest)
    else
      let (text, left) := readLines fuel rest
      (c :: text, left)

def readText : Reading String := do
  discard (takeWhile isBlank)
  match ← next? with
  | none => fault "expected \\ after \x60a', \x60c' or \x60i'"
  | some '\\' =>
    let c ← get
    let behind := (c.rest.drop 1).dropWhile isBlank
    match behind with
    | [] =>
      set ({ c with rest := [] } : Cursor)
      return ""
    | '\n' :: more =>
      set ({ rest := more, place := c.place + (c.rest.length - more.length) } : Cursor)
    | _ =>
      set ({ rest := c.rest.drop 1, place := c.place + 1 } : Cursor)
  | _ => pure ()
  let c ← get
  let (text, rest) := readLines (c.rest.length + 1) c.rest
  set ({ rest, place := c.place + (c.rest.length - rest.length) } : Cursor)
  return String.ofList text ++ "\n"

def readLabel : Reading String := do
  discard (takeWhile isBlank)
  let name ← takeWhile fun c => !(c = '\n' || c = ';' || c = '\x7d' || isBlank c)
  return String.ofList name

def readStatus : Reading Nat := do
  discard (takeWhile isBlank)
  return Number.digitsValue (← takeWhile Char.isDigit)

def endInstruction : Reading Unit := do
  discard (takeWhile isBlank)
  match ← next? with
  | none | some '#' | some '\x7d' => return
  | some c =>
    discard take?
    if c = '\n' || c = ';' then return
    fault "extra characters after command"

def readAction (form : RegexForm) (letter : Char) : Reading Action := do
  let ending (a : Action) : Reading Action := do
    endInstruction
    return a
  match letter with
  | '=' => ending .number
  | 'a' => return .append (← readText)
  | 'i' => return .insert (← readText)
  | 'c' => return .change (← readText)
  | 'b' => do
    let label ← readLabel
    ending (.jump label)
  | 't' => do
    let label ← readLabel
    ending (.jumpIf label)
  | 'T' => do
    let label ← readLabel
    ending (.jumpUnless label)
  | 'd' => ending .delete
  | 'D' => ending .deleteFirst
  | 'g' => ending .recall
  | 'G' => ending .recallMore
  | 'h' => ending .keep
  | 'H' => ending .keepMore
  | 'x' => ending .exchange
  | 'l' => do
    discard readStatus
    ending .list
  | 'n' => ending .next
  | 'N' => ending .nextMore
  | 'p' => ending .print
  | 'P' => ending .printFirst
  | 'q' => do
    let status ← readStatus
    ending (.quit status)
  | 'Q' => do
    let status ← readStatus
    ending (.leave status)
  | 'r' => return .read (← readFile)
  | 'w' => return .save (← readFile)
  | 'W' => return .saveFirst (← readFile)
  | 's' => do
    let a ← readReplacement form
    ending a
  | 'y' => do
    let a ← readExchange
    ending a
  | 'z' => ending .empty
  | _ => fault ("unknown command: \x60" ++ letter.toString ++ "'")

def wantsOneAddress (letter : Char) : Bool :=
  letter = 'q' || letter = 'Q'

/-- Reads instructions up to the end of the script or of the block that they are in; each takes one
of `fuel`. -/
def readInstructions (form : RegexForm) : (fuel : Nat) → (depth : Nat) → Reading (List Instruction)
  | 0, _ => return []
  | fuel + 1, depth => do
    discard (takeWhile fun c => c.isWhitespace || c = ';')
    match ← next? with
    | none =>
      if depth > 0 then throw ⟨0, "unmatched \x60\x7b'"⟩
      return []
    | some first =>
      if first = '+' || first = '~' then
        discard take?
        discard take?
        fault "invalid usage of +N or ~N as first address"
      let start ← readAddress form
      discard (takeWhile isBlank)
      let second ← do
        match start, ← next? with
        | some _, some ',' =>
          discard take?
          discard (takeWhile isBlank)
          pure (some (← readBound form))
        | _, _ => pure none
      let zeroOk := match second with | some (.upTo (.matching _)) => true | _ => false
      discard (takeWhile isBlank)
      let negations ← takeWhile fun c => c = '!' || isBlank c
      match ← take? with
      | none => fault "missing command"
      | some letter =>
        if start = some (.line 0) && !zeroOk then fault "invalid usage of line address 0"
        let make (action : Action) : Instruction :=
          { first := start, second, negated := negations.contains '!', action }
        match letter with
        | '#' =>
          if start.isSome then fault "comments don't accept any addresses"
          discard (takeWhile (· ≠ '\n'))
          readInstructions form fuel depth
        | ':' =>
          if start.isSome then fault ": doesn't want any addresses"
          discard (takeWhile isBlank)
          let name ← takeWhile fun c => !(c.isWhitespace || c = ';')
          if name.isEmpty then fault "\":\" lacks a label"
          return make (.label (String.ofList name)) :: (← readInstructions form fuel depth)
        | '\x7b' =>
          let body ← readInstructions form fuel (depth + 1)
          let rest ← readInstructions form fuel depth
          return make (.block body.length) :: body ++ rest
        | '\x7d' =>
          if depth = 0 then fault "unexpected \x60\x7d'"
          if start.isSome then fault "\x7d doesn't want any addresses"
          endInstruction
          return []
        | _ =>
          if wantsOneAddress letter && second.isSome then
            fault "command only uses one address"
          if letter = ';' || letter = '\n' then fault "missing command"
          let action ← readAction form letter
          return make action :: (← readInstructions form fuel depth)

def parse (form : RegexForm) (text : List Char) : Except Fault (List Instruction) := do
  let (instructions, _) ← (readInstructions form (2 * text.length + 2) 0).run { rest := text }
  return instructions

def missingLabel? (script : List Instruction) : Option String :=
  let labels := script.filterMap fun i => match i.action with | .label n => some n | _ => none
  let named := script.filterMap fun i => match i.action with
    | .jump n | .jumpIf n | .jumpUnless n => some n
    | _ => none
  named.find? fun n => n ≠ "" && !labels.contains n

end PageScript.Shell.Edit

/-
Reading TOML.

A document is a sequence of lines: keys with values, headers, comments and blank lines. Each
function reads something off the front of a text and gives it with what is left. Where that cannot
be done, it gives what was left when it stopped, so that the place can be told.
-/
import PageScript.Number.Decimal
import PageScript.Toml.Basic

namespace PageScript.Toml

abbrev Reading := Except (List Char)

-- ======== blanks

def isSpace (c : Char) : Bool :=
  c = ' ' || c = '\t'

def skipSpaces (cs : List Char) : List Char :=
  cs.dropWhile isSpace

/-- Whether a character may stand in a comment or a literal string. -/
def isPrinting (c : Char) : Bool :=
  c = '\t' || (' ' ≤ c && c ≠ '\x7f')

def newline? : List Char → Option (List Char)
  | '\n' :: rest => some rest
  | '\r' :: '\n' :: rest => some rest
  | _ => none

def skipComment : List Char → List Char
  | '#' :: rest => rest.dropWhile isPrinting
  | cs => cs

/-- Drops what may follow on a line: blanks, a comment, and the line end or the end of the text. -/
def lineEnd (cs : List Char) : Reading (List Char) :=
  match skipComment (skipSpaces cs) with
  | [] => .ok []
  | rest =>
    match newline? rest with
    | some rest => .ok rest
    | none => .error rest

/-- Drops blanks, comments and line ends; each line takes one of `fuel`. -/
def skipLines : (fuel : Nat) → List Char → List Char
  | 0, cs => cs
  | fuel + 1, cs =>
    let rest := skipComment (skipSpaces cs)
    match newline? rest with
    | some rest => skipLines fuel rest
    | none => rest

-- ======== strings

def hexNumber? (ds : List Char) : Option Nat :=
  ds.foldlM (fun n d => (Number.hexValue? d).map fun v => n * 16 + v) 0

/-- Reads what follows a backslash: the character it stands for. -/
def escape? : List Char → Option (Char × List Char)
  | 'b' :: rest => some ('\x08', rest)
  | 't' :: rest => some ('\t', rest)
  | 'n' :: rest => some ('\n', rest)
  | 'f' :: rest => some ('\x0c', rest)
  | 'r' :: rest => some ('\r', rest)
  | '"' :: rest => some ('"', rest)
  | '\\' :: rest => some ('\\', rest)
  | 'u' :: rest => code 4 rest
  | 'U' :: rest => code 8 rest
  | _ => none
where
  /-- Reads the number of a character in so many digits. -/
  code (count : Nat) (cs : List Char) : Option (Char × List Char) := do
    let ds := cs.take count
    let n ← hexNumber? ds
    if ds.length = count && n.isValidChar then some (Char.ofNat n, cs.drop count) else none

def skipGap : List Char → List Char
  | '\r' :: '\n' :: rest => skipGap rest
  | c :: rest => if isSpace c || c = '\n' then skipGap rest else c :: rest
  | [] => []

/-- Drops blanks and line ends behind a backslash at the end of a line. -/
def skipFold? (cs : List Char) : Option (List Char) :=
  (newline? (skipSpaces cs)).map skipGap

/-- Ends a string over several lines: of its last quotes, up to two are text. -/
def closing? (quote : Char) (cs : List Char) : Option (List Char × List Char) :=
  let n := min 5 (cs.takeWhile (· = quote)).length
  if 3 ≤ n then some (List.replicate (n - 3) quote, cs.drop n) else none

/-- Reads a string behind its opening quotes, of which there are three where it may go over several
lines. Between double quotes a backslash is special. Each character takes one of `fuel`. -/
def quotedText (quote : Char) (lines : Bool) : (fuel : Nat) → List Char → Reading (List Char × List Char)
  | 0, cs => throw cs
  | _ + 1, [] => throw []
  | fuel + 1, c :: rest =>
    let keep (c : Char) (rest : List Char) : Reading (List Char × List Char) := do
      let (text, rest) ← quotedText quote lines fuel rest
      return (c :: text, rest)
    if c = quote then
      match if lines then closing? quote (c :: rest) else some ([], rest) with
      | some done => return done
      | none => keep c rest
    else if c = '\\' && quote = '"' then
      match escape? rest, if lines then skipFold? rest else none with
      | some (c, rest), _ => keep c rest
      | none, some rest => quotedText quote lines fuel rest
      | none, none => throw rest
    else
      match if lines then newline? (c :: rest) else none with
      | some rest => keep '\n' rest
      | none => if isPrinting c then keep c rest else throw (c :: rest)

def string (cs : List Char) : Reading (String × List Char) := do
  let trimmed (cs : List Char) : List Char := (newline? cs).getD cs
  let (text, rest) ←
    match cs with
    | '"' :: '"' :: '"' :: rest => quotedText '"' true (cs.length + 1) (trimmed rest)
    | '\'' :: '\'' :: '\'' :: rest => quotedText '\'' true (cs.length + 1) (trimmed rest)
    | '"' :: rest => quotedText '"' false (cs.length + 1) rest
    | '\'' :: rest => quotedText '\'' false (cs.length + 1) rest
    | _ => throw cs
  return (String.ofList text, rest)

-- ======== keys

def isBare (c : Char) : Bool :=
  c.isAlphanum || c = '-' || c = '_'

def simpleKey (cs : List Char) : Reading (String × List Char) := do
  let (key, rest) ←
    match cs with
    | '"' :: rest => quotedText '"' false (cs.length + 1) rest
    | '\'' :: rest => quotedText '\'' false (cs.length + 1) rest
    | _ =>
      let key := cs.takeWhile isBare
      if key.isEmpty then throw cs else pure (key, cs.drop key.length)
  return (String.ofList key, rest)

/-- Neither do values nest this deep, nor has a key this many parts. -/
def depthLimit : Nat := 80

def keyUpTo : (parts : Nat) → List Char → Reading (List String × List Char)
  | 0, cs => throw cs
  | parts + 1, cs => do
    let (first, rest) ← simpleKey (skipSpaces cs)
    match skipSpaces rest with
    | '.' :: rest =>
      let (others, rest) ← keyUpTo parts rest
      return (first :: others, rest)
    | rest => return ([first], rest)

def key (cs : List Char) : Reading (List String × List Char) :=
  keyUpTo (depthLimit - 1) cs

-- ======== numbers

/-- Reads digits with single underscores between them, and gives the digits. -/
def digits (isDigit : Char → Bool) : List Char → Reading (List Char × List Char)
  | [] => throw []
  | c :: rest =>
    if isDigit c then
      match rest with
      | '_' :: d :: more =>
        if isDigit d then do
          let (ds, after) ← digits isDigit (d :: more)
          return (c :: ds, after)
        else throw (d :: more)
      | '_' :: [] => throw []
      | d :: more =>
        if isDigit d then do
          let (ds, after) ← digits isDigit (d :: more)
          return (c :: ds, after)
        else return ([c], rest)
      | [] => return ([c], [])
    else throw (c :: rest)

def sign : List Char → Bool × List Char
  | '-' :: rest => (true, rest)
  | '+' :: rest => (false, rest)
  | cs => (false, cs)

/-- A whole number read in front of `rest`, if it fits into 64 bits with a sign. -/
def int64 (n : Int) (rest : List Char) : Reading (Toml × List Char) :=
  if -(2 ^ 63) ≤ n ∧ n < 2 ^ 63 then return (.int n, rest) else throw rest

def radix (base : Nat) (isDigit : Char → Bool) (cs : List Char) : Reading (Toml × List Char) := do
  let (ds, rest) ← digits isDigit cs
  let n := ds.foldl (fun n d => n * base + (Number.hexValue? d).getD 0) 0
  int64 n rest

def exponent (cs : List Char) : Reading (List Char × List Char) :=
  match cs with
  | c :: rest =>
    if c = 'e' || c = 'E' then do
      let (negative, rest) := sign rest
      let (ds, rest) ← digits Char.isDigit rest
      return ('e' :: (if negative then ['-'] else []) ++ ds, rest)
    else return ([], cs)
  | [] => return ([], [])

def decimal (cs : List Char) : Reading (Toml × List Char) := do
  let (negative, cs) := sign cs
  let (whole, rest) ← digits Char.isDigit cs
  if whole.length > 1 && whole.head? = some '0' then throw (cs.drop 1)
  let (fraction, rest) ←
    match rest with
    | '.' :: rest => do
      let (ds, rest) ← digits Char.isDigit rest
      pure ('.' :: ds, rest)
    | _ => pure ([], rest)
  let (power, rest) ← exponent rest
  if fraction.isEmpty && power.isEmpty then
    let n : Int := Number.digitsValue whole
    int64 (if negative then -n else n) rest
  else
    match Number.ofChars? ((if negative then ['-'] else []) ++ whole ++ fraction ++ power) with
    | some value => if value.isInf && !negative then throw rest else return (.float value, rest)
    | none => throw rest

def special? (cs : List Char) : Option (Toml × List Char) :=
  let (negative, rest) := sign cs
  match rest with
  | 'i' :: 'n' :: 'f' :: rest =>
    some (.float (if negative then -1.0 / 0.0 else 1.0 / 0.0), rest)
  | 'n' :: 'a' :: 'n' :: rest => some (.float (0.0 / 0.0), rest)
  | _ => none

-- ======== dates, times

def fixed? (count : Nat) (cs : List Char) : Option (Nat × List Char) :=
  let ds := cs.take count
  if ds.length = count && ds.all Char.isDigit then some (Number.digitsValue ds, cs.drop count)
  else none

def daysIn (year month : Nat) : Nat :=
  let leap := year % 4 = 0 && (year % 100 ≠ 0 || year % 400 = 0)
  if month = 2 then (if leap then 29 else 28)
  else if month = 4 || month = 6 || month = 9 || month = 11 then 30
  else 31

def date? (cs : List Char) : Option (List Char) := do
  let (year, cs) ← fixed? 4 cs
  let '-' :: cs := cs | none
  let (month, cs) ← fixed? 2 cs
  let '-' :: cs := cs | none
  let (day, cs) ← fixed? 2 cs
  if 1 ≤ month && month ≤ 12 && 1 ≤ day && day ≤ daysIn year month then some cs else none

def time? (cs : List Char) : Option (List Char) := do
  let (hour, cs) ← fixed? 2 cs
  let ':' :: cs := cs | none
  let (minute, cs) ← fixed? 2 cs
  let ':' :: cs := cs | none
  let (second, cs) ← fixed? 2 cs
  if !(hour ≤ 23 && minute ≤ 59 && second ≤ 60) then none
  match cs with
  | '.' :: rest =>
    let ds := rest.takeWhile Char.isDigit
    if ds.isEmpty then none else some (rest.drop ds.length)
  | _ => some cs

/-- Drops how far a time is from the common one, if that is said. -/
def offset? (cs : List Char) : Option (List Char) :=
  match cs with
  | c :: rest =>
    if c = 'Z' || c = 'z' then some rest
    else if c = '+' || c = '-' then do
      let (hour, rest) ← fixed? 2 rest
      let ':' :: rest := rest | none
      let (minute, rest) ← fixed? 2 rest
      if hour ≤ 23 && minute ≤ 59 then some rest else none
    else some cs
  | [] => some []

def moment? (cs : List Char) : Option (Toml × List Char) := do
  let rest ←
    match date? cs with
    | some rest =>
      match rest with
      | c :: after =>
        if c = 'T' || c = 't' then do offset? (← time? after)
        else if c = ' ' then
          match time? after with
          | some after => offset? after
          | none => some rest
        else some rest
      | [] => some []
    | none => time? cs
  return (.moment (String.ofList (cs.take (cs.length - rest.length))), rest)

-- ======== values

def numeric (cs : List Char) : Reading (Toml × List Char) :=
  match moment? cs, special? cs with
  | some found, _ => return found
  | none, some found => return found
  | none, none =>
    match cs with
    | '0' :: 'x' :: rest => radix 16 (fun c => (Number.hexValue? c).isSome) rest
    | '0' :: 'o' :: rest => radix 8 (fun c => '0' ≤ c && c ≤ '7') rest
    | '0' :: 'b' :: rest => radix 2 (fun c => c = '0' || c = '1') rest
    | _ => decimal cs

mutual

/-- Reads a value that stands in `depth` others. Each value takes one of `fuel`. -/
def value : (fuel depth : Nat) → List Char → Reading (Toml × List Char)
  | 0, _, cs => throw cs
  | fuel + 1, depth, cs =>
    match cs with
    | '"' :: _ => do
      let (s, rest) ← string cs
      return (.str s, rest)
    | '\'' :: _ => do
      let (s, rest) ← string cs
      return (.str s, rest)
    | '[' :: rest =>
      if depth + 1 < depthLimit then do
        let (all, rest) ← items fuel (depth + 1) rest
        return (.arr all, rest)
      else throw cs
    | '\x7b' :: rest =>
      if depth + 1 < depthLimit then
        match skipSpaces rest with
        | '\x7d' :: rest => return (.table [], rest)
        | rest => do
          let (slots, rest) ← pairs fuel (depth + 1) [] rest
          return (.table (finishSlots slots), rest)
      else throw cs
    | 't' :: 'r' :: 'u' :: 'e' :: rest => return (.bool true, rest)
    | 'f' :: 'a' :: 'l' :: 's' :: 'e' :: rest => return (.bool false, rest)
    | _ => numeric cs

def items : (fuel depth : Nat) → List Char → Reading (List Toml × List Char)
  | 0, _, cs => throw cs
  | fuel + 1, depth, cs =>
    match skipLines (cs.length + 1) cs with
    | ']' :: rest => return ([], rest)
    | rest => do
      let (first, rest) ← value fuel depth rest
      match skipLines (rest.length + 1) rest with
      | ',' :: rest =>
        let (others, rest) ← items fuel depth rest
        return (first :: others, rest)
      | ']' :: rest => return ([first], rest)
      | rest => throw rest

/-- Reads the keys and values of a table on one line behind its opening brace. -/
def pairs : (fuel depth : Nat) → Slots → List Char → Reading (Slots × List Char)
  | 0, _, _, cs => throw cs
  | fuel + 1, depth, slots, cs => do
    let (path, rest) ← key cs
    let '=' :: rest := rest | throw rest
    let (v, rest) ← value fuel depth (skipSpaces rest)
    let some slots := assign path v .header slots | throw cs
    match skipSpaces rest with
    | ',' :: rest => pairs fuel depth slots rest
    | '\x7d' :: rest => return (slots, rest)
    | rest => throw rest

end

-- ======== documents

/-- Reads a key and its value up to the end of the line, into the table at a path. -/
def pair (path : List String) (root : Slots) (cs : List Char) : Reading (Slots × List Char) := do
  let (name, rest) ← key cs
  let '=' :: rest := rest | throw rest
  let rest := skipSpaces rest
  let (v, rest) ← value (rest.length + 1) 0 rest
  let rest ← lineEnd rest
  let some root := descend false (assign name v) path .header root | throw cs
  return (root, rest)

/-- Reads the lines of a document; each takes one of `fuel`. The path is that of the last header. -/
def lines : (fuel : Nat) → (path : List String) → Slots → List Char → Reading Slots
  | 0, _, _, cs => throw cs
  | fuel + 1, path, root, cs =>
    match skipSpaces cs with
    | [] => return root
    | '#' :: rest => do lines fuel path root (← lineEnd ('#' :: rest))
    | '\n' :: rest => lines fuel path root rest
    | '\r' :: '\n' :: rest => lines fuel path root rest
    | '[' :: '[' :: rest => do
      let (path, rest) ← key rest
      let ']' :: ']' :: rest := rest | throw rest
      let rest ← lineEnd rest
      let some root := openHeader true path root | throw cs
      lines fuel path root rest
    | '[' :: rest => do
      let (path, rest) ← key rest
      let ']' :: rest := rest | throw rest
      let rest ← lineEnd rest
      let some root := openHeader false path root | throw cs
      lines fuel path root rest
    | rest => do
      let (root, rest) ← pair path root rest
      lines fuel path root rest

/-- A place in a text, counted from one. -/
structure Position where
  line : Nat
  column : Nat
  deriving Repr, DecidableEq, Inhabited

def Position.behind (cs : List Char) : Position where
  line := cs.count '\n' + 1
  column := (cs.reverse.takeWhile (· != '\n')).length + 1

def parse (s : String) : Except Position Toml :=
  let cs :=
    match s.toList with
    | '\ufeff' :: rest => rest
    | cs => cs
  match lines (cs.length + 2) [] [] cs with
  | .ok slots => .ok (.table (finishSlots slots))
  | .error rest => .error (.behind (cs.take (cs.length - rest.length)))

end PageScript.Toml

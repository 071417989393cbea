/-
Writing arguments: `echo` and `printf`.

Shells have these as commands of their own, and there are programs of the same names, which know
other escapes and word their complaints in another way.
-/
import PageScript.Number.Fixed
import PageScript.Shell.Program.Basic
import PageScript.Shell.Wide

namespace PageScript.Shell.Program

/-- Whether a command is a shell's own or a program. -/
inductive Dialect where
  | shell
  | program
  deriving DecidableEq

-- ======== escapes

def isOctal (c : Char) : Bool :=
  '0' ≤ c && c ≤ '7'

def octal (ds : List Char) : UInt8 :=
  UInt8.ofNat (ds.foldl (fun n d => n * 8 + (d.toNat - '0'.toNat)) 0)

def hexadecimal (ds : List Char) : Nat :=
  ds.foldl (fun n d => n * 16 + (Number.hexValue? d).getD 0) 0

def escapeByte? : Char → Option UInt8
  | 'a' => some 0x07
  | 'b' => some 0x08
  | 'e' => some 0x1B
  | 'f' => some 0x0C
  | 'n' => some 0x0A
  | 'r' => some 0x0D
  | 't' => some 0x09
  | 'v' => some 0x0B
  | '\\' => some 0x5C
  | _ => none

def readLongEscape? : List Char → Option (Stream × List Char)
  | '"' :: rest => some ([0x22], rest)
  | 'x' :: rest =>
    let ds := (rest.take 2).takeWhile fun c => (Number.hexValue? c).isSome
    if ds.isEmpty then none else some ([UInt8.ofNat (hexadecimal ds)], rest.drop ds.length)
  | 'u' :: rest => character 4 rest
  | 'U' :: rest => character 8 rest
  | _ => none
where
  /-- Reads the number of a character in so many digits. -/
  character (count : Nat) (cs : List Char) : Option (Stream × List Char) :=
    let ds := (cs.take count).takeWhile fun c => (Number.hexValue? c).isSome
    let n := hexadecimal ds
    if ds.length < count || 0x10FFFF < n then none
    else some (wideBytes (Char.ofNat n).toString, cs.drop count)

def escapeFault? : List Char → Option String
  | 'x' :: rest =>
    if ((rest.head?.bind Number.hexValue?).map fun _ => ()).isSome then none
    else some "missing hexadecimal number in escape"
  | 'u' :: rest => character 'u' 4 rest
  | 'U' :: rest => character 'U' 8 rest
  | _ => none
where
  /-- What is wrong with the number of a character in so many digits. -/
  character (letter : Char) (count : Nat) (cs : List Char) : Option String :=
    let ds := (cs.take count).takeWhile fun c => (Number.hexValue? c).isSome
    let n := hexadecimal ds
    if ds.length < count then some "missing hexadecimal number in escape"
    else if 0xD800 ≤ n && n ≤ 0xDFFF then
      some ("invalid universal character name \\" ++ letter.toString ++
        String.ofList ((Nat.toDigits 16 n).leftpad count '0'))
    else none

/-- Reads what follows a backslash: the bytes it stands for, and the rest. `leading` says that an
octal number may have a zero in front of its three digits. -/
def readEscape (dialect : Dialect) (leading : Bool) (cs : List Char) : Stream × List Char :=
  match cs with
  | [] => ([0x5C], [])
  | c :: rest =>
    if isOctal c then
      let cs := if leading && c = '0' then rest else cs
      let ds := (cs.take 3).takeWhile isOctal
      ([octal ds], cs.drop ds.length)
    else
      match escapeByte? c, if dialect = .program then readLongEscape? cs else none with
      | some b, _ => ([b], rest)
      | none, some found => found
      | none, none => ([0x5C, UInt8.ofNat c.toNat], rest)

/-- Why a text ended before its end. -/
inductive EarlyEnd where
  /-- It says `\c`. -/
  | said
  /-- There is something wrong with an escape. -/
  | faulty (text : String)
  deriving Repr, DecidableEq, Inhabited

/-- A text with its escapes replaced, and why it ended early if it did; each step takes one of
`fuel`. In what is echoed nothing is faulty, and an octal number needs a zero in front. -/
def unescape (dialect : Dialect) (echoed : Bool) :
    (fuel : Nat) → List Char → Stream × Option EarlyEnd
  | 0, _ => ([], none)
  | _ + 1, [] => ([], none)
  | _ + 1, '\\' :: 'c' :: _ => ([], some .said)
  | fuel + 1, '\\' :: rest =>
    match if dialect = .program && !echoed then escapeFault? rest else none with
    | some text => ([], some (.faulty text))
    | none =>
      let plain := echoed && dialect = .program &&
        "1234567uU\"".toList.any fun c => rest.head? = some c
      let (bytes, rest) := if plain then ([0x5C], rest) else readEscape dialect true rest
      let (more, ended) := unescape dialect echoed fuel rest
      (bytes ++ more, ended)
  | fuel + 1, c :: rest =>
    let (more, ended) := unescape dialect echoed fuel rest
    (UInt8.ofNat c.toNat :: more, ended)

-- ======== echo

/-- Whether an argument of `echo` is made of its flags. -/
def isEchoFlag (arg : String) : Bool :=
  match arg.toList with
  | '-' :: c :: rest => (c :: rest).all fun c => c = 'n' || c = 'e' || c = 'E'
  | _ => false

/-- Writes its arguments with blanks between them, and ends the line unless it is told not to.
Shells replace escapes and know one flag; the program replaces escapes only if it is told to. -/
def echo (dialect : Dialect) (call : Call) : Effect :=
  let flags :=
    match dialect with
    | .shell => (call.args.take 1).takeWhile (· = "-n")
    | .program => call.args.takeWhile isEchoFlag
  let letters := (String.join flags).toList
  let lastSaid := (letters.filter fun c => c = 'e' || c = 'E').getLast?
  let escapes := dialect = .shell || lastSaid = some 'e'
  let text := " ".intercalate (call.args.drop flags.length)
  let (bytes, ended) :=
    if escapes then unescape dialect true (text.length + 1) text.toList else (bytesOf text, none)
  .sending call (bytes ++ (if letters.contains 'n' || ended.isSome then [] else [0x0A]))

-- ======== layout

/-- How a value is laid out: flags, least width, and precision. -/
structure Layout where
  left : Bool := false
  zeros : Bool := false
  plus : Bool := false
  blank : Bool := false
  marked : Bool := false
  width : Nat := 0
  precision : Option Nat := none

namespace Layout

def pad (l : Layout) (s : String) : String :=
  let fill := String.ofList (List.replicate (l.width - s.length) ' ')
  if l.left then s ++ fill else fill ++ s

def numeral (l : Layout) (mark digits : String) (mayZeros : Bool) : String :=
  let fill := l.width - (mark.length + digits.length)
  if l.zeros && !l.left && mayZeros then
    mark ++ String.ofList (List.replicate fill '0') ++ digits
  else l.pad (mark ++ digits)

def sign (l : Layout) (negative : Bool) : String :=
  if negative then "-" else if l.plus then "+" else if l.blank then " " else ""

def whole (l : Layout) (mark digits : String) : String :=
  let digits :=
    if l.precision = some 0 ∧ digits = "0" then ""
    else String.ofList (List.replicate (l.precision.getD 1 - digits.length) '0') ++ digits
  l.numeral mark digits l.precision.isNone

def ofFlags (flags : List Char) : Layout :=
  { left := flags.contains '-', zeros := flags.contains '0', plus := flags.contains '+',
    blank := flags.contains ' ', marked := flags.contains '#' }

end Layout

def digitsIn (base : Nat) (upper : Bool) (n : Nat) : String :=
  let ds := Nat.toDigits base n
  String.ofList (if upper then ds.map Char.toUpper else ds)

-- ======== numbers

/-- A number as a text gives it: a quotient with its sign, or a word for what is none. -/
inductive Quantity where
  | ratio (negative : Bool) (num den : Nat)
  | word (text : String)
  deriving Repr, DecidableEq, Inhabited

/-- Why a text is not quite a number. -/
inductive Doubt where
  | notNumeric
  | incomplete
  | outOfRange
  deriving Repr, DecidableEq, Inhabited

def Doubt.message (dialect : Dialect) (text : String) : Doubt → String
  | .notNumeric =>
    match dialect with
    | .shell => text ++ ": expected numeric value"
    | .program => quoted text ++ ": expected a numeric value"
  | .incomplete =>
    match dialect with
    | .shell => text ++ ": not completely converted"
    | .program =>
      match (widen text).toList with
      | q :: _ :: rest =>
        if q = '\'' ∨ q = '"' then
          "warning: " ++ narrow (String.ofList rest) ++
            ": character(s) following character constant have been ignored"
        else quoted text ++ ": value not completely converted"
      | _ => quoted text ++ ": value not completely converted"
  | .outOfRange =>
    match dialect with
    | .shell => text ++ ": Numerical result out of range"
    | .program => quoted text ++ ": Numerical result out of range"

def digitsFront (base : Nat) (cs : List Char) : List Char × List Char :=
  let fits (c : Char) : Bool := ((Number.hexValue? c).map (decide <| · < base)).getD false
  (cs.takeWhile fits, cs.dropWhile fits)

def frontInteger (cs : List Char) : Int × Bool × List Char :=
  let (negative, rest) := Number.splitSign (cs.dropWhile fun c => c = ' ' || c = '\t' || c = '\n')
  let (base, start) :=
    match rest with
    | '0' :: x :: d :: more =>
      if (x = 'x' ∨ x = 'X') ∧ (Number.hexValue? d).isSome then (16, d :: more) else (8, rest)
    | '0' :: _ => (8, rest)
    | _ => (10, rest)
  let (ds, after) := digitsFront base start
  let n := ds.foldl (fun n d => n * base + (Number.hexValue? d).getD 0) 0
  (if negative then -(n : Int) else n, !ds.isEmpty, after)

/-- The first character of a text and the others: programs count characters, shells bytes. -/
def Dialect.front (dialect : Dialect) (c : Char) (rest : List Char) : Char × List Char :=
  match if dialect = .program then leading? c rest else none with
  | some (found, n) => (found, rest.drop n)
  | none => (c, rest)

/-- Whether a doubt about a text is only a warning: a character was asked for, and others follow. -/
def Doubt.isSlight (doubt : Doubt) (dialect : Dialect) (text : String) : Bool :=
  dialect = .program && doubt = .incomplete && (text.startsWith "'" || text.startsWith "\"")

def readInteger (dialect : Dialect) (text : String) (unsigned : Bool) : Int × Option Doubt :=
  match text.toList with
  | [] => (0, none)
  | q :: c :: rest =>
    if q = '\'' ∨ q = '"' then
      let (c, rest) := dialect.front c rest
      (c.toNat, if rest.isEmpty || dialect = .shell then none else some .incomplete)
    else plain text.toList
  | cs => plain cs
where
  /-- The number that characters give. -/
  plain (cs : List Char) : Int × Option Doubt :=
    let (n, found, after) := frontInteger cs
    let most : Int := if unsigned then 2 ^ 64 - 1 else 2 ^ 63 - 1
    let least : Int := if unsigned then -(2 ^ 64 - 1) else -2 ^ 63
    if !found then (0, some .notNumeric)
    else if n > most then (most, some .outOfRange)
    else if n < least then (if unsigned then most else least, some .outOfRange)
    else (n, if after.isEmpty then none else some .incomplete)

/-- The decimal at the front of a text with its sign, if there is one, and what follows it. -/
def frontDecimal? (cs : List Char) : Option (Bool × Nat × Nat × List Char) :=
  let (negative, rest) := Number.splitSign (cs.dropWhile fun c => c = ' ' || c = '\t' || c = '\n')
  let units := rest.takeWhile Char.isDigit
  let after := rest.drop units.length
  let (places, after) :=
    match after with
    | '.' :: more =>
      let ds := more.takeWhile Char.isDigit
      if units.isEmpty && ds.isEmpty then ([], after) else (ds, more.drop ds.length)
    | _ => ([], after)
  if units.isEmpty && places.isEmpty then none
  else
    let value := Number.digitsValue (units ++ places)
    let scaled (e : Int) (left : List Char) : Bool × Nat × Nat × List Char :=
      let e := max (-5000) (min 5000 (e - places.length))
      (negative, value * 10 ^ e.toNat, 10 ^ (-e).toNat, left)
    match after with
    | x :: more =>
      let (minus, ds) := Number.splitSign more
      let es := ds.takeWhile Char.isDigit
      if (x = 'e' ∨ x = 'E') ∧ !es.isEmpty then
        let e : Int := Number.digitsValue es
        some (scaled (if minus then -e else e) (ds.drop es.length))
      else some (scaled 0 after)
    | [] => some (scaled 0 [])

/-- The number that an argument gives, with as many binary digits as there are, and what is doubtful
about it. -/
def readQuantity (dialect : Dialect) (text : String) : Quantity × Option Doubt :=
  match text.toList with
  | [] => (.ratio false 0 1, none)
  | q :: c :: rest =>
    if q = '\'' ∨ q = '"' then
      let (c, rest) := dialect.front c rest
      (.ratio false c.toNat 1,
        if rest.isEmpty || dialect = .shell then none else some .incomplete)
    else plain text.toList
  | cs => plain cs
where
  /-- The number that characters give. -/
  plain (cs : List Char) : Quantity × Option Doubt :=
    let (negative, word) := Number.splitSign cs
    let lower := String.ofList (word.map Char.toLower)
    if lower = "inf" ∨ lower = "infinity" then
      (.word (if negative then "-inf" else "inf"), none)
    else if lower = "nan" then (.word (if negative then "-nan" else "nan"), none)
    else
      let hexadecimal :=
        match word with
        | '0' :: x :: _ :: _ => x = 'x' || x = 'X'
        | _ => false
      if hexadecimal then
        let (n, _, after) := frontInteger cs
        (.ratio (n < 0) n.natAbs 1, if after.isEmpty then none else some .incomplete)
      else
        match frontDecimal? cs with
        | none => (.ratio false 0 1, some .notNumeric)
        | some (negative, num, den, after) =>
          let (num, den) := Number.narrow (if dialect = .shell then 53 else 64) num den
          (.ratio negative num den, if after.isEmpty then none else some .incomplete)

def Layout.fraction (l : Layout) (kind : Char) : Quantity → String
  | .word text =>
    let text := if kind.isUpper then text.map Char.toUpper else text
    { l with zeros := false }.pad ((if l.plus && !text.startsWith "-" then "+" else "") ++ text)
  | .ratio negative num den =>
    let places := l.precision.getD 6
    let digits :=
      match kind.toLower with
      | 'e' => Number.scientificText places num den
      | 'g' => Number.generalText places l.marked num den
      | _ => Number.fixedText places num den
    let digits := if kind.isUpper then digits.map Char.toUpper else digits
    l.numeral (l.sign negative) digits true

-- ======== printf

/-- What one pass over a format gives. -/
structure Formatted where
  writes : List (Nat × Stream) := []
  args : List String
  /-- Whether an argument was asked for. -/
  used : Bool := false
  ended : Bool := false
  status : Nat := 0

def Formatted.before (f : Formatted) (bytes : Stream) : Formatted :=
  match f.writes with
  | (1, more) :: rest => { f with writes := (1, bytes ++ more) :: rest }
  | writes => { f with writes := (1, bytes) :: writes }

/-- A number that a directive takes from the arguments for a star, or that stands in the format. -/
def readAmount (cs : List Char) (args : List String) : Option Int × List Char × List String :=
  match cs with
  | '*' :: rest =>
    (some ((args.head?.map fun a => (readInteger .shell a false).1).getD 0), rest, args.drop 1)
  | _ =>
    let ds := cs.takeWhile Char.isDigit
    (if ds.isEmpty then none else some (Number.digitsValue ds), cs.drop ds.length, args)

def readLayout (cs : List Char) (args : List String) : Layout × List Char × List String :=
  let isFlag (c : Char) : Bool := c = '-' || c = '0' || c = '+' || c = ' ' || c = '#'
  let flags := cs.takeWhile isFlag
  let (width, cs, args) := readAmount (cs.dropWhile isFlag) args
  let l := Layout.ofFlags flags
  let l : Layout :=
    match width with
    | some w => { l with left := l.left || w < 0, width := w.natAbs }
    | none => l
  match cs with
  | '.' :: cs =>
    let (precision, cs, args) := readAmount cs args
    let precision := match precision with
      | some p => if p < 0 then none else some p.toNat
      | none => some 0
    ({ l with precision }, cs, args)
  | _ => (l, cs, args)

/-- Lays out one argument as a directive asks: the bytes, why the output ends if it does, and what
is doubtful. None if there is no such directive. -/
def directive? (dialect : Dialect) (l : Layout) (kind : Char) (arg : Option String) :
    Option (Stream × Option EarlyEnd × Option Doubt) :=
  let text := arg.getD ""
  let plain (s : String) (doubt : Option Doubt) :
      Option (Stream × Option EarlyEnd × Option Doubt) :=
    some (bytesOf s, none, doubt)
  let unsigned (base : Nat) (upper : Bool) (mark : String) :
      Option (Stream × Option EarlyEnd × Option Doubt) :=
    let (n, doubt) := readInteger dialect text true
    let digits := digitsIn base upper (n % 2 ^ 64).toNat
    plain (l.whole (if l.marked && digits ≠ "0" then mark else "") digits) doubt
  match kind with
  | 's' =>
    let cut := match l.precision with | some p => String.ofList (text.toList.take p) | none => text
    plain (l.pad cut) none
  | 'b' =>
    let (bytes, ended) := unescape dialect false (text.length + 1) text.toList
    some (bytesOf (l.pad (ofBytes bytes)), ended, none)
  | 'q' => if dialect = .program then plain (nameText text) none else none
  | 'c' =>
    let c := if text.isEmpty then "\x00" else String.ofList (text.toList.take 1)
    plain (l.pad c) none
  | 'd' | 'i' =>
    let (n, doubt) := readInteger dialect text false
    plain (l.whole (l.sign (n < 0)) (Number.natText n.natAbs)) doubt
  | 'o' => unsigned 8 false "0"
  | 'u' => unsigned 10 false ""
  | 'x' => unsigned 16 false "0x"
  | 'X' => unsigned 16 true "0X"
  | 'e' | 'E' | 'f' | 'F' | 'g' | 'G' =>
    let (quantity, doubt) := readQuantity dialect text
    plain (l.fraction kind quantity) doubt
  | _ => none

/-- One pass over a format; each step takes one of `fuel`. -/
def formatOnce (dialect : Dialect) (label : String) :
    (fuel : Nat) → List Char → List String → Formatted
  | 0, _, args => { args }
  | _ + 1, [], args => { args }
  | fuel + 1, '%' :: '%' :: rest, args => (formatOnce dialect label fuel rest args).before [0x25]
  | fuel + 1, '%' :: cs, args =>
    let (layout, rest, args) := readLayout cs args
    let said (rest : List Char) : String :=
      "%" ++ String.ofList (cs.take (cs.length - rest.length))
    let refused (shell program : String) : Formatted :=
      let (status, text) := match dialect with | .shell => (2, shell) | .program => (1, program)
      { writes := [(2, bytesOf (label ++ text ++ "\n"))], args, ended := true, status }
    let rest := if dialect = .program then rest.dropWhile "lhzLjt".toList.contains else rest
    match rest with
    | [] => refused "missing format character" (said [] ++ ": invalid conversion specification")
    | kind :: rest =>
      match directive? dialect layout kind args.head? with
      | none =>
        let said := said rest
        refused (said ++ ": invalid directive") (said ++ ": invalid conversion specification")
      | some (bytes, ended, doubt) =>
        let f : Formatted := match ended with
          | some .said => { args := args.drop 1, ended := true }
          | some (.faulty text) => refused text text
          | none => formatOnce dialect label fuel rest (args.drop 1)
        let f := { f.before bytes with used := true }
        match doubt with
        | some d =>
          let text := d.message dialect (args.head?.getD "")
          { f with
            status := if d.isSlight dialect (args.head?.getD "") then f.status else max 1 f.status
            writes := (2, bytesOf (label ++ text ++ "\n")) :: f.writes }
        | none => f
  | fuel + 1, '\\' :: 'c' :: rest, args =>
    if dialect = .program then { args, ended := true }
    else (formatOnce dialect label fuel rest args).before (bytesOf "\\c")
  | fuel + 1, '\\' :: rest, args =>
    match if dialect = .program then escapeFault? rest else none with
    | some text =>
      { writes := [(2, bytesOf (label ++ text ++ "\n"))], args, ended := true, status := 1 }
    | none =>
      let (bytes, rest) := readEscape dialect false rest
      (formatOnce dialect label fuel rest args).before bytes
  | fuel + 1, c :: rest, args =>
    (formatOnce dialect label fuel rest args).before [UInt8.ofNat c.toNat]

/-- Passes over a format until all arguments are used; each pass takes one of `fuel`. -/
def formatAll (dialect : Dialect) (label : String) (format : List Char) :
    (fuel : Nat) → List String → List (Nat × Stream) × Nat × List String
  | 0, args => ([], 0, args)
  | fuel + 1, args =>
    let f := formatOnce dialect label (format.length + 1) format args
    if f.ended || !f.used || f.args.isEmpty then
      (f.writes, f.status, if f.ended then [] else f.args)
    else
      let (more, status, left) := formatAll dialect label format fuel f.args
      (f.writes ++ more, max f.status status, left)

def printf (dialect : Dialect) (call : Call) : Effect :=
  let args := match call.args with | "--" :: rest => rest | args => args
  match args with
  | [] =>
    match dialect with
    | .shell => .complaining call 2 "usage: printf format [arg ...]"
    | .program => .misused call 1 "missing operand"
  | format :: args =>
    match dialect, format.toList with
    | .shell, '-' :: c :: _ =>
      if call.args.head? = some format then
        .complaining call 2 ("Illegal option -" ++ c.toString)
      else formatted format args
    | _, _ => formatted format args
where
  /-- Writes arguments as a format says. -/
  formatted (format : String) (args : List String) : Effect :=
    let (writes, status, left) :=
      formatAll dialect call.label format.toList (args.length + 1) args
    let warning := match left with
      | first :: _ =>
        if dialect = .program then
          [(2, bytesOf (call.label ++ "warning: ignoring excess arguments, starting with " ++
            quoted first ++ "\n"))]
        else []
      | [] => []
    { status, writes := writes ++ warning, disk := call.disk }

end PageScript.Shell.Program

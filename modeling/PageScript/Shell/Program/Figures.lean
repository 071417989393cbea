/-
Programs that compute: `expr` and `seq`.
-/
import PageScript.Shell.Program.Print
import PageScript.Shell.Regex

namespace PageScript.Shell.Program

-- ======== expr

namespace Expr

/-- What is wrong with an expression. -/
inductive Fault where
  | missingAfter (arg : String)
  | unexpectedArgument (arg : String)
  | unexpectedClosing
  | wantsClosingAfter (arg : String)
  | notInteger
  | divisionByZero
  | pattern (e : RegexFault)
  deriving Repr, DecidableEq, Inhabited

def Fault.message : Fault → String
  | .missingAfter arg => "syntax error: missing argument after " ++ quoted arg
  | .unexpectedArgument arg => "syntax error: unexpected argument " ++ quoted arg
  | .unexpectedClosing => "syntax error: unexpected ')'"
  | .wantsClosingAfter arg => "syntax error: expecting ')' after " ++ quoted arg
  | .notInteger => "non-integer argument"
  | .divisionByZero => "division by zero"
  | .pattern e => e.message

/-- An argument list that is being read: what is left, and what was read last. -/
structure Cursor where
  rest : List String
  last : String := ""

abbrev Reading := StateT Cursor (Except Fault)

def isNull (v : String) : Bool :=
  match v.toList with
  | '-' :: c :: cs => (c :: cs).all (· = '0')
  | cs => cs.all (· = '0')

def number (v : String) : Reading Int :=
  match v.toList with
  | '+' :: _ => throw .notInteger
  | _ => match integer? v with
    | some n => return n
    | none => throw .notInteger

def next? : Reading (Option String) := do
  return (← get).rest.head?

def take : Reading String := do
  let c ← get
  match c.rest with
  | [] => throw (.missingAfter c.last)
  | arg :: rest =>
    set ({ rest, last := arg } : Cursor)
    return arg

/-- What a pattern matches at the start of a text: its first group, or how many characters. -/
def matched (text pattern : String) : Reading String :=
  match Regex.parse { form := .basic } (widen pattern).toList with
  | .error e => throw (.pattern e)
  | .ok (r, groups) =>
    let chars := (widen text).toList.toArray
    let way := r.longest? { text := chars, exact := r.hasBack } 0
    match way with
    | some way =>
      if groups = 0 then return Number.natText way.place
      else return narrow (String.ofList (({ start := 0, way } : Regex.Match).group chars 1))
    | none => return if groups = 0 then "0" else ""

/-- The order of two values: as numbers if both are, otherwise as texts. -/
def compareValues (a b : String) : Ordering :=
  match integer? a, integer? b with
  | some x, some y => compare x y
  | _, _ => compare a.toList b.toList

def holds? (operator a b : String) : Option Bool :=
  let order := compareValues a b
  match operator with
  | "<" => some (order = .lt)
  | "<=" => some (order ≠ .gt)
  | "=" | "==" => some (order = .eq)
  | "!=" => some (order ≠ .eq)
  | ">=" => some (order ≠ .lt)
  | ">" => some (order = .gt)
  | _ => none

def operators : Nat → List String
  | 0 => ["|"]
  | 1 => ["&"]
  | 2 => ["<", "<=", "=", "==", "!=", ">=", ">"]
  | 3 => ["+", "-"]
  | 4 => ["*", "/", "%"]
  | _ => [":"]

def combine (operator a b : String) : Reading String := do
  match operator with
  | "|" => return if !isNull a then a else if !isNull b then b else "0"
  | "&" => return if isNull a || isNull b then "0" else a
  | ":" => matched a b
  | "+" => return Number.intText ((← number a) + (← number b))
  | "-" => return Number.intText ((← number a) - (← number b))
  | "*" => return Number.intText ((← number a) * (← number b))
  | "/" | "%" =>
    let x ← number a
    let y ← number b
    if y = 0 then throw .divisionByZero
    return Number.intText (if operator = "/" then x.tdiv y else x.tmod y)
  | _ => return if (holds? operator a b).getD false then "1" else "0"

mutual

def readLevel : (fuel : Nat) → (level : Nat) → Reading String
  | 0, _ => throw .notInteger
  | fuel + 1, level => do
    if level > 5 then readTerm fuel
    else
      let first ← readLevel fuel (level + 1)
      readMore fuel level first

def readMore : (fuel : Nat) → (level : Nat) → String → Reading String
  | 0, _, _ => throw .notInteger
  | fuel + 1, level, value => do
    match ← next? with
    | some operator =>
      if (operators level).contains operator then
        discard take
        let right ← readLevel fuel (level + 1)
        readMore fuel level (← combine operator value right)
      else return value
    | none => return value

def readTerm : (fuel : Nat) → Reading String
  | 0 => throw .notInteger
  | fuel + 1 => do
    let arg ← take
    match arg with
    | "+" => take
    | "(" =>
      let value ← readLevel fuel 0
      match ← next? with
      | some ")" =>
        discard take
        return value
      | some other => throw (.unexpectedArgument other)
      | none => throw (.wantsClosingAfter (← get).last)
    | ")" => throw .unexpectedClosing
    | "length" => return Number.natText (widen (← readTerm fuel)).length
    | "match" =>
      let text ← readTerm fuel
      matched text (← readTerm fuel)
    | "index" =>
      let text ← readTerm fuel
      let set := (widen (← readTerm fuel)).toList
      return Number.natText (((widen text).toList.findIdx? set.contains).elim 0 (· + 1))
    | "substr" =>
      let text ← readTerm fuel
      let start ← readTerm fuel
      let count ← readTerm fuel
      match integer? start, integer? count with
      | some s, some n =>
        if s ≤ 0 || n ≤ 0 then return ""
        else
          return narrow (String.ofList (((widen text).toList.drop (s.toNat - 1)).take n.toNat))
      | _, _ => return ""
    | _ => return arg

end

def evaluate (args : List String) : Except Fault String := do
  let (value, c) ← (readLevel (20 * args.length + 20) 0).run { rest := args }
  match c.rest with
  | [] => return value
  | arg :: _ => throw (.unexpectedArgument arg)

end Expr

def expr (call : Call) : Effect :=
  let args := match call.args with | "--" :: rest => rest | args => args
  if args.isEmpty then .misused call 2 "missing operand"
  else
    match Expr.evaluate args with
    | .ok value =>
      { Effect.writing call (value ++ "\n") with status := if Expr.isNull value then 1 else 0 }
    | .error e => .complaining call 2 e.message

-- ======== seq

/-- A decimal number: a whole number over a power of ten. -/
structure Decimal where
  value : Int
  places : Nat
  deriving Repr, DecidableEq, Inhabited

def Decimal.read? (text : String) : Option Decimal :=
  match frontDecimal? text.toList with
  | some (negative, num, den, []) =>
    let places := (Nat.toDigits 10 den).length - 1
    some ⟨if negative then -(num : Int) else num, places⟩
  | _ => none

def Decimal.inUnits (d : Decimal) (places : Nat) : Int :=
  d.value * 10 ^ (places - d.places)

def unitsText (places : Nat) (n : Int) : String :=
  (if n < 0 then "-" else "") ++ Number.pointed (Nat.toDigits 10 n.natAbs) places

/-- The arguments of `seq` parted into options and numbers; a number may be negative. -/
def seqArgs : List String → List String × List String
  | [] => ([], [])
  | arg :: rest =>
    match arg.toList with
    | '-' :: '-' :: [] => ([], rest)
    | '-' :: c :: more =>
      if c.isDigit || c = '.' then ([], arg :: rest)
      else if (c = 's' || c = 'f') && more.isEmpty then
        match rest with
        | value :: rest =>
          let (options, numbers) := seqArgs rest
          (arg :: value :: options, numbers)
        | [] => ([arg], [])
      else
        let (options, numbers) := seqArgs rest
        (arg :: options, numbers)
    | _ => ([], arg :: rest)

/-- What is wrong with a format that one number is written with; each character takes one of `fuel`.
`found` says that the place for the number has been read. -/
def formatFault? : (fuel : Nat) → List Char → (found : Bool) → Option String
  | 0, _, _ => none
  | _, [], found => if found then none else some "has no % directive"
  | fuel + 1, '%' :: '%' :: rest, found => formatFault? fuel rest found
  | fuel + 1, '%' :: rest, found =>
    if found then some "has too many % directives"
    else
      let rest := rest.dropWhile fun c => "-+#0 '".toList.contains c
      let rest := rest.dropWhile fun c => c.isDigit || c = '.'
      match rest with
      | [] => some "ends in %"
      | c :: rest =>
        if "aAeEfFgG".toList.contains c then formatFault? fuel rest true
        else some ("has unknown %" ++ c.toString ++ " directive")
  | fuel + 1, _ :: rest, found => formatFault? fuel rest found

def seq (call : Call) : Effect :=
  let (options, numbers) := seqArgs call.args
  Call.withOptions { call with args := options } 1
    { flags := "w".toList, valued := "fs".toList
      long := [("equal-width", 'w'), ("format", 'f'), ("separator", 's')] }
    fun o =>
      let usage (text : String) : Effect := .misused call 1 text
      match numbers.find? fun n => (Decimal.read? n).isNone, numbers with
      | _, [] => usage "missing operand"
      | _, _ :: _ :: _ :: extra :: _ => usage ("extra operand " ++ quoted extra)
      | some bad, _ => usage ("invalid floating point argument: " ++ quoted bad)
      | none, _ =>
        let ds := numbers.filterMap Decimal.read?
        let one : Decimal := ⟨1, 0⟩
        let (first, step, last) := match ds with
          | [a] => (one, one, a)
          | [a, b] => (a, one, b)
          | [a, b, c] => (a, b, c)
          | _ => (one, one, one)
        if step.value = 0 then
          usage ("invalid Zero increment value: " ++ quoted ((numbers[1]?).getD "0"))
        else run call o first step last
where
  /-- Writes numbers as the options say. -/
  run (call : Call) (o : Options) (first step last : Decimal) : Effect :=
    let scale := max first.places (max step.places last.places)
    let places := max first.places step.places
    let (a, d, b) := (first.inUnits scale, step.inUnits scale, last.inUnits scale)
    let count := if d > 0 then (if a > b then 0 else ((b - a) / d).toNat + 1)
      else if a < b then 0 else ((a - b) / (-d)).toNat + 1
    let values := (List.range count).map fun (i : Nat) => a + d * (i : Int)
    let down (n : Int) : Int := n.tdiv (10 ^ (scale - places))
    let plain := values.map fun n => unitsText places (down n)
    let texts : Except String (List String) :=
      match o.value? 'f' with
      | some format =>
        match formatFault? (format.length + 1) format.toList false with
        | some text => .error ("format " ++ quoted format ++ " " ++ text)
        | none =>
          .ok (plain.map fun text =>
            let f := formatOnce .program "" (format.length + 1) format.toList [text]
            ofBytes (f.writes.flatMap fun w => if w.1 = 1 then w.2 else []))
      | none =>
        if o.has 'w' then
          let width := (unitsText places (down b) :: plain.take 1).foldl
            (fun n t => max n t.length) 0
          .ok (values.map fun n =>
            let digits := unitsText places (down n.natAbs)
            let sign := if n < 0 then "-" else ""
            ({ width, zeros := true } : Layout).numeral sign digits true)
        else .ok plain
    match texts with
    | .error text => .complaining call 1 text
    | .ok [] => { disk := call.disk }
    | .ok texts => .writing call (((o.value? 's').getD "\n").intercalate texts ++ "\n")

end PageScript.Shell.Program

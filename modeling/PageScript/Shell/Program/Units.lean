/-
Numbers with and without letters for their size: `numfmt`.

Numbers are kept to 64 binary digits, and each step of the work is rounded to so many.
-/
import PageScript.Shell.Program.Columns

namespace PageScript.Shell.Program

-- ======== quantities

/-- A number with a sign, the rest of which is a quotient. -/
structure Ratio where
  negative : Bool := false
  num : Nat := 0
  den : Nat := 1
  deriving Repr, DecidableEq, Inhabited

namespace Ratio

def narrowed (m : Ratio) : Ratio :=
  let (num, den) := Number.narrow 64 m.num m.den
  { m with num, den }

def times (m : Ratio) (n : Nat) : Ratio :=
  narrowed { m with num := m.num * n }

def dividedBy (m : Ratio) (n : Nat) : Ratio :=
  narrowed { m with den := m.den * n }

def plus (m : Ratio) (n : Nat) : Ratio :=
  narrowed { m with num := m.num + n * m.den }

def reaches (m : Ratio) (n : Nat) : Bool :=
  n * m.den ≤ m.num

/-- How often a number can be divided by a base until it is below that, and what it is then; each
time takes one of `fuel`. -/
def scaled (base : Nat) : (fuel : Nat) → Ratio → Nat × Ratio
  | 0, m => (0, m)
  | fuel + 1, m =>
    if m.reaches base then
      let (power, m) := scaled base fuel (m.dividedBy base)
      (power + 1, m)
    else (0, m)

end Ratio

/-- How numbers are rounded. -/
inductive Rounding where
  | up
  | down
  | fromZero
  | towardsZero
  | nearest
  deriving Repr, DecidableEq, Inhabited

def Rounding.apply (r : Rounding) (m : Ratio) : Ratio :=
  let below := m.num / m.den
  let above := (m.num + m.den - 1) / m.den
  let n := match r with
    | .up => if m.negative then below else above
    | .down => if m.negative then above else below
    | .fromZero => above
    | .towardsZero => below
    | .nearest => (2 * m.num + m.den) / (2 * m.den)
  { m with num := n, den := 1 }

def sizeLetters : List Char :=
  "KMGTPEZYRQ".toList

/-- Which letters for sizes are read or written. -/
inductive Scale where
  | none
  | auto
  | si
  | iec
  /-- With an `i` behind the letter. -/
  | iecI
  deriving Repr, DecidableEq, Inhabited

def Scale.base : Scale → Nat
  | .iec | .iecI => 1024
  | _ => 1000

-- ======== reading

/-- What is wrong with a number. -/
inductive RatioFault where
  | badNumber
  | overflow
  | badSuffix
  | refusedSuffix
  | missingI
  | extra (rest : String)
  deriving Repr, DecidableEq, Inhabited

def RatioFault.message (text : String) : RatioFault → String
  | .badNumber => "invalid number: " ++ quoted text
  | .overflow => "value too large to be converted: " ++ quoted text
  | .badSuffix => "invalid suffix in input: " ++ quoted text
  | .refusedSuffix => "rejecting suffix in input: " ++ quoted text ++ " (consider using --from)"
  | .missingI => "missing 'i' suffix in input: " ++ quoted text ++ " (e.g Ki/Mi/Gi)"
  | .extra rest => "invalid suffix in input " ++ quoted text ++ ": " ++ quoted rest

def digitsRatio? (ds : List Char) : Option Ratio :=
  if (ds.dropWhile (· = '0')).length > 33 then none
  else
    some (ds.foldl (fun m d => (m.times 10).plus (Number.digitsValue [d])) {})

/-- Reads a number without a letter: the number, how many places it has behind the point, and what
follows it. -/
def readRatio (cs : List Char) : Except RatioFault (Ratio × Nat × List Char) := do
  let negative : Bool := cs.head? = some '-'
  let cs := if negative then cs.drop 1 else cs
  let units := cs.takeWhile Char.isDigit
  let rest := cs.drop units.length
  if units.isEmpty && rest.head? ≠ some '.' then throw .badNumber
  let some whole := digitsRatio? units | throw .overflow
  match rest with
  | '.' :: rest =>
    let places := rest.takeWhile Char.isDigit
    if places.isEmpty && (rest.drop places.length).head? ≠ some '.' then throw .badNumber
    let some part := digitsRatio? places | throw .overflow
    let part := part.dividedBy (10 ^ places.length)
    let sum : Ratio :=
      { negative, num := whole.num * part.den + part.num * whole.den, den := whole.den * part.den }
    return (sum.narrowed, places.length, rest.drop places.length)
  | rest => return ({ whole with negative }, 0, rest)

def Scale.read (scale : Scale) (cs : List Char) : Except RatioFault (Ratio × Nat) := do
  let (m, places, rest) ← readRatio cs
  let blank (c : Char) : Bool := c = ' ' || c = '\t'
  let (power, base, places, rest) ← match rest with
    | [] => pure (0, scale.base, places, [])
    | rest =>
      match rest.dropWhile blank with
      | c :: rest =>
        match sizeLetters.idxOf? c with
        | some i =>
          if scale = .none then throw .refusedSuffix
          else if scale = .auto ∧ rest.head? = some 'i' then pure (i + 1, 1024, 0, rest.drop 1)
          else pure (i + 1, scale.base, 0, rest)
        | Option.none => throw .badSuffix
      | [] => throw .badSuffix
  let rest ← if scale = .iecI ∧ power > 0 then
      match rest with
      | 'i' :: rest => pure rest
      | _ => throw .missingI
    else pure rest
  if !rest.isEmpty then throw (.extra (String.ofList rest))
  return (m.times (base ^ power), places)

-- ======== writing

/-- How numbers are laid out. -/
structure RatioFormat where
  /-- What stands in front of the number. -/
  front : String := ""
  back : String := ""
  /-- The least width, and whether blanks go behind the number. -/
  width : Nat := 0
  left : Bool := false
  /-- The least width of the number itself, reached by zeros. -/
  zeros : Nat := 0
  places : Option Nat := none
  deriving Repr, DecidableEq, Inhabited

/-- What is wrong with a format. -/
inductive FormatFault where
  | noDirective
  | ends
  | badPlaces
  | badDirective
  | tooMany
  deriving Repr, DecidableEq, Inhabited

def FormatFault.message (format : String) : FormatFault → String
  | .noDirective => "format " ++ quoted format ++ " has no % directive"
  | .ends => "format " ++ quoted format ++ " ends in %"
  | .badPlaces => "invalid precision in format " ++ quoted format
  | .badDirective =>
    "invalid format " ++ quoted format ++ ", directive must be %[0]['][-][N][.][N]f"
  | .tooMany => "format " ++ quoted format ++ " has too many % directives"

/-- What stands in front of the directive of a format, and what follows its percent sign. -/
def splitDirective : List Char → Option (List Char × List Char)
  | [] => none
  | '%' :: '%' :: rest => (splitDirective rest).map fun (front, rest) => ('%' :: '%' :: front, rest)
  | '%' :: rest => some ([], rest)
  | c :: rest => (splitDirective rest).map fun (front, rest) => (c :: front, rest)

def RatioFormat.read (f : RatioFormat) (text : String) : Except FormatFault RatioFormat := do
  let some (front, rest) := splitDirective text.toList | throw .noDirective
  let flags := rest.takeWhile fun c => c = ' ' || c = '0' || c = '\''
  let rest := rest.drop flags.length
  let (left, rest) := match rest with
    | '-' :: d :: more => if d.isDigit then (true, d :: more) else (false, rest)
    | _ => (false, rest)
  let ds := rest.takeWhile Char.isDigit
  let n := Number.digitsValue ds
  let rest := rest.drop ds.length
  if rest.isEmpty then throw .ends
  let f :=
    if n = 0 then f
    else if left then { f with left, width := n }
    else if flags.contains '0' then { f with zeros := n }
    else { f with width := n, left := false }
  let (places, rest) ← match rest with
    | '.' :: more =>
      let ds := more.takeWhile Char.isDigit
      if "-+ \t".toList.contains (more.headD 'f') then throw .badPlaces
      pure (some (Number.digitsValue ds), more.drop ds.length)
    | _ => pure (none, rest)
  match rest with
  | 'f' :: back =>
    if (splitDirective back).isSome then throw .tooMany
    return { f with front := String.ofList front, back := String.ofList back, places }
  | _ => throw .badDirective

def Scale.text (scale : Scale) (f : RatioFormat) (rounding : Rounding) (places : Nat)
    (m : Ratio) : String :=
  let show' (places : Nat) (m : Ratio) : String :=
    ({ width := f.zeros, zeros := true } : Layout).numeral (if m.negative then "-" else "")
      (Number.fixedText places m.num m.den) true
  match scale with
  | .none =>
    let unit := 10 ^ places
    show' places ((rounding.apply (m.times unit)).dividedBy unit)
  | _ =>
    let (power, m) := m.scaled scale.base 40
    let kept := match f.places with
      | some places => min (power * 3) places
      | Option.none => if m.reaches 10 then 0 else 1
    let unit := 10 ^ kept
    let m := (rounding.apply (m.times unit)).dividedBy unit
    let (power, m) :=
      if m.reaches scale.base then (power + 1, m.dividedBy scale.base) else (power, m)
    let pointed : Bool := m.num ≠ 0 && !m.reaches 10 && power > 0
    let letter := if power = 0 then "" else ((sizeLetters[power - 1]?).map Char.toString).getD ""
    show' (f.places.getD (if pointed then 1 else 0)) m ++ letter ++
      (if scale = .iecI && power > 0 then "i" else "")

-- ======== program

/-- What becomes of a text that is no number. -/
inductive Invalid where
  | abort
  | fail
  | warn
  | ignore
  deriving Repr, DecidableEq, Inhabited

/-- What the program is asked to do with numbers. -/
structure Conversion where
  source : Scale := .none
  target : Scale := .none
  sourceUnit : Nat := 1
  targetUnit : Nat := 1
  rounding : Rounding := .fromZero
  format : RatioFormat := {}
  suffix : String := ""
  fields : List (Nat × Option Nat) := [(1, some 1)]
  divider : Option Char := none
  invalid : Invalid := .abort
  mark : UInt8 := lineFeed

/-- A number as `%g` has it. -/
def Ratio.brief (m : Ratio) : String :=
  (if m.negative then "-" else "") ++ Number.generalText 6 false m.num m.den

def Conversion.field (c : Conversion) (index : Nat) (text : String) : Except String String := do
  let cut := c.suffix ≠ "" && text.length > c.suffix.length && text.endsWith c.suffix
  let text := if cut then (text.dropEnd c.suffix.length).toString else text
  let bare := (text.toList.dropWhile fun d => d = ' ' || d = '\t')
  let auto := c.format.width = 0 && c.divider.isNone
  let width :=
    if auto then if bare.length < text.length || index > 1 then text.length else 0
    else c.format.width
  match c.source.read bare with
  | .error e => throw (e.message (String.ofList bare))
  | .ok (m, places) =>
    let m := if c.sourceUnit ≠ 1 || c.targetUnit ≠ 1 then
      (m.times c.sourceUnit).dividedBy c.targetUnit else m
    let places := c.format.places.getD places
    let (digits, _) := m.scaled 10 5000
    if c.target = .none && digits + places > 18 then
      if places = 0 then
        throw ("value too large to be printed: '" ++ m.brief ++ "' (consider using --to)")
      else
        throw ("value/precision too large to be printed: '" ++ m.brief ++ "/" ++
          Number.natText places ++ "' (consider using --to)")
    if digits > 32 then
      throw ("value too large to be printed: '" ++ m.brief ++ "' (cannot handle values > 999Q)")
    let number := c.target.text c.format c.rounding places m ++ c.suffix
    let layout : Layout := { width, left := c.format.left }
    return c.format.front ++ layout.pad number ++ c.format.back

/-- The fields of a line; each takes one of `fuel`. -/
def Conversion.split (c : Conversion) : (fuel : Nat) → List Char → List String
  | 0, _ => []
  | fuel + 1, cs =>
    let blank (d : Char) : Bool := d = ' ' || d = '\t' || d = '\n'
    let field := match c.divider with
      | some divider => cs.takeWhile (· ≠ divider)
      | none =>
        let lead := cs.takeWhile blank
        lead ++ (cs.drop lead.length).takeWhile (!blank ·)
    match cs.drop field.length with
    | [] => [String.ofList field]
    | _ :: rest => String.ofList field :: c.split fuel rest

/-- Converts a line. The effect says in its status how it went; only a status of its own ends the
program at once, which the flag says. -/
def Conversion.line (call : Call) (c : Conversion) (e : Effect) (line : String) : Effect × Bool :=
  let fields := (c.split (line.length + 1) line.toList).zipIdx
  let between := ((c.divider.map Char.toString).getD " ")
  let (e, stopped) := fields.foldl
    (fun (acc : Effect × Bool) (text, i) =>
      let (e, stopped) := acc
      if stopped then acc
      else
        let e := if i > 0 then e.send (bytesOf between) else e
        if inSome c.fields (i + 1) then
          match c.field (i + 1) text with
          | .ok shown => (e.send (bytesOf shown), false)
          | .error why =>
            match c.invalid with
            | .abort => (e.complain call 2 why, true)
            | .fail => ((e.complain call 2 why).send (bytesOf text), false)
            | .warn => ((e.complain call 0 why).send (bytesOf text), false)
            | .ignore => (e.send (bytesOf text), false)
        else (e.send (bytesOf text), false))
    (e, false)
  (if stopped then e else e.send [c.mark], stopped)

def Conversion.lines (call : Call) (c : Conversion) (e : Effect) : List String → Effect
  | [] => e
  | line :: rest =>
    match c.line call e line with
    | (e, true) => e
    | (e, false) => c.lines call e rest

def unitSize? (text : String) : Option Nat :=
  let ds := text.toList.takeWhile Char.isDigit
  let n := if ds.isEmpty then 1 else Number.digitsValue ds
  let power (c : Char) : Option Nat := (sizeLetters.idxOf? c).map (· + 1)
  if text = "" || n = 0 then none
  else
    match text.toList.drop ds.length with
    | [] => some n
    | [c] => (power c).map fun p => n * 1000 ^ p
    | [c, 'i'] => (power c).map fun p => n * 1024 ^ p
    | _ => none

def Scale.ofName : String → Scale
  | "auto" => .auto
  | "si" => .si
  | "iec" => .iec
  | "iec-i" => .iecI
  | _ => .none

def Rounding.ofName : String → Rounding
  | "up" => .up
  | "down" => .down
  | "towards-zero" => .towardsZero
  | "nearest" => .nearest
  | _ => .fromZero

def Invalid.ofName : String → Invalid
  | "fail" => .fail
  | "warn" => .warn
  | "ignore" => .ignore
  | _ => .abort

/-- What is wrong with how the program is called; some of it comes with advice. -/
inductive ConversionFault where
  | plain (text : String)
  | advised (text : String)

def Conversion.ofOptions (o : Options) : Except ConversionFault Conversion := do
  let pick (letter : Char) (name : String) (known : List String) :
      Except ConversionFault String :=
    match o.value? letter with
    | none => .ok ""
    | some value => (chosen name known value).mapError ConversionFault.advised
  let source ← pick 'F' "from" ["none", "auto", "si", "iec", "iec-i"]
  let target ← pick 'T' "to" ["none", "si", "iec", "iec-i"]
  let rounding ← pick 'R' "round" ["up", "down", "from-zero", "towards-zero", "nearest"]
  let invalid ← pick 'I' "invalid" ["abort", "fail", "warn", "ignore"]
  let unit (letter : Char) : Except ConversionFault Nat :=
    match o.value? letter with
    | none => .ok 1
    | some text =>
      match unitSize? text with
      | some n => .ok n
      | none => .error (.plain ("invalid unit size: " ++ quoted text))
  let sourceUnit ← unit 'f'
  let targetUnit ← unit 't'
  let padding ← match o.value? 'p' with
    | none => pure (0 : Int)
    | some text =>
      match integer? text with
      | some 0 | none => throw (.plain ("invalid padding value " ++ quoted text))
      | some n => pure n
  let fields ← match o.value? 'k' with
    | none => pure [(1, some 1)]
    | some "-" => pure [(1, none)]
    | some text =>
      (readRanges (text.length + 1) text.toList).mapError fun e =>
        ConversionFault.advised (e.message true)
  let divider ← match o.value? 'd' with
    | none => pure none
    | some text =>
      match text.toList with
      | [c] => pure (some c)
      | [] => pure (some '\x00')
      | _ => throw (.plain "the delimiter must be a single character")
  let base : RatioFormat := { width := padding.natAbs, left := padding < 0 }
  let format ← match o.value? 'm' with
    | none => pure base
    | some text => (base.read text).mapError fun e => ConversionFault.plain (e.message text)
  if o.has 'g' && o.has 'm' then throw (.plain "--grouping cannot be combined with --format")
  if o.has 'g' && target ≠ "" && target ≠ "none" then
    throw (.plain "grouping cannot be combined with --to")
  return {
    source := .ofName source, target := .ofName target, rounding := .ofName rounding
    invalid := .ofName invalid, sourceUnit, targetUnit, format, fields, divider
    suffix := (o.value? 's').getD "", mark := o.mark }

def numfmt (call : Call) : Effect :=
  let headers := call.args.map fun a => if a = "--header" then "--header=1" else a
  { call with args := headers }.withOptions 1
    { flags := ['z'], valued := ['d'], valuedLong := "FTRIftpkmsh".toList
      long := [("debug", 'D'), ("delimiter", 'd'), ("field", 'k'), ("format", 'm'), ("from", 'F'),
        ("from-unit", 'f'), ("grouping", 'g'), ("header", 'h'), ("invalid", 'I'), ("padding", 'p'),
        ("round", 'R'), ("suffix", 's'), ("to", 'T'), ("to-unit", 't'), ("zero-terminated", 'z')] }
    fun o =>
      match Conversion.ofOptions o, ((o.value? 'h').map decimal?).getD (some 0) with
      | .error (.plain text), _ => .complaining call 1 text
      | .error (.advised text), _ => .misused call 1 text
      | .ok _, none =>
        .complaining call 1 ("invalid header value " ++ quoted ((o.value? 'h').getD ""))
      | .ok c, some header =>
        if o.operands.isEmpty then
          let lines := lineTexts call.input c.mark
          let front : Effect :=
            { writes := [(1, asLines (lines.take header) c.mark)], rest := some []
              disk := call.disk }
          c.lines call front (lines.drop header)
        else c.lines call { disk := call.disk } o.operands

end PageScript.Shell.Program

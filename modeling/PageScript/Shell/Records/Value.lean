/-
The values of scripts that work through records: numbers and texts.

A text counts as a number by what it begins with. What comes from outside is a text that compares as
a number if all of it is one. A number becomes a text without a fraction if it has none, and by a
format otherwise.
-/
import PageScript.Shell.Program.Print

namespace PageScript.Shell.Records

open Program (Layout)

/-- A value. -/
inductive Value where
  /-- The value of what was never assigned to. -/
  | absent
  | number (x : Float)
  | text (s : String)
  /-- A text from outside. -/
  | given (s : String)
  deriving Inhabited

-- ======== numbers

def quantityOf (x : Float) : Program.Quantity :=
  match Number.decode x with
  | .nan => .word "-nan"
  | .infinite negative => .word (if negative then "-inf" else "inf")
  | .finite negative m q =>
    if 0 ≤ q then .ratio negative (m * 2 ^ q.toNat) 1 else .ratio negative m (2 ^ (-q).toNat)

def remainder (x y : Float) : Float :=
  match quantityOf x, quantityOf y with
  | .ratio negative a b, .ratio _ c d =>
    if c = 0 then 0 / 0
    else
      let scaled := a * d
      let unit := c * b
      Number.ofFraction negative (scaled % unit) (b * d)
  | .ratio _ _ _, .word w => if w = "-nan" then 0 / 0 else x
  | _, _ => 0 / 0

def greatestWhole : Int := 2 ^ 64 - 1

def wholeText? (x : Float) : Option String :=
  match Number.whole? x with
  | some n =>
    if n = 2 ^ 64 then some (Number.intText greatestWhole)
    else if -2 ^ 63 ≤ n ∧ n ≤ greatestWhole then some (Number.intText n)
    else none
  | none => none

def integerOf (x : Float) : Int :=
  match Number.decode x with
  | .nan => -2 ^ 63
  | .infinite negative => if negative then -(2 ^ 63 - 1) else greatestWhole
  | .finite negative m q =>
    let n : Nat := if 0 ≤ q then m * 2 ^ q.toNat else m / 2 ^ (-q).toNat
    if negative then max (-(n : Int)) (-(2 ^ 63 - 1)) else min n greatestWhole

/-- A layout with its letter, as in `%.6g`, or none if a format is something else. -/
def numberLayout? (format : String) : Option (Layout × Char) :=
  match format.toList with
  | '%' :: cs =>
    let (layout, rest, _) := Program.readLayout cs []
    match rest with
    | [kind] => if "eEfFgGdi".toList.contains kind then some (layout, kind) else none
    | _ => none
  | _ => none

/-- A number as a text: without a fraction if it has none, and by a format otherwise. -/
def numberText (format : String) (x : Float) : String :=
  match wholeText? x with
  | some s => s
  | none =>
    match numberLayout? format with
    | some (layout, kind) =>
      if kind = 'd' ∨ kind = 'i' then
        let n := integerOf x
        layout.whole (layout.sign (n < 0)) (Number.natText n.natAbs)
      else layout.fraction kind (quantityOf x)
    | none => ({} : Layout).fraction 'g' (quantityOf x)

-- ======== texts

def isBlankChar (c : Char) : Bool :=
  c = ' ' || c = '\t' || c = '\n' || c = '\r' || c = '\x0B' || c = '\x0C'

def leadingNumber (s : String) : Float :=
  let cs := s.toList.dropWhile isBlankChar
  let (negative, body) := Number.splitSign cs
  let lower := String.ofList ((body.take 3).map Char.toLower)
  if lower = "inf" then (if negative then -1 / 0 else 1 / 0)
  else if lower = "nan" then 0 / 0
  else
    match body with
    | '0' :: x :: d :: _ =>
      if (x = 'x' ∨ x = 'X') ∧ (Number.hexValue? d).isSome then
        let (n, _, _) := Program.frontInteger cs
        Number.ofFraction (n < 0) n.natAbs 1
      else decimal cs
    | _ => decimal cs
where
  /-- The decimal at the front of a text. -/
  decimal (cs : List Char) : Float :=
    match Program.frontDecimal? cs with
    | some (negative, num, den, _) => Number.ofFraction negative num den
    | none => 0

def looksNumeric (s : String) : Bool :=
  let cs := s.toList.dropWhile isBlankChar
  let (_, body) := Number.splitSign cs
  let bare := (cs.reverse.dropWhile isBlankChar).reverse
  if ["nan", "-nan", "inf", "-inf"].contains (String.ofList bare) then true
  else if (bare.getLast?.map fun c => c.isDigit || c = '.').getD false then
    match body with
    | '0' :: 'x' :: ds | '0' :: 'X' :: ds =>
      (ds.dropWhile fun c => (Number.hexValue? c).isSome).all isBlankChar
    | '.' :: _ => decimal cs
    | c :: _ => c.isDigit && decimal cs
    | [] => false
  else false
where
  /-- Whether all of a text is a decimal. -/
  decimal (cs : List Char) : Bool :=
    match Program.frontDecimal? cs with
    | some (_, _, _, rest) => rest.all isBlankChar
    | none => false

namespace Value

def toNumber : Value → Float
  | .absent => 0
  | .number x => x
  | .text s | .given s => leadingNumber s

def toText (format : String) : Value → String
  | .absent => ""
  | .number x => numberText format x
  | .text s | .given s => s

def isTrue : Value → Bool
  | .absent => false
  | .number x => x != 0
  | .text s => s ≠ ""
  | .given s => if looksNumeric s then leadingNumber s != 0 else s ≠ ""

def isNumeric : Value → Bool
  | .absent | .number _ => true
  | .text _ => false
  | .given s => looksNumeric s

/-- How two numbers are ordered; what is no number comes behind all others. -/
def orderNumbers (x y : Float) : Ordering :=
  if x < y then .lt else if x == y then .eq else if y < x then .gt
  else if x.isNaN && y.isNaN then .eq else .gt

def order (format : String) (a b : Value) : Ordering :=
  if a.isNumeric && b.isNumeric then orderNumbers a.toNumber b.toNumber
  else compare (a.toText format) (b.toText format)

def ofBool (b : Bool) : Value :=
  .number (if b then 1 else 0)

def ofNat (n : Nat) : Value :=
  .number (Number.ofFraction false n 1)

end Value

-- ======== layouts

/-- What is wrong with a format and the values for it. -/
inductive FormatFault where
  | tooFew
  /-- A directive, counted from 1, that means nothing. -/
  | improper (number : Nat)
  deriving Repr, DecidableEq, Inhabited

def FormatFault.message (verb format : String) : FormatFault → String
  | .tooFew => "not enough arguments passed to " ++ verb ++ "(\"" ++ format ++ "\")"
  | .improper n =>
    "improper conversion(number " ++ Number.natText n ++ ") in " ++ verb ++ "(\"" ++ format ++ "\")"

/-- One value as a directive lays it out; none if there is no such directive. -/
def layOut? (format : String) (l : Layout) (kind : Char) (v : Value) : Option String :=
  let signed : String :=
    let n := integerOf v.toNumber
    l.whole (l.sign (n < 0)) (Number.natText n.natAbs)
  let unsigned (base : Nat) (upper : Bool) (mark : String) : String :=
    let digits := Program.digitsIn base upper (integerOf v.toNumber % 2 ^ 64).toNat
    l.whole (if l.marked && digits ≠ "0" then mark else "") digits
  match kind with
  | 'd' | 'i' => some signed
  | 'o' => some (unsigned 8 false "0")
  | 'u' => some (unsigned 10 false "")
  | 'x' => some (unsigned 16 false "0x")
  | 'X' => some (unsigned 16 true "0X")
  | 'e' | 'E' | 'f' | 'F' | 'g' | 'G' => some (l.fraction kind (quantityOf v.toNumber))
  | 'c' =>
    let c := match v with
      | .number x => Char.ofNat ((integerOf x) % 256).toNat
      | v => (v.toText format).toList.headD '\x00'
    some (l.pad c.toString)
  | 's' =>
    let text := v.toText format
    some (l.pad (match l.precision with
      | some p => String.ofList (text.toList.take p)
      | none => text))
  | _ => none

/-- Values as a format says: the text up to where something is wrong, and what that is. Each
character takes one of `fuel`, and `count` is the number of the next directive. -/
def formatted (convert : String) : (fuel : Nat) → (count : Nat) → List Char → List Value →
    String × Option FormatFault
  | 0, _, _, _ | _, _, [], _ => ("", none)
  | fuel + 1, count, '%' :: '%' :: rest, args =>
    let (more, fault) := formatted convert fuel count rest args
    ("%" ++ more, fault)
  | fuel + 1, count, '%' :: cs, args =>
    let texts := args.map (Value.toText convert)
    let (layout, rest, left) := Program.readLayout cs texts
    let args := args.drop (texts.length - left.length)
    let rest := rest.dropWhile fun c => c = 'l' || c = 'h'
    match rest, args with
    | kind :: rest, v :: args =>
      match layOut? convert layout kind v with
      | some text =>
        let (more, fault) := formatted convert fuel (count + 1) rest args
        (text ++ more, fault)
      | none => ("", some (.improper count))
    | _, _ => ("", some .tooFew)
  | fuel + 1, count, c :: rest, args =>
    let (more, fault) := formatted convert fuel count rest args
    (c.toString ++ more, fault)

def formatValues (convert format : String) (args : List Value) : String × Option FormatFault :=
  formatted convert (format.length + 1) 1 format.toList args

end PageScript.Shell.Records

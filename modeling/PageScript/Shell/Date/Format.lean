/-
Times in a format: directives behind percent signs, as in `%Y-%m-%d`.

Between the sign and the letter of a directive there may be flags, which say how to fill and in
which case to write, and a width. What is no directive is shown as it is written.
-/
import PageScript.Disk.Tree
import PageScript.Number.Decimal
import PageScript.Shell.Date.Civil

namespace PageScript.Shell.Date

/-- A time to show: seconds from the start of 1970, and billionths of a second. -/
structure Moment where
  seconds : Int := startOfClock
  nanos : Nat := 0
  deriving Repr, DecidableEq, Inhabited

/-- What stands between the percent sign and the letter of a directive. -/
structure Adornment where
  pad : Option Char := none
  upper : Bool := false
  swapped : Bool := false
  width : Option Nat := none
  colons : Nat := 0
  deriving Repr, DecidableEq, Inhabited

namespace Adornment

def text (a : Adornment) (t : String) : String :=
  let t := if a.upper then String.ofList (t.toList.map Char.toUpper) else t
  let lacking := if a.pad = some '-' then 0 else a.width.getD 0 - t.length
  let fill := if a.pad = some '0' ∨ a.pad = some '+' then '0' else ' '
  String.ofList (List.replicate lacking fill) ++ t

def name (a : Adornment) (t : String) : String :=
  { a with upper := a.upper || a.swapped }.text t

/-- A word in capitals, which is written in small letters if the case is to be swapped. -/
def capitals (a : Adornment) (t : String) : String :=
  if a.swapped then { a with upper := false }.text (String.ofList (t.toList.map Char.toLower))
  else a.text t

def number (a : Adornment) (n : Int) (width : Nat) (fill : Char := '0') : String :=
  let digits := toString n.natAbs
  let sign := if n < 0 then "-" else ""
  let fill := match a.pad with | some '_' => ' ' | some '0' | some '+' => '0' | _ => fill
  let width := if a.pad = some '-' then 0 else a.width.getD width
  let padding := String.ofList (List.replicate (width - digits.length - sign.length) fill)
  if fill = ' ' then padding ++ sign ++ digits else sign ++ padding ++ digits

end Adornment

def longhand? : Char → Option String
  | 'c' => some "%a %b %e %H:%M:%S %Y"
  | 'D' | 'x' => some "%m/%d/%y"
  | 'F' => some "%Y-%m-%d"
  | 'r' => some "%I:%M:%S %p"
  | 'R' => some "%H:%M"
  | 'T' | 'X' => some "%H:%M:%S"
  | _ => none

def directive? (m : Moment) (a : Adornment) (letter : Char) : Option String :=
  let c := Civil.ofSeconds m.seconds
  let named (names : List String) (i : Int) : String := names.getD i.toNat ""
  let short (t : String) : String := (t.take 3).toString
  let twelve : Int := if c.hour % 12 = 0 then 12 else c.hour % 12
  match letter with
  | 'a' => some (a.name (short (named dayNames c.weekday)))
  | 'A' => some (a.name (named dayNames c.weekday))
  | 'b' | 'h' => some (a.name (short (named monthNames (c.month - 1))))
  | 'B' => some (a.name (named monthNames (c.month - 1)))
  | 'C' => some (a.number (c.year.fdiv 100) 2)
  | 'd' => some (a.number c.day 2)
  | 'e' => some (a.number c.day 2 ' ')
  | 'g' => some (a.number (c.standardWeek.1.fmod 100) 2)
  | 'G' => some (a.number c.standardWeek.1 4)
  | 'H' => some (a.number c.hour 2)
  | 'I' => some (a.number twelve 2)
  | 'j' => some (a.number (c.yearDay + 1) 3)
  | 'k' => some (a.number c.hour 2 ' ')
  | 'l' => some (a.number twelve 2 ' ')
  | 'm' => some (a.number c.month 2)
  | 'M' => some (a.number c.minute 2)
  | 'n' => some (a.text "\n")
  | 'N' =>
    let digits := toString m.nanos
    let all := String.ofList (List.replicate (9 - digits.length) '0') ++ digits
    let width := a.width.getD 9
    some ((all.take width).toString ++ String.ofList (List.replicate (width - 9) '0'))
  | 'p' => some (a.capitals (if c.hour < 12 then "AM" else "PM"))
  | 'P' => some (a.text (if c.hour < 12 then "am" else "pm"))
  | 'q' => some (a.number ((c.month - 1) / 3 + 1) 1)
  | 's' => some (a.number m.seconds 1)
  | 'S' => some (a.number c.second 2)
  | 't' => some (a.text "\t")
  | 'u' => some (a.number ((c.weekday + 6).fmod 7 + 1) 1)
  | 'U' => some (a.number (c.week 0) 2)
  | 'V' => some (a.number c.standardWeek.2 2)
  | 'w' => some (a.number c.weekday 1)
  | 'W' => some (a.number (c.week 1) 2)
  | 'y' => some (a.number (c.year.fmod 100) 2)
  | 'Y' => some (a.number c.year 4)
  | 'z' =>
    match a.colons with
    | 0 => some (a.text "+0000")
    | 1 => some (a.text "+00:00")
    | 2 => some (a.text "+00:00:00")
    | 3 => some (a.text "+00")
    | _ => none
  | 'Z' => some (a.capitals "UTC")
  | '%' => if a = {} then some "%" else none
  | _ => none

def adornment (cs : List Char) : Adornment × List Char :=
  let flags := cs.takeWhile fun c => "-_0^#+".toList.contains c
  let a : Adornment := flags.foldl
    (fun a c => match c with
      | '^' => { a with upper := true }
      | '#' => { a with swapped := true }
      | c => { a with pad := some c })
    {}
  let cs := cs.drop flags.length
  let digits := cs.takeWhile Char.isDigit
  let width := if digits.isEmpty then none else some (Number.digitsValue digits)
  let cs := cs.drop digits.length
  let cs := match cs with
    | 'E' :: d :: rest | 'O' :: d :: rest => if d.isAlpha then d :: rest else cs
    | cs => cs
  let colons := cs.takeWhile (· = ':')
  ({ a with width, colons := colons.length }, cs.drop colons.length)

/-- A time in a format in which no directive stands for others; each character takes one of
`fuel`. -/
def plainly (m : Moment) (long : Adornment → Char → Option String) :
    (fuel : Nat) → List Char → String
  | 0, _ | _, [] => ""
  | fuel + 1, '%' :: rest =>
    let (a, behind) := adornment rest
    let kept (n : Nat) : String :=
      String.ofList ('%' :: rest.take n) ++ plainly m long fuel (rest.drop n)
    match behind with
    | [] => kept rest.length
    | letter :: after =>
      match long a letter <|> directive? m a letter with
      | some t => t ++ plainly m long fuel after
      | none => kept (rest.length - after.length)
  | fuel + 1, c :: rest => c.toString ++ plainly m long fuel rest

def Moment.show (m : Moment) (format : String) : String :=
  let long (a : Adornment) (letter : Char) : Option String :=
    (longhand? letter).map fun shape =>
      let shape := if letter = 'F' ∧ a.pad = some '_' then "%_Y-%m-%d" else shape
      a.text (plainly m (fun _ _ => none) (shape.length + 1) shape.toList)
  plainly m long (format.length + 1) format.toList

end PageScript.Shell.Date

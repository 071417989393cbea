/-
Tabs and blanks: `unexpand`.

A tab leads to the next stop. Stops are given one by one; behind the last of them there can be
further ones at regular distances.
-/
import PageScript.Shell.Program.Basic

namespace PageScript.Shell.Program

-- ======== stops

/-- Where tabs lead to. -/
structure Stops where
  /-- The stops given one by one, in increasing order. -/
  places : List Nat := []
  /-- Behind those, stops are at the multiples of this. -/
  every : Option Nat := none
  /-- Behind those, stops are at this distance from the last of them and from each other. -/
  distance : Option Nat := none
  deriving Repr, DecidableEq, Inhabited

/-- What is wrong with stops. -/
inductive StopFault where
  | zero
  | descending
  | strange (rest : String)
  | large (digits : String)
  | inside (mark : Char) (rest : String)
  | notLast (mark : Char)
  | both
  deriving Repr, DecidableEq, Inhabited

def StopFault.message : StopFault → String
  | .zero => "tab size cannot be 0"
  | .descending => "tab sizes must be ascending"
  | .strange rest => "tab size contains invalid character(s): " ++ quoted rest
  | .large digits => "tab stop is too large " ++ quoted digits
  | .inside mark rest =>
    ticked mark.toString ++ " specifier not at start of number: " ++ quoted rest
  | .notLast mark => ticked mark.toString ++ " specifier only allowed with the last value"
  | .both => "'/' specifier is mutually exclusive with '+'"

namespace Stops

def add (s : Stops) (mark : Option Char) (n : Nat) : Except StopFault Stops :=
  match mark with
  | some '/' => if s.every.isSome then .error (.notLast '/') else .ok { s with every := some n }
  | some '+' =>
    if s.distance.isSome then .error (.notLast '+') else .ok { s with distance := some n }
  | _ => .ok { s with places := s.places ++ [n] }

def finishNumber (s : Stops) (mark : Option Char) (digits : List Char) : Except StopFault Stops :=
  let n := Number.digitsValue digits.reverse
  if n ≥ 2 ^ 64 then .error (.large (String.ofList digits.reverse)) else s.add mark n

/-- Reads stops from a text, behind those that are there already. `digits` are those of the number
being read, backwards. -/
def readFrom (s : Stops) (mark : Option Char) (digits : List Char) :
    List Char → Except StopFault Stops
  | [] => if digits.isEmpty then .ok s else s.finishNumber mark digits
  | c :: rest =>
    if c = ',' || c = ' ' || c = '\t' then
      if digits.isEmpty then s.readFrom mark [] rest
      else
        match s.finishNumber mark digits with
        | .error e => .error e
        | .ok s => s.readFrom mark [] rest
    else if c = '/' || c = '+' then
      if digits.isEmpty then s.readFrom (some c) [] rest
      else .error (.inside c (String.ofList (c :: rest)))
    else if c.isDigit then s.readFrom mark (c :: digits) rest
    else .error (.strange (String.ofList (c :: rest)))

/-- Stops that make sense: every one lies behind the one before it. -/
def check (s : Stops) : Except StopFault Stops :=
  if s.places.contains 0 then .error .zero
  else if (s.places.zip (s.places.drop 1)).any fun (a, b) => b ≤ a then .error .descending
  else if s.every.isSome && s.distance.isSome then .error .both
  else
    match s.places, s.every, s.distance with
    | [], none, none => .ok { every := some 8 }
    | [], none, some n => .ok { every := some (max 1 n) }
    | [n], none, none => .ok { every := some n }
    | _, _, _ => .ok s

def next? (s : Stops) (column : Nat) : Option Nat :=
  match s.places.find? (column < ·), s.every, s.distance with
  | some stop, _, _ => some stop
  | none, some n, _ => some (column + (n - column % n))
  | none, none, some n => some (column + (n - (column - s.places.getLastD 0) % n))
  | none, none, none => none

def bareLetter : Char := '\x01'

def ofOptions (o : Options) : Except StopFault Stops := do
  let texts := (o.given.filter fun g => g.1 = 't' || g.1 = bareLetter).map Prod.snd
  let s ← texts.foldlM (fun s text => s.readFrom none [] text.toList) ({} : Stops)
  s.check

end Stops

def expandStops : List String → List String
  | [] => []
  | arg :: rest =>
    match arg.toList with
    | '-' :: d :: _ =>
      if d.isDigit then
        String.ofList ['-', Stops.bareLetter] :: (arg.drop 1).toString :: expandStops rest
      else if arg = "--" then arg :: rest
      else arg :: expandStops rest
    | _ => arg :: expandStops rest

def eachLine (call : Call) (files : List String) (f : List Char → List Char) : Effect :=
  call.feedAll files fun bytes =>
    (linesOf bytes).flatMap fun line =>
      let bare := bareLine line
      ofChars (f (toChars bare)) ++ line.drop bare.length

-- ======== unexpand

/-- The state of replacing blanks by tabs in a line. -/
structure Packing where
  column : Nat := 0
  /-- Blanks of which it is not yet known whether a tab replaces them. -/
  pending : List Char := []
  /-- Whether the blank before this one ended at a stop. -/
  atStop : Bool := false
  afterBlank : Bool := true
  deriving Repr, DecidableEq, Inhabited

def Packing.flush (p : Packing) : List Char :=
  if p.pending.length > 1 && p.atStop then '\t' :: p.pending.drop 1 else p.pending

def packBlanks (stops : Stops) (all : Bool) (p : Packing) : List Char → List Char
  | [] => p.flush
  | c :: rest =>
    let done (p : Packing) (blank : Bool) (c : Char) : List Char :=
      p.flush ++ c ::
        (if all || blank then
          packBlanks stops all { column := p.column, afterBlank := blank } rest
        else rest)
    if c = ' ' || c = '\t' then
      match stops.next? p.column with
      | none => p.flush ++ c :: rest
      | some stop =>
        if c = '\t' then
          let pending := if p.atStop then '\t' :: p.pending.drop 1 |>.take 1 else []
          done { p with column := stop, pending } true c
        else
          let column := p.column + 1
          if p.afterBlank && column = stop then
            done { p with column, pending := if p.atStop then ['\t'] else [] } true '\t'
          else
            packBlanks stops all
              { column, pending := p.pending ++ [c], atStop := p.atStop || column = stop
                afterBlank := true } rest
    else if c = '\x08' then done { p with column := p.column - 1 } false c
    else done { p with column := p.column + 1 } false c

def unexpand (call : Call) : Effect :=
  { call with args := expandStops call.args }.withOptions 1
    { flags := ['a'], valued := ['t', Stops.bareLetter]
      long := [("all", 'a'), ("first-only", 'f'), ("tabs", 't')] }
    fun o =>
      match Stops.ofOptions o with
      | .error e => .complaining call 1 e.message
      | .ok stops =>
        let all := !o.has 'f' && (o.has 'a' || o.has 't')
        eachLine call o.operands (packBlanks stops all {})

end PageScript.Shell.Program

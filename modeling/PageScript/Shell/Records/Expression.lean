/-
Regular expressions in scripts that work through records.

They are written in the extended notation, except that a backslash also works inside brackets, that
something has to stand in front of each sign of repetition and on both sides of each bar, and that a
closing bracket without an opening one stands for itself. What is to be repeated at least twice is
repeated just as often.
-/
import PageScript.Shell.Regex

namespace PageScript.Shell.Records

/-- What is wrong with an expression. -/
inductive ExpressionFault where
  | noClosing
  | noOperand
  | badClass
  | badInterval
  | badAnchor
  deriving Repr, DecidableEq, Inhabited

def ExpressionFault.message : ExpressionFault → String
  | .noClosing => "missing ')'"
  | .noOperand => "missing operand"
  | .badClass => "bad class -- [], [^] or ["
  | .badInterval => "bad interval expression"
  | .badAnchor => "syntax error ^* or ^+"

namespace Expression

def isOctal (c : Char) : Bool :=
  '0' ≤ c && c ≤ '7'

def control? : Char → Option Char
  | 'a' => some '\x07'
  | 'b' => some '\x08'
  | 'f' => some '\x0C'
  | 'n' => some '\n'
  | 'r' => some '\r'
  | 't' => some '\t'
  | 'v' => some '\x0B'
  | _ => none

/-- The character that an escape stands for, behind its backslash, and what follows it. -/
def escape (cs : List Char) : Char × List Char :=
  match cs with
  | [] => ('\\', [])
  | c :: rest =>
    if isOctal c then
      let ds := (cs.take 3).takeWhile isOctal
      (Char.ofNat ((ds.foldl (fun n d => n * 8 + (d.toNat - '0'.toNat)) 0) % 256),
        cs.drop ds.length)
    else ((control? c).getD c, rest)

/-- Reads the ranges of a set up to its closing bracket; each takes one of `fuel`. A bracket that
comes `first` does not close. -/
def readSet : (fuel : Nat) → (first : Bool) → List Char →
    Except ExpressionFault (List (Char × Char) × List Char)
  | 0, _, _ => .error .badClass
  | _ + 1, _, [] => .error .badClass
  | fuel + 1, first, cs@(c :: rest) =>
    let one (lo : Char) (after : List Char) :
        Except ExpressionFault (List (Char × Char) × List Char) :=
      match after with
      | '-' :: ']' :: _ => do
        let (others, left) ← readSet fuel false after
        return ((lo, lo) :: others, left)
      | '-' :: '\\' :: more => do
        let (hi, more) := escape more
        let (others, left) ← readSet fuel false more
        return ((lo, hi) :: others, left)
      | '-' :: hi :: more => do
        let (others, left) ← readSet fuel false more
        return (if hi < lo then (lo, lo) :: ('-', '-') :: (hi, hi) :: others
          else (lo, hi) :: others, left)
      | _ => do
        let (others, left) ← readSet fuel false after
        return ((lo, lo) :: others, left)
    if c = ']' && !first then .ok ([], rest)
    else
      match cs with
      | '[' :: ':' :: more =>
        let name := more.takeWhile (· ≠ ':')
        match more.drop name.length with
        | ':' :: ']' :: after =>
          match classRanges (String.ofList name) with
          | [] => .error .badClass
          | ranges => do
            let (others, left) ← readSet fuel false after
            return (ranges ++ others, left)
        | _ => one '[' rest
      | '\\' :: more =>
        let (lo, after) := escape more
        one lo after
      | _ => one c rest

/-- Reads how often something is repeated, behind the opening brace; none if it is no such thing. -/
def readInterval? (cs : List Char) :
    Option (Except ExpressionFault (Nat × Option Nat × List Char)) :=
  let least := cs.takeWhile Char.isDigit
  let after := cs.drop least.length
  match least, after with
  | [], '\x7d' :: _ => some (.error .badInterval)
  | [], _ => none
  | _, '\x7d' :: rest =>
    some (.ok (Number.digitsValue least, some (Number.digitsValue least), rest))
  | _, ',' :: more =>
    let most := more.takeWhile Char.isDigit
    match more.drop most.length with
    | '\x7d' :: rest =>
      let low := Number.digitsValue least
      let high := if most.isEmpty then none else some (Number.digitsValue most)
      some (if (high.map (decide <| · < low)).getD false then .error .badInterval
        else .ok (low, if 2 ≤ low then some low else high, rest))
    | _ => none
  | _, _ => none

/-- Reads the signs of repetition behind an expression; each takes one of `fuel`. -/
def readRepetition : (fuel : Nat) → Regex → List Char →
    Except ExpressionFault (Regex × List Char)
  | 0, r, cs => .ok (r, cs)
  | fuel + 1, r, cs =>
    match cs with
    | '*' :: rest => readRepetition fuel (.repeated 0 none r) rest
    | '+' :: rest => readRepetition fuel (.repeated 1 none r) rest
    | '?' :: rest => readRepetition fuel (.repeated 0 (some 1) r) rest
    | '\x7b' :: rest =>
      match readInterval? rest with
      | some (.ok (least, most, rest)) => readRepetition fuel (.repeated least most r) rest
      | some (.error e) => .error e
      | none => .ok (r, cs)
    | _ => .ok (r, cs)

mutual

def readBranches : (fuel : Nat) → (depth : Nat) → List Char →
    Except ExpressionFault (Regex × List Char)
  | 0, _, _ => .error .noOperand
  | fuel + 1, depth, cs => do
    let (first, rest) ← readBranch fuel depth true cs
    match rest with
    | '|' :: more =>
      let (others, rest) ← readBranches fuel depth more
      return (.either first others, rest)
    | _ => return (first, rest)

/-- Reads one branch; `start` says that nothing of it has been read yet. -/
def readBranch : (fuel : Nat) → (depth : Nat) → (start : Bool) → List Char →
    Except ExpressionFault (Regex × List Char)
  | 0, _, _, _ => .error .noOperand
  | fuel + 1, depth, start, cs =>
    let item (r : Regex) (rest : List Char) : Except ExpressionFault (Regex × List Char) := do
      let (r, rest) ← readRepetition (rest.length + 1) r rest
      let (others, rest) ← readBranch fuel depth false rest
      return (.both r others, rest)
    match cs with
    | [] =>
      if !start then .ok (.empty, [])
      else .error (if depth = 0 then .noOperand else .noClosing)
    | '|' :: _ => if start then .error .noOperand else .ok (.empty, cs)
    | ')' :: rest =>
      if depth = 0 then item (.one (.char ')')) rest
      else if start then .error .noOperand
      else .ok (.empty, cs)
    | '(' :: rest => do
      let (body, rest) ← readBranches fuel (depth + 1) rest
      match rest with
      | ')' :: rest => item body rest
      | _ => .error .noClosing
    | '*' :: _ | '+' :: _ | '?' :: _ => .error .noOperand
    | '^' :: rest =>
      match rest with
      | '*' :: _ | '+' :: _ => .error .badAnchor
      | _ => do
        let (others, rest) ← readBranch fuel depth false rest
        return (.both .lineStart others, rest)
    | '$' :: rest => do
      let (others, rest) ← readBranch fuel depth false rest
      return (.both .lineEnd others, rest)
    | '.' :: rest => item (.one .any) rest
    | '[' :: rest => do
      let (outside, inner) := match rest with
        | '^' :: inner => (true, inner)
        | inner => (false, inner)
      let (ranges, left) ← readSet (inner.length + 1) true inner
      item (.one (.set outside ranges)) left
    | '\\' :: rest =>
      let (c, rest) := escape rest
      item (.one (.char c)) rest
    | c :: rest => item (.one (.char c)) rest

end

def read (cs : List Char) : Except ExpressionFault Regex :=
  if cs.isEmpty then .ok .empty
  else (readBranches (4 * cs.length + 4) 0 cs).map Prod.fst

end Expression

end PageScript.Shell.Records

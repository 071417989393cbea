/-
Arithmetic in shell scripts: whole numbers of 64 bits, variables, and operators.

The value of an expression is found while it is read. The side of `&&`, `||` or `?:` that does not
count is read without effect, so that it may divide by zero and assigns nothing.
-/
import PageScript.Number.Decimal
import PageScript.Shell.Script

namespace PageScript.Shell.Arithmetic

-- ======== numbers

def digits (base : Nat) (cs : List Char) : Nat × List Char :=
  let value? (c : Char) : Option Nat := (Number.hexValue? c).filter (· < base)
  let ds := cs.takeWhile fun c => (value? c).isSome
  (ds.foldl (fun n d => n * base + (value? d).getD 0) 0, cs.drop ds.length)

/-- A number at the front, in base sixteen behind `0x`, in base two behind `0b` and in base eight
behind `0`, and what follows it. -/
def leadingNat? (cs : List Char) : Option (Nat × List Char) :=
  match cs with
  | '0' :: x :: d :: rest =>
    if (x = 'x' ∨ x = 'X') ∧ (Number.hexValue? d).isSome then some (digits 16 (d :: rest))
    else if (x = 'b' ∨ x = 'B') ∧ (d = '0' ∨ d = '1') then some (digits 2 (d :: rest))
    else some (digits 8 cs)
  | '0' :: _ => some (digits 8 cs)
  | c :: _ => if c.isDigit then some (digits 10 cs) else none
  | [] => none

def clamp (n : Int) : Int64 :=
  if n > 2 ^ 63 - 1 then Int64.ofInt (2 ^ 63 - 1)
  else if n < -2 ^ 63 then Int64.ofInt (-2 ^ 63)
  else Int64.ofInt n

def isBlank (c : Char) : Bool :=
  c = ' ' || (9 ≤ c.toNat && c.toNat ≤ 13)

/-- The number that the value of a variable is; nothing but blanks is 0. -/
def valueOf? (s : String) : Option Int64 :=
  let cs := s.toList.dropWhile isBlank
  let (negative, ds) :=
    match cs with
    | '-' :: rest => (true, rest)
    | '+' :: rest => (false, rest)
    | _ => (false, cs)
  match leadingNat? ds with
  | some (n, rest) =>
    let value : Int := if negative then -(n : Int) else n
    if rest.all isBlank ∧ -2 ^ 63 ≤ value ∧ value < 2 ^ 63 then some (Int64.ofInt value) else none
  | none => if cs.isEmpty then some 0 else none

-- ======== symbols

/-- A lexical unit of an expression. -/
inductive Symbol where
  | number (n : Int64)
  | name (s : String)
  | operator (name : String)
  deriving DecidableEq, Inhabited

def operators : List String :=
  ["<<=", ">>=", "<<", ">>", "<=", ">=", "==", "!=", "&&", "||", "+=", "-=", "*=", "/=", "%=", "&=",
    "^=", "|=", "<", ">", "=", "!", "&", "|", "^", "~", "+", "-", "*", "/", "%", "?", ":", "(", ")"]

/-- Reads the symbols of an expression; each takes one of `fuel`. -/
def symbols : (fuel : Nat) → List Char → List Symbol
  | 0, _ => []
  | _ + 1, [] => []
  | fuel + 1, c :: rest =>
    let cs := c :: rest
    if isBlank c then symbols fuel rest
    else
      match leadingNat? cs with
      | some (n, after) => .number (clamp n) :: symbols fuel after
      | none =>
        if isNameStart c then
          let name := cs.takeWhile isNameChar
          .name (String.ofList name) :: symbols fuel (cs.drop name.length)
        else
          match operators.find? fun o => o.toList.isPrefixOf cs with
          | some o => .operator o :: symbols fuel (cs.drop o.length)
          | none => [.operator c.toString]

-- ======== evaluation

/-- Why an expression has no value. -/
inductive Fault where
  | expecting (what : String)
  | divisionByZero
  /-- The value of a variable is no number. -/
  | illegalNumber (value : String)
  deriving Repr, DecidableEq, Inhabited

def Fault.message (expression : String) : Fault → String
  | .expecting what =>
    "arithmetic expression: expecting " ++ what ++ ": \"" ++ expression ++ "\""
  | .divisionByZero => "arithmetic expression: division by zero: \"" ++ expression ++ "\""
  | .illegalNumber value => "Illegal number: " ++ value

/-- An expression that is being evaluated: what is left of it, the values of variables as texts, and
the assignments made so far, the latest first. -/
structure Evaluation where
  rest : List Symbol
  lookup : String → Option String
  assigned : List (String × Int64) := []

abbrev Evaluator := StateT Evaluation (Except Fault)

def variableValue (name : String) : Evaluator Int64 := do
  let e ← get
  match e.assigned.lookup name with
  | some n => return n
  | none =>
    let text := (e.lookup name).getD ""
    match valueOf? text with
    | some n => return n
    | none => throw (.illegalNumber text)

def levels : List (List String) :=
  [["|"], ["^"], ["&"], ["==", "!="], ["<", "<=", ">", ">="], ["<<", ">>"], ["+", "-"],
    ["*", "/", "%"]]

def combine (operator : String) (a b : Int64) : Except Fault Int64 :=
  let truth (p : Bool) : Except Fault Int64 := .ok (if p then 1 else 0)
  match operator with
  | "|" => .ok (a ||| b)
  | "^" => .ok (a ^^^ b)
  | "&" => .ok (a &&& b)
  | "==" => truth (a = b)
  | "!=" => truth (a ≠ b)
  | "<" => truth (a < b)
  | "<=" => truth (a ≤ b)
  | ">" => truth (b < a)
  | ">=" => truth (b ≤ a)
  | "<<" => .ok (a <<< b)
  | ">>" => .ok (a >>> b)
  | "+" => .ok (a + b)
  | "-" => .ok (a - b)
  | "*" => .ok (a * b)
  | "/" => if b = 0 then .error .divisionByZero else .ok (a / b)
  | "%" => if b = 0 then .error .divisionByZero else .ok (a % b)
  | _ => .ok b

def assigning : List (String × Option String) :=
  [("=", none), ("+=", some "+"), ("-=", some "-"), ("*=", some "*"), ("/=", some "/"),
    ("%=", some "%"), ("<<=", some "<<"), (">>=", some ">>"), ("&=", some "&"), ("^=", some "^"),
    ("|=", some "|")]

def accept (name : String) : Evaluator Bool := do
  match (← get).rest with
  | .operator other :: rest =>
    if name = other then
      modify fun e => { e with rest }
      return true
    return false
  | _ => return false

mutual

/-- The value of an assignment, or of what is none. `counts` says that it has an effect. -/
def assignment : (fuel : Nat) → (counts : Bool) → Evaluator Int64
  | 0, _ => throw (.expecting "primary")
  | fuel + 1, counts => do
    match (← get).rest with
    | .name name :: .operator o :: rest =>
      match assigning.lookup o with
      | some combiner =>
        modify fun e => { e with rest }
        let value ← assignment fuel counts
        if !counts then return value
        let value ←
          match combiner with
          | none => pure value
          | some o => do
            let old ← variableValue name
            combine o old value
        modify fun e => { e with assigned := (name, value) :: e.assigned }
        return value
      | none => conditional fuel counts
    | _ => conditional fuel counts

def conditional : (fuel : Nat) → (counts : Bool) → Evaluator Int64
  | 0, _ => throw (.expecting "primary")
  | fuel + 1, counts => do
    let test ← logical fuel false counts
    if ← accept "?" then
      let yes ← assignment fuel (counts && test ≠ 0)
      if !(← accept ":") then throw (.expecting "':'")
      let no ← conditional fuel (counts && test = 0)
      return if test ≠ 0 then yes else no
    return test

/-- The value of expressions joined by `||`, or with `both` by `&&`. -/
def logical : (fuel : Nat) → (both counts : Bool) → Evaluator Int64
  | 0, _, _ => throw (.expecting "primary")
  | fuel + 1, both, counts => do
    let left ← if both then binary fuel counts levels else logical fuel true counts
    if ← accept (if both then "&&" else "||") then
      let right ← logical fuel both (counts && decide (left ≠ 0) = both)
      return if (left ≠ 0 ∧ right ≠ 0) ∨ (both = false ∧ (left ≠ 0 ∨ right ≠ 0)) then 1 else 0
    return left

def binary : (fuel : Nat) → (counts : Bool) → List (List String) → Evaluator Int64
  | 0, _, _ => throw (.expecting "primary")
  | fuel + 1, counts, [] => primary fuel counts
  | fuel + 1, counts, level :: tighter => do
    chain fuel counts level tighter (← binary fuel counts tighter)

def chain : (fuel : Nat) → (counts : Bool) → List String → List (List String) → Int64 →
    Evaluator Int64
  | 0, _, _, _, _ => throw (.expecting "primary")
  | fuel + 1, counts, level, tighter, left => do
    match (← get).rest with
    | .operator o :: rest =>
      if !level.contains o then return left
      modify fun e => { e with rest }
      let right ← binary fuel counts tighter
      let value ← if counts then combine o left right else pure right
      chain fuel counts level tighter value
    | _ => return left

/-- The value of a number, a variable, or an expression in parentheses, with signs in front. -/
def primary : (fuel : Nat) → (counts : Bool) → Evaluator Int64
  | 0, _ => throw (.expecting "primary")
  | fuel + 1, counts => do
    match (← get).rest with
    | .number n :: rest =>
      modify fun e => { e with rest }
      return n
    | .name name :: rest =>
      modify fun e => { e with rest }
      if counts then variableValue name else return 0
    | .operator "(" :: rest =>
      modify fun e => { e with rest }
      let value ← assignment fuel counts
      if !(← accept ")") then throw (.expecting "')'")
      return value
    | .operator "+" :: rest =>
      modify fun e => { e with rest }
      primary fuel counts
    | .operator "-" :: rest =>
      modify fun e => { e with rest }
      return -(← primary fuel counts)
    | .operator "!" :: rest =>
      modify fun e => { e with rest }
      return if (← primary fuel counts) = 0 then 1 else 0
    | .operator "~" :: rest =>
      modify fun e => { e with rest }
      return ~~~(← primary fuel counts)
    | _ => throw (.expecting "primary")

end

def evaluate (lookup : String → Option String) (expression : List Char) :
    Except Fault (Int64 × List (String × Int64)) := do
  let rest := symbols (expression.length + 1) expression
  let (value, e) ← (assignment (16 * (rest.length + 1)) true).run { rest, lookup }
  if e.rest.isEmpty then return (value, e.assigned.reverse) else throw (.expecting "EOF")

end PageScript.Shell.Arithmetic

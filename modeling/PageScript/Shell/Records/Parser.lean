/-
Reading scripts that work through records.

Operators bind, from the loosest to the tightest: choices, `||`, `&&`, `in`, matching, comparing,
joining two texts side by side, adding, multiplying, signs and negation, reading from a command,
powers, steps, and fields. An assignment can stand wherever something can be compared.
-/
import PageScript.Shell.Records.Token

namespace PageScript.Shell.Records

/-- What is wrong with a script. -/
structure ScriptFault where
  line : Nat
  message : String
  /-- Whether it is about a character that no script holds. -/
  stray : Bool := false
  deriving Repr, DecidableEq, Inhabited

def ScriptFault.text (f : ScriptFault) : String :=
  (if f.stray then "" else "line ") ++ Number.natText f.line ++ ": " ++ f.message

/-- Where a statement stands. -/
inductive Scope where
  | ends
  | main
  | function
  deriving Repr, DecidableEq, Inhabited

/-- How far reading has come. -/
structure Cursor where
  rest : List Lexeme
  /-- How many brackets are open. -/
  brackets : Nat := 0
  /-- How many braces are open. -/
  braces : Nat := 0
  /-- How many loops there are around. -/
  loops : Nat := 0
  scope : Scope := .main
  /-- The functions that are called: the line, the name and the number of arguments. -/
  calls : List (Nat × String × Nat) := []
  /-- What is wrong with the script and does not keep it from being read on. -/
  faults : List ScriptFault := []
  deriving Inhabited

abbrev Parse := ExceptT ScriptFault (StateM Cursor)

namespace Parse

def caught {α : Type} (body : Parse α) : Parse (Except ScriptFault α) :=
  ExceptT.mk do return .ok (← body.run)

def look : Parse Token :=
  return ((← get).rest.head?.map Lexeme.token).getD .done

def line : Parse Nat :=
  return ((← get).rest.head?.map Lexeme.line).getD 0

def moveOn : Parse Unit :=
  modify fun c => { c with rest := c.rest.drop 1 }

def refuse {α : Type} (message : String) : Parse α := do
  throw { line := ← line, message }

def refuseToken {α : Type} : Parse α := do
  let t ← look
  let c ← get
  match t with
  | .flaw message =>
    throw { line := ← line, message, stray := message.startsWith "unexpected character" }
  | .done =>
    if 0 < c.braces then refuse "missing \x7d near end of file" else refuse "unexpected end of file"
  | t =>
    if 0 < c.brackets && t.isSeparator then refuse ("missing ) near " ++ t.spelling)
    else if c.brackets = 0 && t.isSign ")" then refuse "extra ')'"
    else refuse ("syntax error at or near " ++ t.spelling)

def atSign (s : String) : Parse Bool :=
  return (← look).isSign s

def atWord (s : String) : Parse Bool :=
  return (← look).isWord s

def takeSign (s : String) : Parse Bool := do
  if ← atSign s then
    moveOn
    return true
  return false

def needSign (s : String) : Parse Unit := do
  if !(← takeSign s) then refuseToken

/-- Goes past the ends of lines; each takes one of `fuel`. -/
def skipLines : (fuel : Nat) → Parse Unit
  | 0 => return
  | fuel + 1 => do
    if (← look).isNewline then
      moveOn
      skipLines fuel

def newlines : Parse Unit := do
  skipLines (← get).rest.length

def opening : Parse Unit := do
  needSign "("
  modify fun c => { c with brackets := c.brackets + 1 }

def closing : Parse Unit := do
  needSign ")"
  modify fun c => { c with brackets := c.brackets - 1 }

def needName : Parse String := do
  match ← look with
  | .name s =>
    moveOn
    return s
  | _ => refuseToken

def separator : Parse Unit := do
  if (← look).isSeparator then moveOn else refuseToken

def expression (source : String) : Parse Regex :=
  match Expression.read source.toList with
  | .ok r => return r
  | .error e => refuse ("regular expression compile failed (" ++ e.message ++ ")\n" ++ source)

end Parse

open Parse

def assignment? : Token → Option (Option Arith)
  | .sign "=" => some none
  | .sign "+=" => some (some .add)
  | .sign "-=" => some (some .sub)
  | .sign "*=" => some (some .mul)
  | .sign "/=" => some (some .div)
  | .sign "%=" => some (some .mod)
  | .sign "^=" => some (some .pow)
  | _ => none

/-- The relation that a sign stands for; in what is printed, one of them means a file. -/
def relation? (printing : Bool) : Token → Option Relation
  | .sign "<" => some .less
  | .sign "<=" => some .atMost
  | .sign "==" => some .same
  | .sign "!=" => some .other
  | .sign ">" => if printing then none else some .more
  | .sign ">=" => some .atLeast
  | _ => none

def startsOperand : Token → Bool
  | .number _ _ | .text _ | .expression _ | .name _ | .calling _ => true
  | .word s => ["getline", "split", "sub", "gsub"].contains s || (Verb.table.lookup s).isSome
  | .sign s => ["(", "$", "!", "++", "--"].contains s
  | _ => false

def asPlace? : Expr → Option Place
  | .place p => some p
  | _ => none

/-- An expression that is matched with; a text that is written out stands for the regular expression
that it writes. -/
def asPattern (e : Expr) : Parse Expr := do
  match e with
  | .text source => return .pattern (← expression source)
  | e => return e

/-- Operators of two sides that bind alike. -/
inductive Level where
  | either
  | both
  | member
  | meets
  | compare
  | joined
  | sum
  | product
  deriving DecidableEq

namespace Level

/-- All levels, from the loosest to the tightest. -/
def all : List Level :=
  [.either, .both, .member, .meets, .compare, .joined, .sum, .product]

/-- Whether the right side can be an assignment. -/
def assigns (l : Level) : Bool :=
  !([.joined, .sum, .product].contains l)

/-- What the operator that a sign stands for makes of its sides. -/
def operator? (printing : Bool) : Level → Token → Option (Expr → Expr → Parse Expr)
  | .either, .sign "||" => some fun a b => return .either a b
  | .both, .sign "&&" => some fun a b => return .both a b
  | .meets, .sign "~" => some fun a b => return .meets false a (← asPattern b)
  | .meets, .sign "!~" => some fun a b => return .meets true a (← asPattern b)
  | .compare, t => (relation? printing t).map fun r a b => return .compare r a b
  | .sum, .sign "+" => some fun a b => return .arith .add a b
  | .sum, .sign "-" => some fun a b => return .arith .sub a b
  | .product, .sign "*" => some fun a b => return .arith .mul a b
  | .product, .sign "/" => some fun a b => return .arith .div a b
  | .product, .sign "%" => some fun a b => return .arith .mod a b
  | _, _ => none

end Level

mutual

/-- Reads an expression; `printing` says that it is printed and in no brackets. -/
def readExpr : (fuel : Nat) → (printing : Bool) → Parse Expr
  | 0, _ => refuseToken
  | fuel + 1, printing => do
    let e ← readSides fuel Level.all printing true
    if ← takeSign "?" then
      newlines
      let yes ← readExpr fuel printing
      needSign ":"
      newlines
      let no ← readExpr fuel printing
      return .choice e yes no
    return e

/-- Reads what operators of some levels join; below the last level stand signs and negation. `first`
says that it could be an assignment. -/
def readSides : (fuel : Nat) → List Level → (printing first : Bool) → Parse Expr
  | 0, _, _, _ => refuseToken
  | fuel + 1, level :: tighter, printing, first => do
    moreSides fuel level tighter printing (← readSides fuel tighter printing first)
  | fuel + 1, [], printing, first => do
    if ← takeSign "!" then return .not (← readSides fuel [] printing false)
    else if ← takeSign "-" then return .negate (← readSides fuel [] printing false)
    else if ← takeSign "+" then return .plain (← readSides fuel [] printing false)
    else morePiped fuel printing (← readPower fuel printing first)

/-- Goes on with what operators of a level join. -/
def moreSides : (fuel : Nat) → Level → (tighter : List Level) → (printing : Bool) → Expr → Parse Expr
  | 0, _, _, _, _ => refuseToken
  | fuel + 1, .member, tighter, printing, e => do
    if ← atWord "in" then
      moveOn
      moreSides fuel .member tighter printing (.member [e] (← needName))
    else return e
  | fuel + 1, .joined, tighter, printing, e => do
    if startsOperand (← look) then
      moreSides fuel .joined tighter printing (.joined e (← readSides fuel tighter printing false))
    else return e
  | fuel + 1, level, tighter, printing, e => do
    match level.operator? printing (← look) with
    | some make =>
      moveOn
      if level = .either || level = .both then newlines
      let right ← readSides fuel tighter printing level.assigns
      moreSides fuel level tighter printing (← make e right)
    | none => return e

def morePiped : (fuel : Nat) → (printing : Bool) → Expr → Parse Expr
  | 0, _, _ => refuseToken
  | fuel + 1, printing, e => do
    let follows := (((← get).rest.drop 1).head?.map fun l => l.token.isWord "getline").getD false
    if (← atSign "|") && !printing && follows then
      moveOn
      moveOn
      morePiped fuel printing (.getline (.command e) (← readTarget fuel))
    else return e

def readPower : (fuel : Nat) → (printing first : Bool) → Parse Expr
  | 0, _, _ => refuseToken
  | fuel + 1, printing, first => do
    let e ← readStepped fuel printing first
    if ← takeSign "^" then
      let t ← look
      if t.isSign "-" || t.isSign "+" || t.isSign "!" then
        return .arith .pow e (← readSides fuel [] printing false)
      return .arith .pow e (← readPower fuel printing false)
    return e

/-- Reads a single thing with what may be done to it: a step, or an assignment. -/
def readStepped : (fuel : Nat) → (printing first : Bool) → Parse Expr
  | 0, _, _ => refuseToken
  | fuel + 1, printing, first => do
    let e ← readSingle fuel
    match asPlace? e with
    | none => return e
    | some p =>
      if ← takeSign "++" then return .step p true true
      else if ← takeSign "--" then return .step p false true
      else
        match first, assignment? (← look) with
        | true, some op =>
          moveOn
          newlines
          return .assign p op (← readExpr fuel printing)
        | _, _ => return e

def readSingle : (fuel : Nat) → Parse Expr
  | 0 => refuseToken
  | fuel + 1 => do
    match ← look with
    | .number x _ =>
      moveOn
      return .number x
    | .text s =>
      moveOn
      return .text s
    | .expression source =>
      let r ← expression source
      moveOn
      return .pattern r
    | .name s =>
      moveOn
      if ← takeSign "[" then
        let key ← readList fuel
        needSign "]"
        return .place (.element s key)
      return .place (.named s)
    | .calling s =>
      let line ← line
      moveOn
      let args ← readArguments fuel
      modify fun c => { c with calls := c.calls ++ [(line, s, args.length)] }
      return .call s args
    | .sign "(" =>
      opening
      let list ← readList fuel
      closing
      match list with
      | [e] => return .group e
      | _ =>
        if ← atWord "in" then
          moveOn
          return .member list (← needName)
        else refuseToken
    | .sign "$" =>
      moveOn
      if ← takeSign "-" then return .place (.field (.negate (← readSingle fuel)))
      else return .place (.field (← readSingle fuel))
    | .sign "++" =>
      moveOn
      match asPlace? (← readSingle fuel) with
      | some p => return .step p true false
      | none => refuseToken
    | .sign "--" =>
      moveOn
      match asPlace? (← readSingle fuel) with
      | some p => return .step p false false
      | none => refuseToken
    | .sign "-" =>
      moveOn
      return .negate (← readSingle fuel)
    | .word "getline" =>
      moveOn
      let target ← readTarget fuel
      if ← takeSign "<" then return .getline (.file (← readPower fuel false false)) target
      return .getline .main target
    | .word "split" => do
      moveOn
      opening
      let text ← readExpr fuel false
      needSign ","
      newlines
      let table ← needName
      let divider ← if ← takeSign "," then
          newlines
          pure (some (← readExpr fuel false))
        else pure none
      closing
      return .split text table divider
    | .word "sub" => readSubstitution fuel false
    | .word "gsub" => readSubstitution fuel true
    | .word s =>
      match Verb.table.lookup s with
      | none => refuseToken
      | some (verb, least, most) =>
        moveOn
        if verb = .length && !(← atSign "(") then return .apply verb []
        let args ← readArguments fuel
        if args.length < least || most < args.length then
          refuse ("wrong number of arguments in call to " ++ s)
        return .apply verb args
    | _ => refuseToken

/-- Reads a call of `sub` or `gsub`. -/
def readSubstitution : (fuel : Nat) → (all : Bool) → Parse Expr
  | 0, _ => refuseToken
  | fuel + 1, all => do
    moveOn
    let args ← readArguments fuel
    match args with
    | [pattern, replacement] => return .substitute all (← asPattern pattern) replacement none
    | [pattern, replacement, target] =>
      match target with
      | .place p | .group (.place p) =>
        return .substitute all (← asPattern pattern) replacement (some p)
      | _ => refuseToken
    | _ => refuse ("wrong number of arguments in call to " ++ (if all then "gsub" else "sub"))

def readTarget : (fuel : Nat) → Parse (Option Place)
  | 0 => refuseToken
  | fuel + 1 => do
    match ← look with
    | .name _ | .sign "$" => return asPlace? (← readSingle fuel)
    | _ => return none

def readArguments : (fuel : Nat) → Parse (List Expr)
  | 0 => refuseToken
  | fuel + 1 => do
    opening
    if ← atSign ")" then
      closing
      return []
    let list ← readList fuel
    closing
    return list

def readList : (fuel : Nat) → Parse (List Expr)
  | 0 => refuseToken
  | fuel + 1 => do
    let e ← readExpr fuel false
    if ← takeSign "," then
      newlines
      return e :: (← readList fuel)
    return [e]

def readPrinted : (fuel : Nat) → Parse (List Expr)
  | 0 => refuseToken
  | fuel + 1 => do
    let e ← readExpr fuel true
    if ← takeSign "," then
      newlines
      return e :: (← readPrinted fuel)
    return [e]

end

end PageScript.Shell.Records

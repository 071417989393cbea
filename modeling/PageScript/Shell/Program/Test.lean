/-
Conditions on texts, numbers and files: `test`.

A condition is read as it is found out. An operator counts as one only where it can be one: a text
that looks like an operator with nothing behind it is just a text. Shells and the program of the
same name go about that in different ways.
-/
import PageScript.Shell.Program.Mode
import PageScript.Shell.Program.Place
import PageScript.Shell.Program.Print

namespace PageScript.Shell.Program

namespace Test

/-- What is wrong with a condition. -/
inductive Fault where
  | unexpectedOperator (arg : String)
  | argumentExpected (arg : String)
  | closingExpected
  | illegalNumber (arg : String)
  | missingBracket
  deriving Repr, DecidableEq, Inhabited

def Fault.message : Fault → String
  | .unexpectedOperator "" => "unexpected operator"
  | .unexpectedOperator arg => arg ++ ": unexpected operator"
  | .argumentExpected arg => arg ++ ": argument expected"
  | .closingExpected => "closing paren expected"
  | .illegalNumber arg => "Illegal number: " ++ arg
  | .missingBracket => "missing ]"

/-- What an argument is. -/
inductive Kind where
  | stop
  | operand
  | negation
  | opening
  | closing
  | both
  | either
  | unary
  | binary
  deriving Repr, DecidableEq, Inhabited

def kindOf (arg : String) : Kind :=
  match arg with
  | "!" => .negation
  | "(" => .opening
  | ")" => .closing
  | "-a" => .both
  | "-o" => .either
  | "=" | "!=" | "<" | ">" | "-eq" | "-ne" | "-gt" | "-ge" | "-lt" | "-le" | "-nt" | "-ot"
  | "-ef" =>
    .binary
  | _ =>
    match arg.toList with
    | ['-', c] => if "bcdefghkLnOGprstSuwxz".toList.contains c then .unary else .operand
    | _ => .operand

def lex : List String → Kind
  | [] => .stop
  | arg :: rest =>
    match kindOf arg with
    | .unary =>
      match rest with
      | [] => .operand
      | [_] => .unary
      | next :: _ => if kindOf next = .binary then .operand else .unary
    | .opening => if rest.isEmpty then .operand else .opening
    | kind => kind

def number (arg : String) : Except Fault Int :=
  let blank (c : Char) : Bool := c = ' ' || ('\t' ≤ c && c ≤ '\r')
  let bare := ((arg.toList.dropWhile blank).reverse.dropWhile blank).reverse
  match integer? (String.ofList bare) with
  | some n => .ok n
  | none => .error (.illegalNumber arg)

def holdsOf (disk : Disk) (operator : Char) (arg : String) : Bool :=
  match operator with
  | 'n' => arg ≠ ""
  | 'z' => arg = ""
  | 't' => false
  | 'h' | 'L' =>
    match placeOf disk arg false with
    | .ok (_, .link _) => true
    | _ => false
  | _ =>
    match placeOf disk arg with
    | .error _ => false
    | .ok (_, tree) =>
      match operator, tree with
      | 'd', _ => tree.isDir
      | 'f', .file .. | 'f', .program _ => true
      | 'f', _ => false
      | 'c', .device _ => true
      | 's', .file content _ => !content.isEmpty
      | 's', .device _ => false
      | 'x', .file _ traits => traits.runs
      | 'x', .device _ => false
      | 'u', _ => modeOf tree / 2048 % 2 = 1
      | 'g', _ => modeOf tree / 1024 % 2 = 1
      | 'k', _ => modeOf tree / 512 % 2 = 1
      | 'c', _ | 'b', _ | 'p', _ | 'S', _ | 'N', _ => false
      | _, _ => true

/-- Whether a condition on two files holds. The program takes a file that is there for younger than
one that is not; the shell does not compare them. -/
def holdsOfFiles (dialect : Dialect) (disk : Disk) (operator left right : String) : Bool :=
  let time (file : String) : Option Nat := (placeOf disk file).toOption.map fun f => timeOf f.2
  match operator with
  | "-nt" =>
    match time left, time right with
    | some a, some b => b < a
    | some _, none => dialect = .program
    | none, _ => false
  | "-ot" =>
    match time left, time right with
    | some a, some b => a < b
    | none, some _ => dialect = .program
    | _, none => false
  | _ =>
    match placeOf disk left, placeOf disk right with
    | .ok (a, _), .ok (b, _) => a = b
    | _, _ => false

def holdsBetween (disk : Disk) (operator left right : String) : Except Fault Bool :=
  let numbers (f : Int → Int → Bool) : Except Fault Bool := do
    return f (← number left) (← number right)
  match operator with
  | "=" => .ok (left = right)
  | "!=" => .ok (left ≠ right)
  | "<" => .ok (left.toList < right.toList)
  | ">" => .ok (right.toList < left.toList)
  | "-eq" => numbers fun a b => a = b
  | "-ne" => numbers fun a b => a ≠ b
  | "-gt" => numbers fun a b => a > b
  | "-ge" => numbers fun a b => a ≥ b
  | "-lt" => numbers fun a b => a < b
  | "-le" => numbers fun a b => a ≤ b
  | _ => .ok (holdsOfFiles .shell disk operator left right)

/-- A condition that is being found out: whether it holds, and the arguments from its last one on.
-/
abbrev Finding := Except Fault (Bool × List String)

mutual

/-- Finds out conditions of which one has to hold, or with `both` all of them, the first argument being of
a kind. -/
def findJoined (disk : Disk) : (fuel : Nat) → (both : Bool) → Kind → List String → Finding
  | 0, _, _, args => .ok (false, args)
  | fuel + 1, both, kind, args => do
    let (holds, args) ←
      if both then findNegated disk fuel kind args else findJoined disk fuel true kind args
    if lex (args.drop 1) = (if both then .both else .either) then
      let args := args.drop 2
      let (other, args) ← findJoined disk fuel both (lex args) args
      return (if both then holds && other else holds || other, args)
    else return (holds, args)

def findNegated (disk : Disk) : (fuel : Nat) → Kind → List String → Finding
  | 0, _, args => .ok (false, args)
  | fuel + 1, kind, args => do
    if kind ≠ .negation then findPrimary disk fuel kind args
    else
      let kind := lex (args.drop 1)
      let (holds, args) ←
        findNegated disk fuel kind (if kind = .stop then args else args.drop 1)
      return (!holds, args)

def findPrimary (disk : Disk) : (fuel : Nat) → Kind → List String → Finding
  | 0, _, args => .ok (false, args)
  | fuel + 1, kind, args => do
    match kind, args with
    | .stop, _ => return (false, args)
    | .opening, _ =>
      let inner := args.drop 1
      if lex inner = .closing then return (false, inner)
      else
        let (holds, args) ← findJoined disk fuel false (lex inner) inner
        let args := args.drop 1
        if lex args ≠ .closing then throw .closingExpected
        return (holds, args)
    | .unary, operator :: rest =>
      match rest with
      | [] => throw (.argumentExpected operator)
      | arg :: _ => return (holdsOf disk ((operator.toList[1]?).getD 'n') arg, rest)
    | _, left :: rest =>
      if lex rest = .binary then
        match rest with
        | operator :: right :: _ =>
          return (← holdsBetween disk operator left right, rest.drop 1)
        | operator :: [] => throw (.argumentExpected operator)
        | [] => return (left ≠ "", args)
      else return (left ≠ "", args)
    | _, [] => return (false, args)

end

/-- Whether the condition that arguments give holds. Three and four arguments have rules of their
own: an operator in the middle wins over brackets and negations in front. -/
def evaluate (disk : Disk) (args : List String) : Except Fault Bool := do
  let count := args.length
  let middle := (args[1]?.map kindOf) = some .binary
  let (negated, kind, inner) :=
    if count = 3 && middle then (false, Kind.operand, args)
    else if count = 3 || count = 4 then
      if args.head? = some "(" && args.getLast? = some ")" then
        let inner := (args.drop 1).dropLast
        (false, lex inner, inner)
      else if args.head? = some "!" then
        let inner := args.drop 1
        (true, lex inner, inner)
      else (false, lex args, args)
    else (false, lex args, args)
  if args.isEmpty then return false
  let (holds, left) ← findJoined disk (8 * count + 8) false kind inner
  match left with
  | arg :: _ :: _ => throw (.unexpectedOperator arg)
  | _ => return holds != negated

-- ======== the program

/-- What is wrong with a condition of the program. -/
inductive Objection where
  | missingAfter (arg : String)
  | binaryExpected (arg : String)
  | unaryExpected (arg : String)
  | extra (arg : String)
  | invalidInteger (arg : String)
  | closingExpected (found : Option String)
  | missingBracket
  deriving Repr, DecidableEq, Inhabited

def Objection.message : Objection → String
  | .missingAfter arg => "missing argument after " ++ quoted arg
  | .binaryExpected arg => quoted arg ++ ": binary operator expected"
  | .unaryExpected arg => quoted arg ++ ": unary operator expected"
  | .extra arg => "extra argument " ++ quoted arg
  | .invalidInteger arg => "invalid integer " ++ quoted arg
  | .closingExpected none => quoted ")" ++ " expected"
  | .closingExpected (some arg) => quoted ")" ++ " expected, found " ++ quoted arg
  | .missingBracket => "missing " ++ quoted "]"

/-- A condition that the program is finding out: the arguments that are left, and what is wrong. -/
abbrev Looking := StateT (List String) (Except Objection)

def isBetween (arg : String) : Bool :=
  ["=", "==", "!=", "-eq", "-ne", "-lt", "-le", "-gt", "-ge", "-nt", "-ot", "-ef"].contains arg

def wholeNumber (arg : String) : Looking Int :=
  match number arg with
  | .ok n => return n
  | .error _ => throw (.invalidInteger arg)

/-- Drops an argument, behind which there has to be one if `needed` says so; `last` is the last one
of all. -/
def step (last : String) (needed : Bool) : Looking Unit := do
  modify fun args => args.drop 1
  if needed && (← get).isEmpty then throw (.missingAfter last)

def lookAtOne (disk : Disk) (last : String) : Looking Bool := do
  match ← get with
  | operator :: _ =>
    let letter := (operator.toList[1]?).getD 'n'
    if !"erwxNOGfdsScbpLhugktnz".toList.contains letter then throw (.unaryExpected operator)
    step last true
    let arg := (← get).headD ""
    modify fun args => args.drop 1
    if letter = 't' then
      discard (wholeNumber arg)
      return false
    return holdsOf disk letter arg
  | [] => return false

def lookAtTwo (disk : Disk) (sized : Bool) : Looking Bool := do
  let args ← get
  let args := if sized then args.drop 1 else args
  match args with
  | left :: operator :: more =>
    let (right, rest) := match more with
      | "-l" :: right :: rest =>
        if operator.startsWith "-" && !(["-nt", "-ot", "-ef"].contains operator) then
          (Number.natText right.length, rest)
        else ("-l", right :: rest)
      | right :: rest => (right, rest)
      | [] => ("", [])
    set rest
    let left := if sized then Number.natText left.length else left
    let compared (f : Int → Int → Bool) : Looking Bool := do
      let a ← wholeNumber left
      let b ← wholeNumber right
      return f a b
    match operator with
    | "=" | "==" => return left = right
    | "!=" => return left ≠ right
    | "-eq" => compared fun a b => a = b
    | "-ne" => compared fun a b => a ≠ b
    | "-lt" => compared fun a b => a < b
    | "-le" => compared fun a b => a ≤ b
    | "-gt" => compared fun a b => a > b
    | "-ge" => compared fun a b => a ≥ b
    | _ => return holdsOfFiles .program disk operator left right
  | _ => return false

def lookAtText : Looking Bool := do
  let arg := (← get).headD ""
  modify fun args => args.drop 1
  return arg ≠ ""

def isSwitch (arg : String) : Bool :=
  match arg.toList with
  | ['-', _] => true
  | _ => false

def lookAtPair (disk : Disk) (last : String) : Looking Bool := do
  match ← get with
  | "!" :: _ =>
    step last false
    return !(← lookAtText)
  | arg :: _ => if isSwitch arg then lookAtOne disk last else throw (.missingAfter last)
  | [] => throw (.missingAfter last)

mutual

/-- Finds out as many arguments as are said, for which there are rules up to four; each level takes
one of `fuel`. -/
def lookAt (disk : Disk) (last : String) : (fuel : Nat) → (count : Nat) → Looking Bool
  | 0, _ => return false
  | fuel + 1, count => do
    match count, ← get with
    | 1, _ => lookAtText
    | 2, _ => lookAtPair disk last
    | 3, args => lookAtThree disk last fuel args
    | 4, "!" :: args =>
      step last true
      return !(← lookAtThree disk last fuel args)
    | 4, args =>
      if args.head? = some "(" && args[3]? = some ")" then
        step last false
        let holds ← lookAtPair disk last
        step last false
        return holds
      else lookAtJoined disk last fuel false
    | _, _ => lookAtJoined disk last fuel false

def lookAtThree (disk : Disk) (last : String) : (fuel : Nat) → List String → Looking Bool
  | 0, _ => return false
  | fuel + 1, args => do
    let middle := (args[1]?).getD ""
    if isBetween middle then lookAtTwo disk false
    else if args.head? = some "!" then
      step last true
      return !(← lookAtPair disk last)
    else if args.head? = some "(" && args[2]? = some ")" then
      step last false
      let holds ← lookAtText
      step last false
      return holds
    else if middle = "-a" || middle = "-o" then lookAtJoined disk last fuel false
    else throw (.binaryExpected middle)

def lookAtJoined (disk : Disk) (last : String) : (fuel : Nat) → (both : Bool) → Looking Bool
  | 0, _ => return false
  | fuel + 1, both => do
    if !both && (← get).isEmpty then throw (.missingAfter last)
    let first ← if both then lookAtTerm disk last fuel else lookAtJoined disk last fuel true
    if (← get).head? = some (if both then "-a" else "-o") then
      step last false
      let other ← lookAtJoined disk last fuel both
      return if both then other && first else other || first
    else return first

def lookAtTerm (disk : Disk) (last : String) : (fuel : Nat) → Looking Bool
  | 0 => return false
  | fuel + 1 => do
    match ← get with
    | [] => throw (.missingAfter last)
    | "!" :: _ =>
      step last true
      return !(← lookAtTerm disk last fuel)
    | "(" :: _ =>
      step last true
      let args ← get
      let inside := ((args.drop 1).takeWhile (· ≠ ")")).length + 1
      let holds ← lookAt disk last fuel (if inside > 4 then args.length else inside)
      match ← get with
      | [] => throw (.closingExpected none)
      | arg :: _ => if arg ≠ ")" then throw (.closingExpected (some arg))
      step last false
      return holds
    | arg :: rest =>
      if arg = "-l" && rest.length ≥ 3 && isBetween ((rest[1]?).getD "") then lookAtTwo disk true
      else if rest.length ≥ 2 && isBetween (rest.headD "") then lookAtTwo disk false
      else if isSwitch arg then lookAtOne disk last
      else lookAtText

end

def examine (disk : Disk) (args : List String) : Except Objection Bool := do
  if args.isEmpty then return false
  let last := args.getLast?.getD ""
  let (holds, left) ← (lookAt disk last (10 * args.length + 10) args.length).run args
  match left with
  | arg :: _ => throw (.extra arg)
  | [] => return holds

end Test

def test (dialect : Dialect) (call : Call) : Effect :=
  let bracket := call.name = "[" || call.name.endsWith "/["
  let args := if bracket then call.args.dropLast else call.args
  let open? := bracket && call.args.getLast? ≠ some "]"
  match dialect with
  | .shell =>
    match if open? then .error .missingBracket else Test.evaluate call.disk args with
    | .ok holds => .answering call holds
    | .error e => .complaining call 2 (Test.Fault.message e)
  | .program =>
    match if open? then .error .missingBracket else Test.examine call.disk args with
    | .ok holds => .answering call holds
    | .error e => .complaining call 2 (Test.Objection.message e)

end PageScript.Shell.Program

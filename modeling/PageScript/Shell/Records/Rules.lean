/-
Reading the statements, rules and functions of scripts that work through records.

A statement ends with its line, with a semicolon, or in front of a closing brace.
-/
import PageScript.Shell.Records.Parser

namespace PageScript.Shell.Records

open Parse

-- ======== statements

def endsPrinted (t : Token) : Bool :=
  t.isSeparator || t.isSign ">" || t.isSign ">>" || t.isSign "|"

/-- Reads what is printed: a list, which may be in brackets. -/
def readPrintArguments (fuel : Nat) : Parse (List Expr) := do
  if endsPrinted (← look) then return []
  let start ← get
  if ← atSign "(" then
    let list ← readArguments fuel
    if endsPrinted (← look) then return list
    set start
  readPrinted fuel

def readDirection (fuel : Nat) : Parse (Option (Direction × Expr)) := do
  if ← takeSign ">>" then return some (.append, ← readExpr fuel false)
  else if ← takeSign ">" then return some (.create, ← readExpr fuel false)
  else if ← takeSign "|" then return some (.command, ← readExpr fuel false)
  else return none

def readOptional (fuel : Nat) (sign : String) : Parse (Option Expr) := do
  if ← atSign sign then return none else return some (← readExpr fuel false)

/-- The loop over a table that comes next behind an opening bracket: the name and the table. -/
def tableLoop? (rest : List Lexeme) : Option (String × String) :=
  match rest.map Lexeme.token with
  | .name a :: .word "in" :: .name b :: .sign ")" :: _ => some (a, b)
  | _ => none

def inLoop {α : Type} (body : Parse α) : Parse α := do
  modify fun c => { c with loops := c.loops + 1 }
  let result ← body
  modify fun c => { c with loops := c.loops - 1 }
  return result

mutual

def readStatement : (fuel : Nat) → Parse Statement
  | 0 => refuseToken
  | fuel + 1 => do
    let t ← look
    let c ← get
    let value : Parse (Option Expr) := do
      if (← look).isSeparator then return none else return some (← readExpr fuel false)
    match t with
    | .sign "\x7b" => return .block (← readBlock fuel)
    | .sign ";" | .newline | .implied =>
      moveOn
      return .block []
    | .word "if" =>
      moveOn
      opening
      let condition ← readExpr fuel false
      closing
      newlines
      let yes ← readStatement fuel
      if ← atWord "else" then
        moveOn
        newlines
        return .branch condition [yes] [← readStatement fuel]
      return .branch condition [yes] []
    | .word "while" =>
      moveOn
      opening
      let condition ← readExpr fuel false
      closing
      newlines
      return .loop condition [← inLoop (readStatement fuel)]
    | .word "do" =>
      moveOn
      newlines
      let body ← inLoop (readStatement fuel)
      if !(← atWord "while") then refuseToken
      moveOn
      opening
      let condition ← readExpr fuel false
      closing
      separator
      return .onceAndLoop [body] condition
    | .word "for" =>
      moveOn
      opening
      match tableLoop? (← get).rest with
      | some (name, table) =>
        moveOn
        moveOn
        moveOn
        closing
        newlines
        return .each name table [← inLoop (readStatement fuel)]
      | none =>
        let start ← readOptional fuel ";"
        needSign ";"
        let condition ← readOptional fuel ";"
        needSign ";"
        let step ← readOptional fuel ")"
        closing
        newlines
        return .steps start condition step [← inLoop (readStatement fuel)]
    | .word "print" =>
      moveOn
      let args ← readPrintArguments fuel
      let target ← readDirection fuel
      separator
      return .print args target
    | .word "printf" =>
      moveOn
      if endsPrinted (← look) then refuse "no arguments in call to printf"
      let args ← readPrintArguments fuel
      let target ← readDirection fuel
      separator
      return .printf args target
    | .word "delete" =>
      moveOn
      let table ← needName
      if ← takeSign "[" then
        let key ← readList fuel
        needSign "]"
        separator
        return .remove table (some key)
      separator
      return .remove table none
    | .word "next" =>
      if c.scope = .ends then refuse "improper use of next"
      moveOn
      separator
      return .next
    | .word "nextfile" =>
      if c.scope = .ends then refuse "improper use of nextfile"
      moveOn
      separator
      return .nextFile
    | .word "exit" =>
      moveOn
      let status ← value
      separator
      return .exit status
    | .word "return" =>
      if c.scope ≠ .function then refuse "return outside function body"
      moveOn
      let result ← value
      separator
      return .give result
    | .word "break" =>
      if c.loops = 0 then refuse "break statement outside of loop"
      moveOn
      separator
      return .leave
    | .word "continue" =>
      if c.loops = 0 then refuse "continue statement outside of loop"
      moveOn
      separator
      return .again
    | _ =>
      let e ← readExpr fuel false
      separator
      return .expr e

def readBlock : (fuel : Nat) → Parse (List Statement)
  | 0 => refuseToken
  | fuel + 1 => do
    needSign "\x7b"
    modify fun c => { c with braces := c.braces + 1 }
    let body ← readStatements fuel
    needSign "\x7d"
    modify fun c => { c with braces := c.braces - 1 }
    if 0 < (← get).braces then
      let after := (← get).rest.dropWhile fun l => l.token.isNewline
      modify fun c => { c with rest := after }
    return body

def readStatements : (fuel : Nat) → Parse (List Statement)
  | 0 => refuseToken
  | fuel + 1 => do
    if ← atSign "\x7d" then return []
    let before ← get
    match ← caught (readStatement fuel) with
    | .ok s => return s :: (← readStatements fuel)
    | .error fault =>
      let c ← get
      let rest := c.rest.dropWhile fun l => !l.token.isSeparator && !l.token.isSign "\x7d"
      if rest.isEmpty || 3 < c.faults.length then throw fault
      let opened := ((c.rest.take (c.rest.length - rest.length)).filter fun l =>
        l.token.isSign "\x7b").length
      set { before with
        rest := rest.drop (if (rest.headD default).token.isSeparator then 1 else 0)
        braces := c.braces + opened, faults := c.faults ++ [fault] }
      readStatements fuel

end

-- ======== rules

def readParams : (fuel : Nat) → List String → Parse (List String)
  | 0, _ => refuseToken
  | fuel + 1, known => do
    let name ← needName
    if known.contains name then refuse (name ++ " is duplicated in argument list")
    if ← takeSign "," then
      newlines
      readParams fuel (known ++ [name])
    else return known ++ [name]

def readAction (fuel : Nat) (scope : Scope) : Parse (List Statement) := do
  modify fun c => { c with scope, loops := 0 }
  let body ← readBlock fuel
  modify fun c => { c with scope := .main }
  return body

/-- Reads rules and functions to the end of the script, on top of what has been read. -/
def readRules : (fuel : Nat) → Script → Parse Script
  | 0, _ => refuseToken
  | fuel + 1, script => do
    let rule (pattern : Pattern) (action : Option (List Statement)) : Script :=
      { script with rules := script.rules ++ [⟨pattern, action⟩] }
    let finished : Parse Unit := do
      let _ ← takeSign ";"
      newlines
    match ← look with
    | .done => return script
    | .implied =>
      moveOn
      readRules fuel script
    | .sign "\x7d" =>
      if 0 < (← get).braces then refuseToken
      let fault : ScriptFault := { line := ← line, message := "extra '\x7d'" }
      moveOn
      modify fun c => { c with faults := c.faults ++ [fault] }
      readRules fuel script
    | .word "BEGIN" =>
      moveOn
      let body ← readAction fuel .ends
      finished
      readRules fuel (rule .start (some body))
    | .word "END" =>
      moveOn
      let body ← readAction fuel .ends
      finished
      readRules fuel (rule .finish (some body))
    | .word "function" =>
      moveOn
      match ← look with
      | .name name | .calling name =>
        if (script.functions.lookup name).isSome then refuse ("redefinition of " ++ name)
        moveOn
        opening
        let params ← if ← atSign ")" then pure [] else readParams fuel []
        closing
        newlines
        let body ← readAction fuel .function
        finished
        readRules fuel
          { script with functions := script.functions ++ [(name, { params, body })] }
      | _ => refuseToken
    | .sign "\x7b" =>
      let body ← readAction fuel .main
      finished
      readRules fuel (rule .always (some body))
    | _ =>
      let first ← readExpr fuel false
      let pattern ← if ← takeSign "," then
          newlines
          pure (Pattern.range first (← readExpr fuel false))
        else pure (Pattern.when first)
      if ← atSign "\x7b" then
        let body ← readAction fuel .main
        finished
        readRules fuel (rule pattern (some body))
      else
        separator
        newlines
        readRules fuel (rule pattern none)

def callFaults (script : Script) (calls : List (Nat × String × Nat)) (last : Nat) :
    List ScriptFault :=
  calls.filterMap fun (line, name, count) =>
    match script.functions.lookup name with
    | none => some { line := last, message := "function " ++ name ++ " never defined" }
    | some f =>
      if f.params.length < count then
        some { line, message := "too many arguments in call to " ++ name }
      else none

def Script.parse (text : String) : Except (List ScriptFault) Script :=
  let lexemes := tokensOf text
  let start : Cursor := { rest := lexemes.dropWhile fun l => l.token.isNewline }
  match (readRules (60 * (lexemes.length + 10)) {}).run.run start with
  | (.error e, c) => .error (c.faults ++ [e])
  | (.ok script, c) =>
    let last := (lexemes.getLast?.map Lexeme.line).getD 1
    match c.faults ++ callFaults script c.calls last with
    | [] => .ok script
    | faults => .error faults

end PageScript.Shell.Records

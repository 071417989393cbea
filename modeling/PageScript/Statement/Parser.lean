/-
Reading statements.

A statement is read in full before it is run, with one token looked at ahead at most, so that a
statement in a skipped branch takes exactly the tokens that it takes when it is run. Its first token
says which kind it is: a bare keyword, or the name of an alias followed by one argument for each
parameter.
-/
import PageScript.Statement.Cursor
import PageScript.Statement.Keyword

namespace PageScript

/-- Reads something from a cursor. -/
abbrev Parser := ExceptT Failure (StateM Cursor)

namespace Parser

/-- A reading step on cursors. -/
def ofStep {α : Type} (step : Cursor → Except Failure α × Cursor) : Parser α :=
  ExceptT.mk step

/-- Stops with a syntax fault at a token. -/
def failAt {α : Type} (fault : SyntaxFault) (t : Token) : Parser α :=
  throw (.syntaxAt fault t)

/-- The next token. -/
def next : Parser Token :=
  ofStep fun c => let (t, c) := c.next; (.ok t, c)

/-- The next token, left to be read again. -/
def peek : Parser Token :=
  ofStep fun c => let (t, c) := c.peek; (.ok t, c)

-- ======== operands

/-- A token, which has to be there. -/
def any : Parser Token := do
  let t ← next
  if t.isFinish then failAt .unexpectedEnd t else return t

/-- A word or a number. -/
def value : Parser Token := do
  let t ← any
  if t.isValue then return t else failAt (.wantedText t.kind) t

/-- The text of a word or a number. -/
def text : Parser String := do
  return (← value).text

/-- A number. -/
def number : Parser Float :=
  ofStep Cursor.number

/-- A symbol. -/
def symbol (expected : Char) : Parser Token :=
  ofStep (Cursor.symbol expected)

/-- A bare word. -/
def bareWord (expected : String) : Parser Token := do
  let t ← any
  if t.isBareWord expected then return t else failAt (.wantedWord expected) t

/-- Takes a symbol if it is next, and says whether it was. -/
def skipSymbol (symbol : Char) : Parser Bool := do
  if (← peek).isSymbol symbol then
    let _ ← next
    return true
  else return false

/-- A number of pixels: rounded, and at least zero. -/
def pixels : Parser Nat := do
  return Number.roundedNat (2 ^ 32 - 1) (← number)

/-- Two numbers of pixels with a comma between them. -/
def pixelPair : Parser (Nat × Nat) := do
  let a ← pixels
  let _ ← symbol ','
  let b ← pixels
  return (a, b)

/-- A word for on or off. -/
def truth : Parser Bool := do
  let t ← value
  match truthValue? t.text with
  | some b => return b
  | none => failAt .wantedSwitch t

/-- A word for on or off if one is next; nothing means on. -/
def optionalTruth : Parser Bool := do
  let t ← peek
  if t.kind ≠ .word then return true
  else
    match truthValue? t.text with
    | some b =>
      let _ ← next
      return b
    | none => return true

/-- The expectation on one coordinate. -/
def axis : Parser Axis := do
  let t ← any
  if t.isSymbol '*' || (t.kind = .word && t.text = "*") then return .any
  else
    match t.value? with
    | none => failAt .wantedAxis t
    | some lo =>
      if ← skipSymbol ':' then return .range lo (← number)
      else return .exact lo

/-- The expectations on two coordinates. -/
def axisPair : Parser AxisPair := do
  let a ← axis
  let _ ← symbol ','
  let b ← axis
  return ⟨a, b⟩

/-- The whole number below 2^32 that a text writes in decimal digits, with an optional plus sign. -/
def word32? (cs : List Char) : Option Nat :=
  let digits :=
    match cs with
    | '+' :: rest => rest
    | cs => cs
  if digits ≠ [] ∧ digits.all Char.isDigit ∧ Number.digitsValue digits < 2 ^ 32 then
    some (Number.digitsValue digits)
  else none

/-- A checksum: a number, or a text of a number behind `crc32:`. -/
def checksum : Parser Nat := do
  let t ← value
  let digits? :=
    if t.kind = .number then some t.text.toList
    else
      match Text.splitAtFirst? ':' t.text.toList with
      | some (kind, digits) => if kind = "crc32".toList then some digits else none
      | none => none
  match digits? with
  | none => failAt .wantedChecksum t
  | some digits =>
    match word32? (Text.trimChars digits) with
    | some n => return n
    | none => failAt .badChecksum t

/-- A key by name, or by code where codes are allowed. -/
def key (codes : Bool) : Parser Key := do
  let t ← value
  if codes && t.kind = .number then
    match t.number with
    | some n =>
      if 0 ≤ n && n ≤ 4294967295 then return .code n.toUInt32.toNat else failAt .badKeyCode t
    | none => failAt .badKeyCode t
  else
    match Key.ofName? t.text with
    | some k => return k
    | none => failAt .unknownKey t

-- ======== statements

/-- The text of a token that may stand as an argument. -/
def argumentText (fault : SyntaxFault) (t : Token) : Except SyntaxFault String :=
  if t.isValue then .ok t.text else .error fault

/-- A token as an argument of a page's hook: a number or a text. -/
def hookArgument (t : Token) : Except SyntaxFault Json :=
  if t.isValue then
    match t.value? with
    | some n => .ok (Json.ofFloat n)
    | none => .ok (.str t.text)
  else .error .symbolInCall

/-- A parameter's name, with or without the dollar signs of a reference. -/
def parameter (t : Token) : Except SyntaxFault String :=
  if t.kind = .word then .ok (String.ofList (t.text.toList.dropWhile (· = '$')))
  else .error .wantedParameter

/-- Reads what follows `default`. -/
def defaultStatement : Parser Statement := do
  let t ← any
  match t.text with
  | "wait" => return .defaultWait (← number)
  | "screenshot" => return .defaultScreenshot (← text)
  | _ => failAt .wantedDefault t

/-- Reads what follows `browser`. -/
def browserCommand : Parser BrowserCommand := do
  let t ← any
  match t.text with
  | "start" => return .start
  | "connect" => return .connect (← text)
  | "size" => let (w, h) ← pixelPair; return .size w h
  | "chrome" => let (w, h) ← pixelPair; return .chrome w h
  | "get" => return .get (← text)
  | "close" => return .close
  | "wait" => return .wait (← number)
  | "back" => return .back
  | "forward" => return .forward
  | "refresh" => return .refresh
  | "send" => return .send (← text)
  | "headless" => return .headless (← truth)
  | "option" => return .option (← text)
  | "prefs" =>
    let name ← text
    return .prefs name (← text)
  | _ => failAt .unknownBrowserCommand t

/-- Reads what follows `log`. -/
def logStatement : Parser Statement := do
  let t ← any
  match t.text with
  | "auto" => return .logAuto (← truth)
  | "dump" => return .logDump
  | _ => failAt .wantedLogMode t

/-- Reads what follows `call`: a hook's name, and its arguments between braces if there are any. -/
def callStatement : Parser Statement := do
  let hook ← text
  if ← skipSymbol '\x7b' then
    return .call hook (← ofStep (Cursor.items '\x7d' hookArgument))
  else return .call hook []

/-- Reads what follows `exec` and `exec-include`: a command, and its arguments between brackets if
there are any. -/
def execStatement (run : Bool) : Parser Statement := do
  let command ← text
  if ← skipSymbol '(' then
    return .exec command (← ofStep (Cursor.items ')' (argumentText .symbolInExec))) run
  else return .exec command [] run

/-- Reads what follows `alias`: a name, parameters between brackets if there are any, and the body.
-/
def aliasDefinition : Parser Alias := do
  let nameToken ← any
  if nameToken.kind ≠ .word then failAt .wantedAliasName nameToken
  else
    let t ← any
    let (params, opening) ←
      if t.isSymbol '(' then
        let params ← ofStep (Cursor.items ')' parameter)
        let opening ← any
        pure (params, opening)
      else pure ([], t)
    if !opening.isSymbol '\x7b' then failAt (.wantedSymbol '\x7b') opening
    else
      let block ← ofStep fun c => c.capture opening true
      return { name := nameToken.text, params, body := block.span }

/-- The arguments for parameters, one token each; commas between them are optional. -/
def arguments (isFirst : Bool) (bound : Bindings) : List String → Parser Bindings
  | [] => return bound
  | param :: rest => do
    if !isFirst then
      let _ ← skipSymbol ','
    let t ← any
    arguments false (bound.insert param t) rest

/-- The use of an alias. -/
def invocation (aliases : AliasTable) (first : Token) : Parser Statement :=
  match aliases.get? first.text with
  | none => failAt .unexpectedToken first
  | some a => do return .invoke first.text (← arguments true {} a.params)

/-- The statement that a keyword starts. -/
def keywordStatement : Keyword → Parser Statement
  | .version => return .version
  | .default => defaultStatement
  | .browser => return .browser (← browserCommand)
  | .includeFile => return .includeFile (← text)
  | .call => callStatement
  | .alias => return .defineAlias (← aliasDefinition)
  | .locate kind => return .locate ⟨kind, ← text⟩
  | .log => logStatement
  | .dump => return .dump
  | .info => return .info
  | .click => return .verify .click
  | .clickNow => return .clickNow
  | .screenshot => return .screenshot (← text)
  | .sleep => return .sleep (← number)
  | .tag => return .verify (.tag (← text))
  | .not => return .not
  | .displayed => return .verify (.state .displayed (← optionalTruth))
  | .enabled => return .verify (.state .enabled (← optionalTruth))
  | .selected => return .verify (.state .selected (← optionalTruth))
  | .at => return .verify (.geometry .position (← axisPair))
  | .size => return .verify (.geometry .size (← axisPair))
  | .check => return .verify (.text (← text))
  | .checksum => return .verify (.checksum (← checksum))
  | .wait => return .wait (← number)
  | .waitFor => do
    let t ← value
    if t.text = "navigation" then return .verify .navigation else failAt .wantedNavigation t
  | .echo => return .echo (← text)
  | .set => return .set (← text)
  | .send => return .send (← text)
  | .clear => return .clear
  | .press => return .press (← key false)
  | .sendKey => return .press (← key true)
  | .push => do
    let _ ← bareWord "wait"
    return .pushWait
  | .pop => do
    let _ ← bareWord "wait"
    return .popWait
  | .exec => execStatement false
  | .execInclude => execStatement true
  | .ifBegin => return .control .ifBegin
  | .thenEnter => return .control .thenEnter
  | .endIf => return .control .endIf
  | .fail => return .fail (← text)
  | .mouse => do
    let _ ← symbol '\x7b'
    return .mouse (← ofStep Cursor.gesture)
  | .while => do
    let opening ← symbol '\x7b'
    return .while (← ofStep fun c => c.capture opening false)
  | .scrollIntoView => return .scrollIntoView

/-- The statement that starts with a token. -/
def statement (aliases : AliasTable) (first : Token) : Parser Statement :=
  if first.kind ≠ .word then failAt (.unexpectedKind first.kind) first
  else
    match Keyword.ofWord? first.text with
    | some keyword =>
      if first.quote.isNone then keywordStatement keyword else invocation aliases first
    | none => invocation aliases first

end Parser

/-- Reads the statement that starts with a token, and gives the place after it. -/
def Cursor.statement (c : Cursor) (aliases : AliasTable) (first : Token) :
    Except Failure Statement × Cursor :=
  (Parser.statement aliases first).run.run c

end PageScript

/-
Failures of scripts: causes, and the place where they arose.

A failure carries its cause, the token at which it arose and the frames that were open then. Both
are set once, at the innermost place, and never replaced on the way out.
-/
import PageScript.Browser.Error
import PageScript.Probe
import PageScript.Token

namespace PageScript

-- ======== causes

/-- What makes a script no script. -/
inductive SyntaxFault where
  | unexpectedKind (kind : TokenKind)
  | unexpectedToken
  | unexpectedEnd
  | wantedText (got : TokenKind)
  | wantedNumber (got : TokenKind)
  | wantedSymbol (symbol : Char)
  | wantedWord (word : String)
  | wantedSwitch
  | wantedDefault
  | wantedLogMode
  | wantedAliasName
  | wantedParameter
  | wantedAxis
  | wantedChecksum
  | wantedNavigation
  | wantedOffset
  | badChecksum
  | badKeyCode
  | unknownKey
  | unknownBrowserCommand
  | unknownMouseStep
  | symbolInCall
  | symbolInExec
  | symbolInMouse
  | unterminatedBlock
  | unknownAlias (name : String)
  | thenTwice
  | thenAlone
  | endifEarly
  | endifAlone
  | ifOpen
  | popWithoutPush
  /-- A fault described elsewhere. -/
  | other (reason : String)
  deriving Repr, DecidableEq, Inhabited

/-- The wording of a syntax fault. -/
def SyntaxFault.message : SyntaxFault → String
  | .unexpectedKind kind => "unexpected " ++ kind.name
  | .unexpectedToken => "unexpected token"
  | .unexpectedEnd => "unexpected end of input"
  | .wantedText got => "expected string but got " ++ got.name
  | .wantedNumber got => "expected number but got " ++ got.name
  | .wantedSymbol symbol => "expected '" ++ symbol.toString ++ "'"
  | .wantedWord word => "expected '" ++ word ++ "'"
  | .wantedSwitch => "expected on/off, yes/no or true/false"
  | .wantedDefault => "expected 'wait' or 'screenshot'"
  | .wantedLogMode => "expected 'auto' or 'dump'"
  | .wantedAliasName => "expected alias name"
  | .wantedParameter => "expected parameter name"
  | .wantedAxis => "expected number, '*' or lo:hi"
  | .wantedChecksum => "expected \"crc32:<number>\""
  | .wantedNavigation => "wait-for expects \"navigation\""
  | .wantedOffset => "expected \"dx,dy\""
  | .badChecksum => "invalid crc32 value"
  | .badKeyCode => "invalid key code"
  | .unknownKey => "unknown key"
  | .unknownBrowserCommand => "unknown browser command"
  | .unknownMouseStep => "unknown mouse step"
  | .symbolInCall => "unexpected symbol in call arguments"
  | .symbolInExec => "unexpected symbol in exec arguments"
  | .symbolInMouse => "unexpected symbol in mouse block"
  | .unterminatedBlock => "unterminated block"
  | .unknownAlias name => "unknown alias '" ++ name ++ "'"
  | .thenTwice => "'then' already seen for this 'if'"
  | .thenAlone => "'then' without 'if'"
  | .endifEarly => "'endif' before 'then'"
  | .endifAlone => "'endif' without 'if'"
  | .ifOpen => "'if' without 'endif'"
  | .popWithoutPush => "'pop wait' without 'push wait'"
  | .other reason => reason

/-- What a check found instead of what was expected. -/
inductive Mismatch where
  /-- The probe held although the script says it must not. -/
  | held (probe : Probe)
  | text (expected actual : String)
  | tag (expected actual : String)
  | state (which : ElementState) (wanted actual : Bool)
  | geometry (measure : Measure) (expected : AxisPair) (a b : Float)
  | checksum (expected actual : Nat)
  | document (readiness : String)
  /-- A mismatch described elsewhere. -/
  | other (reason : String)
  deriving Inhabited

/-- The wording of a mismatch. -/
def Mismatch.message : Mismatch → String
  | .held probe => "expected not " ++ probe.display
  | .text expected actual => "expected \"" ++ expected ++ "\" but was \"" ++ actual ++ "\""
  | .tag expected actual => "expected tag " ++ expected ++ " but was " ++ actual
  | .state which wanted actual =>
    let name (b : Bool) := if b then which.name else "not " ++ which.name
    "expected " ++ name wanted ++ " but was " ++ name actual
  | .geometry measure expected a b =>
    "expected " ++ measure.name ++ " " ++ expected.display ++ " but was " ++
      Number.text (Number.round a) ++ "," ++ Number.text (Number.round b)
  | .checksum expected actual =>
    "expected checksum crc32:" ++ Number.natText expected ++ " but was crc32:" ++
      Number.natText actual
  | .document readiness => "document is " ++ readiness
  | .other reason => reason

/-- Compares a measure of an element with what is expected of it. -/
def Measure.check (m : Measure) (expected : AxisPair) (r : Rect) : Except Mismatch Unit :=
  let (a, b) := m.values r
  if expected.accepts a b then .ok () else .error (.geometry m expected a b)

/-- Why a statement failed. -/
inductive ScriptError where
  | syntaxFault (fault : SyntaxFault)
  | assertion (mismatch : Mismatch)
  | timeout (what : String)
  | subprocess (command : String) (status : Int)
  /-- The script says that it fails. -/
  | explicit (message : String)
  | browser (cause : BrowserError)
  | io (file : Option Path) (cause : IoError)
  deriving Inhabited

/-- The wording of a script error. -/
def ScriptError.message : ScriptError → String
  | .syntaxFault fault => "Syntax error: " ++ fault.message
  | .assertion mismatch => "Assertion failed: " ++ mismatch.message
  | .timeout what => "Timeout waiting for: " ++ what
  | .subprocess command status =>
    "Subprocess failed: " ++ command ++ " exited with status " ++ Number.intText status
  | .explicit message => "Failed: " ++ message
  | .browser cause => "Driver error: " ++ cause.message
  | .io (some file) cause => "IO error: " ++ file.text ++ ": " ++ cause.message
  | .io none cause => "IO error: " ++ cause.message

-- ======== failures

/-- A frame as it stood when a failure arose. -/
structure TraceEntry where
  frame : String
  line : Nat
  /-- The line in the frame below that entered this one; none at the bottom. -/
  callerLine : Option Nat
  deriving Repr, DecidableEq, Inhabited

/-- A script error with the place where it arose. -/
structure Failure where
  error : ScriptError
  /-- The token at which the failure arose, as messages show it. -/
  token : Option String := none
  /-- The line of that token within its frame. -/
  line : Option Nat := none
  /-- The open frames, the innermost first. -/
  trace : List TraceEntry := []
  deriving Inhabited

namespace Failure

/-- A failure with no place yet. -/
def ofError (error : ScriptError) : Failure := { error }

/-- Sets the token at which a failure arose unless one is set. -/
def withToken (f : Failure) (t : Token) : Failure :=
  match f.token with
  | some _ => f
  | none => { f with token := some t.display, line := some t.line }

/-- Sets the open frames unless they are set. -/
def withTrace (f : Failure) (trace : List TraceEntry) : Failure :=
  if f.trace.isEmpty then { f with trace } else f

/-- A syntax fault at a token. -/
def syntaxAt (fault : SyntaxFault) (t : Token) : Failure :=
  (ofError (.syntaxFault fault)).withToken t

/-- Whether the script is at fault as a text. -/
def isSyntax (f : Failure) : Bool :=
  match f.error with
  | .syntaxFault _ => true
  | _ => false

/-- Whether trying again may help. -/
def isRetryable (f : Failure) : Bool :=
  match f.error with
  | .assertion _ => true
  | .browser cause => cause.isTransient
  | _ => false

/-- Whether the failure of a predicate means that it does not hold. -/
def isPredicate (f : Failure) : Bool :=
  f.isRetryable ||
    match f.error with
    | .timeout _ => true
    | .subprocess .. => true
    | _ => false

/-- Whether the failure ends a loop in the ordinary way. -/
def endsLoop (f : Failure) : Bool :=
  !f.isSyntax

/-- The frame of a trace as messages show it. -/
def traceLine (e : TraceEntry) : String :=
  "\n    in " ++ e.frame ++ " line " ++ Number.natText e.line ++
    match e.callerLine with
    | some n => " (called from line " ++ Number.natText n ++ ")"
    | none => ""

/-- The failure over several lines: the cause, its place, and the frames. -/
def diagnostic (f : Failure) : String :=
  let place :=
    match f.token, f.line with
    | some token, some line => " at '" ++ token ++ "' line " ++ Number.natText line
    | none, some line => " at line " ++ Number.natText line
    | _, none => ""
  f.error.message ++ place ++ String.join (f.trace.map traceLine)

end Failure

end PageScript

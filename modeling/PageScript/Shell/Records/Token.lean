/-
The tokens of scripts that work through records.

A slash begins a regular expression unless something stands in front of it that can be divided. A
brace that closes a block ends the statement in front of it, which needs no semicolon then. What
cannot be read is a token too, so that it is complained about when it is come to.
-/
import PageScript.Shell.Program.Print
import PageScript.Shell.Records.Expression
import PageScript.Shell.Records.Script

namespace PageScript.Shell.Records

/-- A token. -/
inductive Token where
  | number (x : Float) (text : String)
  | text (s : String)
  | expression (source : String)
  | name (s : String)
  /-- A name right in front of an opening bracket. -/
  | calling (s : String)
  /-- A word of the language. -/
  | word (s : String)
  | sign (s : String)
  | newline
  /-- The end of a statement in front of a closing brace. -/
  | implied
  | done
  /-- What cannot be read, and what is said about it. -/
  | flaw (message : String)
  deriving Inhabited

/-- A token with the line that it is on. -/
structure Lexeme where
  token : Token
  line : Nat
  deriving Inhabited

def keywords : List String :=
  ["BEGIN", "END", "break", "continue", "delete", "do", "else", "exit", "for", "function",
    "getline", "gsub", "if", "in", "next", "nextfile", "print", "printf", "return", "split", "sub",
    "while"]

namespace Token

def isSign (t : Token) (s : String) : Bool :=
  match t with
  | .sign u => u == s
  | _ => false

def isWord (t : Token) (s : String) : Bool :=
  match t with
  | .word u => u == s
  | _ => false

def isNewline : Token → Bool
  | .newline => true
  | _ => false

def divides : Token → Bool
  | .number _ _ | .text _ | .expression _ | .name _ => true
  | .word s => s == "getline"
  | .sign s => s == ")" || s == "]" || s == "++" || s == "--"
  | _ => false

def isSeparator : Token → Bool
  | .newline | .implied => true
  | .sign s => s == ";"
  | _ => false

def spelling : Token → String
  | .number _ written => written
  | .text s => "\"" ++ s ++ "\""
  | .expression s => "/" ++ s ++ "/"
  | .name s | .calling s | .word s | .sign s => s
  | .newline => "end of line"
  | .implied => "\x7d"
  | .done => "end of file"
  | .flaw s => s

end Token

-- ======== texts

/-- What an escape in a text stands for, behind its backslash, and what follows it. An escape that
means nothing stands for itself. -/
def textEscape (cs : List Char) : List Char × List Char :=
  match cs with
  | [] => (['\\'], [])
  | '"' :: rest => (['"'], rest)
  | '\\' :: rest => (['\\'], rest)
  | '\n' :: rest => ([], rest)
  | 'x' :: rest =>
    let ds := (rest.take 2).takeWhile fun c => (Number.hexValue? c).isSome
    if ds.isEmpty then (['\\', 'x'], rest)
    else ([Char.ofNat (Program.hexadecimal ds)], rest.drop ds.length)
  | c :: rest =>
    if Expression.isOctal c then
      let (d, rest) := Expression.escape cs
      ([d], rest)
    else
      match Expression.control? c with
      | some d => ([d], rest)
      | none => (['\\', c], rest)

/-- A text with its escapes replaced; each character takes one of `fuel`. -/
def unescaped : (fuel : Nat) → List Char → List Char
  | 0, _ | _, [] => []
  | fuel + 1, '\\' :: rest =>
    let (cs, rest) := textEscape rest
    cs ++ unescaped fuel rest
  | fuel + 1, c :: rest => c :: unescaped fuel rest

def unescape (s : String) : String :=
  String.ofList (unescaped (s.length + 1) s.toList)

/-- Reads a text behind its opening mark up to the closing one; none if the line ends before. Each
character takes one of `fuel`. -/
def readText? : (fuel : Nat) → List Char → Option (List Char × List Char)
  | 0, _ | _, [] => none
  | _, '"' :: rest => some ([], rest)
  | _, '\n' :: _ => none
  | fuel + 1, '\\' :: c :: rest => do
    let (inner, left) ← readText? fuel rest
    return ('\\' :: c :: inner, left)
  | fuel + 1, c :: rest => do
    let (inner, left) ← readText? fuel rest
    return (c :: inner, left)

/-- Reads a regular expression behind its opening slash up to the closing one, `inSet` saying that
it is inside brackets; none if the line ends before. Each character takes one of `fuel`. -/
def readExpression? : (fuel : Nat) → (inSet : Bool) → List Char →
    Option (List Char × List Char)
  | 0, _, _ | _, _, [] => none
  | _, _, '\n' :: _ => none
  | fuel + 1, inSet, '\\' :: c :: rest => do
    let (inner, left) ← readExpression? fuel inSet rest
    return (if c = '/' then '/' :: inner else '\\' :: c :: inner, left)
  | _ + 1, false, '/' :: rest => some ([], rest)
  | fuel + 1, false, '[' :: rest => do
    let (front, rest) := match rest with
      | '^' :: ']' :: rest => (['^', ']'], rest)
      | '^' :: rest => (['^'], rest)
      | ']' :: rest => ([']'], rest)
      | rest => ([], rest)
    let (inner, left) ← readExpression? fuel true rest
    return ('[' :: front ++ inner, left)
  | fuel + 1, true, '[' :: ':' :: rest => do
    let name := rest.takeWhile Char.isAlpha
    match rest.drop name.length with
    | ':' :: ']' :: rest =>
      let (inner, left) ← readExpression? fuel true rest
      return ('[' :: ':' :: name ++ ':' :: ']' :: inner, left)
    | rest =>
      let (inner, left) ← readExpression? fuel true rest
      return ('[' :: ':' :: name ++ inner, left)
  | fuel + 1, true, ']' :: rest => do
    let (inner, left) ← readExpression? fuel false rest
    return (']' :: inner, left)
  | fuel + 1, inSet, c :: rest => do
    let (inner, left) ← readExpression? fuel inSet rest
    return (c :: inner, left)

-- ======== tokens

def signs : List String :=
  ["&&", "||", "==", "!=", "<=", ">=", "++", "--", "+=", "-=", "*=", "/=", "%=", "^=", "!~", ">>",
    "\x7b", "\x7d", "(", ")", "[", "]", ";", ",", "+", "-", "*", "/", "%", "^", "!", "<", ">", "~",
    "=", "?", ":", "$", "|"]

def signAt? (cs : List Char) : Option String :=
  signs.find? fun s => s.toList.isPrefixOf cs

def runaway (cs : List Char) : String :=
  String.ofList (((cs.takeWhile (· ≠ '\n')).take 10)) ++ " ..."

def startsName (c : Char) : Bool :=
  c.isAlpha || c = '_'

def wordToken (s : String) (called : Bool) : Token :=
  if s = "func" then .word "function"
  else if keywords.contains s || (Verb.table.lookup s).isSome then .word s
  else if called then .calling s
  else .name s

/-- The tokens of a text; each character takes one of `fuel`. `before` is the token in front. -/
def tokens : (fuel : Nat) → (before : Token) → (line : Nat) → List Char → List Lexeme
  | 0, _, line, _ => [⟨.done, line⟩]
  | _, _, line, [] => [⟨.newline, line⟩, ⟨.done, line + 1⟩]
  | fuel + 1, before, line, cs@(c :: rest) =>
    let go (t : Token) (rest : List Char) : List Lexeme := ⟨t, line⟩ :: tokens fuel t line rest
    if c = ' ' || c = '\t' || c = '\r' || c = '\x0B' || c = '\x0C' then
      tokens fuel before line rest
    else if c = '\n' then
      if before.isNewline || before.isSign ";" then tokens fuel before (line + 1) rest
      else ⟨.newline, line⟩ :: tokens fuel .newline (line + 1) rest
    else if c = '#' then tokens fuel before line (rest.dropWhile (· ≠ '\n'))
    else if c = '"' then
      match readText? (rest.length + 1) rest with
      | some (inner, left) =>
        let text := String.ofList (unescaped (inner.length + 1) inner)
        let lines := (inner.filter (· = '\n')).length
        ⟨.text text, line⟩ :: tokens fuel (.text text) (line + lines) left
      | none => [⟨.flaw ("runaway string constant \"" ++ runaway rest), line⟩]
    else if startsName c then
      let name := cs.takeWhile fun d => startsName d || d.isDigit
      let left := cs.drop name.length
      go (wordToken (String.ofList name) (left.head? == some '(')) left
    else if c.isDigit || (c = '.' && ((rest.head?.map Char.isDigit).getD false)) then
      match Program.frontDecimal? cs with
      | some (_, num, den, left) =>
        go (.number (Number.ofFraction false num den)
          (String.ofList (cs.take (cs.length - left.length)))) left
      | none => [⟨.flaw "syntax error", line⟩]
    else if c = '/' && !before.divides then
      match readExpression? (rest.length + 1) false rest with
      | some (source, left) => go (.expression (String.ofList source)) left
      | none => [⟨.flaw ("runaway regular expression /" ++ runaway rest), line⟩]
    else if c = '\\' && rest.head? = some '\n' then tokens fuel before (line + 1) (rest.drop 1)
    else
      match signAt? cs with
      | some s =>
        let left := cs.drop s.length
        if s = "\x7d" && !before.isSeparator && !before.isSign "\x7d" then
          ⟨.implied, line⟩ :: go (.sign s) left
        else go (.sign s) left
      | none => [⟨.flaw ("unexpected character '" ++ c.toString ++ "'"), line⟩]

def tokensOf (text : String) : List Lexeme :=
  tokens (text.length + 1) .newline 1 text.toList

end PageScript.Shell.Records

/-
Tokens: what a script's text is cut into and what statements are read from.

A token keeps three spellings: `text` with quotes and escapes resolved, `raw` as it stands in the
source, and `leading`, the blanks in front of it. Lines count from one.
-/
import PageScript.Number.Decimal

namespace PageScript

/-- The lexical category of a token. -/
inductive TokenKind where
  /-- A numeric literal, possibly negative or with a fraction. -/
  | number
  /-- A bare word or a quoted string. -/
  | word
  /-- A single punctuation character. -/
  | symbol
  /-- The end of the input. -/
  | finish
  deriving Repr, DecidableEq, Inhabited

/-- The category's name in messages. -/
def TokenKind.name : TokenKind → String
  | .number => "number"
  | .word => "string"
  | .symbol => "symbol"
  | .finish => "end of input"

/-- A lexical unit. -/
structure Token where
  kind : TokenKind
  /-- The text with quotes and escapes resolved. -/
  text : String
  /-- The value of a number. -/
  number : Option Float := none
  /-- The line on which the token starts. Lines are counted without a bound, which is meant for texts
  of fewer than `2 ^ 32` of them. -/
  line : Nat
  /-- The quote character of the first quoted part. -/
  quote : Option Char := none
  /-- The blanks in front of the token, comments left out. -/
  leading : String := ""
  /-- The token as it stands in the source. -/
  raw : String
  deriving Inhabited

namespace Token

/-- A bare word. -/
def word (text : String) (line : Nat) : Token :=
  { kind := .word, text, line, raw := text }

/-- A number, written the way scripts write it. -/
def ofNumber (value : Float) (line : Nat) : Token :=
  { kind := .number, text := Number.text value, number := some value, line,
    raw := Number.text value }

/-- A punctuation character. -/
def symbol (c : Char) (line : Nat) : Token :=
  { kind := .symbol, text := c.toString, line, raw := c.toString }

/-- The end of the input. -/
def finish (line : Nat) : Token :=
  { kind := .finish, text := "", line, raw := "" }

/-- Whether the token is the end of the input. -/
def isFinish (t : Token) : Bool :=
  t.kind = .finish

/-- Whether the token is the punctuation character `c`. -/
def isSymbol (t : Token) (c : Char) : Bool :=
  t.kind = .symbol && t.text = c.toString

/-- Whether the token is the bare word `w`. -/
def isBareWord (t : Token) (w : String) : Bool :=
  t.kind = .word && t.quote.isNone && t.text = w

/-- Whether the token can stand for a text: a word or a number. -/
def isValue (t : Token) : Bool :=
  t.kind = .word || t.kind = .number

/-- The value of a number token. -/
def value? (t : Token) : Option Float :=
  if t.kind = .number then t.number else none

/-- The token as messages show it. -/
def display (t : Token) : String :=
  match t.kind with
  | .finish => "<end of input>"
  | _ => t.text

/-- A well-formed token: it carries a value iff it is a number, only words are quoted, and a symbol
is one character. -/
structure WellFormed (t : Token) : Prop where
  number_iff : t.kind = .number ↔ t.number.isSome
  word_of_quote : t.quote.isSome → t.kind = .word
  single_of_symbol : t.kind = .symbol → t.text.length = 1

end Token

end PageScript

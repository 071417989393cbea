/-
The character classes by which a script's text is cut into tokens.

The classes may overlap; a scanner asks for blanks first, then for comments, and inside a token for
quotes before digits and digits before letters.
-/

namespace PageScript

/-- Which characters quote, make words and separate tokens, and which comments are known. -/
structure Lexicon where
  /-- Characters that open and close a quoted string. -/
  quotes : String := "\"'"
  /-- Word characters beside ASCII letters and digits. -/
  wordExtras : String := "$#_-"
  /-- Characters skipped between tokens. -/
  blanks : String := " \t\r\n"
  /-- Whether two slashes start a comment up to the end of the line. -/
  lineComments : Bool := true
  /-- Whether slash and star start a comment up to star and slash. -/
  blockComments : Bool := true
  deriving Repr, Inhabited, DecidableEq

namespace Lexicon

variable (lex : Lexicon)

/-- Whether a character separates tokens. -/
def isBlank (c : Char) : Bool :=
  lex.blanks.toList.contains c

/-- Whether a character opens a quoted part. -/
def isQuote (c : Char) : Bool :=
  lex.quotes.toList.contains c

/-- Whether a character belongs to a word. -/
def isWord (c : Char) : Bool :=
  c.isAlphanum || lex.wordExtras.toList.contains c

end Lexicon

/-- Whether a character can go on with a number; a minus sign only starts one. -/
def isNumeric (atStart : Bool) (c : Char) : Bool :=
  c.isDigit || c = '.' || (atStart && c = '-')

end PageScript

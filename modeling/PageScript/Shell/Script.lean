/-
Shell scripts: words and commands.

Text is kept as bytes, one character for each, since a shell neither knows nor cares what its bytes
say. A word is a list of parts, and a part that is quoted is taken as it stands: it is not split
into fields, and nothing in it is a pattern.
-/

namespace PageScript.Shell

/-- What is done about a parameter that has no value. -/
inductive Fallback where
  /-- Another value is used. -/
  | use
  /-- Another value is assigned and used. -/
  | assign
  /-- It is an error. -/
  | complain
  /-- The other way round: another value is used if there is one. -/
  | replace
  deriving Repr, DecidableEq, Inhabited

/-- What a redirection does with its stream. -/
inductive Redirection where
  | read
  | write
  | append
  /-- Writes even where files are protected from it. -/
  | overwrite
  | update
  /-- Makes the stream the same as another one, or closes it. -/
  | duplicate
  /-- Reads a text that stands in the script, which is kept under a number. -/
  | document (number : Nat)
  deriving Repr, DecidableEq, Inhabited

mutual

/-- A part of a word. -/
inductive Part where
  | text (chars : List Char) (quoted : Bool)
  | parameter (name : String) (use : Usage) (quoted : Bool)
  /-- What commands write. -/
  | command (body : Node) (quoted : Bool)
  | arithmetic (expression : List Part) (quoted : Bool)
  /-- A parameter with something behind it that means nothing. -/
  | flawed

/-- What is taken of a parameter. -/
inductive Usage where
  | value
  | length
  /-- Its value, or what stands in for one that is unset, or also for one that is empty. -/
  | fallback (kind : Fallback) (orEmpty : Bool) (word : List Part)
  /-- Its value without what a pattern matches at its start or end. -/
  | trim (atEnd longest : Bool) (pattern : List Part)

/-- A redirection: the stream, what is done with it, and the word for its other end. -/
inductive Redirect where
  | mk (stream : Nat) (action : Redirection) (target : List Part)

/-- A command; `line` is where it stands. -/
inductive Node where
  | nothing
  | simple (line : Nat) (assignments : List (String × List Part)) (words : List (List Part))
    (redirects : List Redirect)
  | redirected (line : Nat) (body : Node) (redirects : List Redirect)
  | pipe (stages : List Node)
  | not (body : Node)
  | both (left right : Node)
  | either (left right : Node)
  | sequence (left right : Node)
  | background (body : Node)
  | subshell (line : Nat) (body : Node) (redirects : List Redirect)
  | choice (test yes no : Node)
  /-- Repeats a body while its test succeeds, or until it does. -/
  | repeated (negated : Bool) (test body : Node)
  | each (line : Nat) (name : String) (words : List (List Part)) (body : Node)
  | select (line : Nat) (subject : List Part) (branches : List (List (List Part) × Node))
  | define (name : String) (body : Node)

end

abbrev Word := List Part

instance : Inhabited Node := ⟨.nothing⟩

instance : Inhabited Part := ⟨.flawed⟩

def Word.plain? (w : Word) : Option String :=
  match w with
  | [.text cs false] => some (String.ofList cs)
  | _ => none

def isNameStart (c : Char) : Bool :=
  c.isAlpha || c = '_'

def isNameChar (c : Char) : Bool :=
  c.isAlphanum || c = '_'

def isName (s : String) : Bool :=
  match s.toList with
  | c :: rest => isNameStart c && rest.all isNameChar
  | [] => false

def isSpecial (c : Char) : Bool :=
  c.isDigit || c = '@' || c = '*' || c = '#' || c = '?' || c = '$' || c = '!' || c = '-'

/-- Splits an assignment off a word: a name, an equals sign, and the value. -/
def assignment? (w : Word) : Option (String × Word) :=
  match w with
  | .text cs false :: rest =>
    let name := cs.takeWhile isNameChar
    match cs.drop name.length with
    | '=' :: value =>
      if isName (String.ofList name) then
        some (String.ofList name, if value.isEmpty then rest else .text value false :: rest)
      else none
    | _ => none
  | _ => none

def consText (c : Char) : Word → Word
  | .text cs false :: rest => .text (c :: cs) false :: rest
  | word => .text [c] false :: word

def consQuoted (c : Char) : Word → Word
  | .text cs true :: rest => .text (c :: cs) true :: rest
  | word => .text [c] true :: word

end PageScript.Shell

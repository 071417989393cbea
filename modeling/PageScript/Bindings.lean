/-
Arguments bound to parameters, and their substitution into tokens.

Only words hold references. A word that is exactly one reference to a bound parameter becomes the
bound token, so that it takes over its kind; a reference to a whole number becomes a number where
the argument reads as one. Inside a longer text a reference becomes the argument's text. What is put
in is never looked at again, and references to unbound parameters stay.
-/
import PageScript.Reference
import PageScript.Token
import PageScript.Text.Blank

namespace PageScript

/-- Arguments by parameter name. -/
structure Bindings where
  entries : List (String × Token) := []
  deriving Inhabited

namespace Bindings

/-- No arguments. -/
def empty : Bindings := {}

/-- The argument bound to a parameter. -/
def get? (b : Bindings) (name : String) : Option Token :=
  (b.entries.find? fun e => e.1 = name).map Prod.snd

/-- Binds a parameter, in place of an earlier argument of the same name. -/
def insert (b : Bindings) (name : String) (argument : Token) : Bindings :=
  ⟨(name, argument) :: b.entries.filter fun e => e.1 ≠ name⟩

/-- Whether nothing is bound. -/
def isEmpty (b : Bindings) : Bool :=
  b.entries.isEmpty

end Bindings

namespace Token

/-- The numeric value of an argument: that of a number, or of a text that reads as a number. -/
def numericValue? (t : Token) : Option Float :=
  match t.number with
  | some value => some value
  | none => Number.parse? (Text.trim t.text)

/-- The token at the place of another one: its line and the blanks in front. -/
def movedTo (t place : Token) : Token :=
  { t with line := place.line, leading := place.leading }

/-- What a reference that is the whole of `place` is replaced by. -/
def standIn (argument : Token) (whole : Bool) (place : Token) : Token :=
  if whole then
    match argument.numericValue? with
    | some value => (Token.ofNumber (Number.truncate value) place.line).movedTo place
    | none => argument.movedTo place
  else argument.movedTo place

/-- What a reference inside a longer text is replaced by. -/
def inlineText (argument : Token) (whole : Bool) : String :=
  if whole then
    match argument.numericValue? with
    | some value => Number.text (Number.truncate value)
    | none => argument.text
  else argument.text

/-- The text of a part with its reference, if it is bound, replaced. -/
def pieceText (b : Bindings) : Piece → String
  | .plain cs => String.ofList cs
  | .ref r =>
    match b.get? r.name with
    | some argument => argument.inlineText r.whole
    | none => String.ofList r.source

/-- The token with every bound reference in it replaced, all at once. -/
def substitute (t : Token) (b : Bindings) : Token :=
  if t.kind ≠ .word ∨ b.isEmpty ∨ '$' ∉ t.text.toList then t
  else
    let ps := pieces t.text.toList
    let interpolated := { t with text := String.join (ps.map (pieceText b)) }
    match ps with
    | [.ref r] =>
      match b.get? r.name with
      | some argument => argument.standIn r.whole t
      | none => interpolated
    | _ => interpolated

end Token

end PageScript

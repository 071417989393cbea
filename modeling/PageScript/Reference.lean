/-
References to parameters inside a text.

A parameter is referred to as `$name`, `$(name)` or `$I(name)`, the last asking for a whole number.
`pieces` cuts a text into references and the text between them. The bracketed forms hold what stands
in front of the next closing bracket, however far away that is; if that is no name, the dollar sign
is plain text, and so is one that no name follows.
-/

namespace PageScript

/-- Whether a character can be part of a parameter's name. -/
def isNameChar (c : Char) : Bool :=
  c.isAlphanum || c = '_'

/-- A parameter's name: at least one character, and only name characters. -/
def isName (cs : List Char) : Bool :=
  !cs.isEmpty && cs.all isNameChar

/-- A reference: the parameter it names, whether it asks for a whole number, and how it is
written. -/
structure Reference where
  name : String
  whole : Bool
  source : List Char
  deriving Repr, DecidableEq

namespace Reference

/-- Reads the name and the closing bracket of a bracketed reference; `opening` is what stands in
front of the name. -/
def bracketed? (opening : List Char) (whole : Bool) (inner : List Char) :
    Option (Reference × List Char) :=
  let name := inner.takeWhile (· != ')')
  match inner.dropWhile (· != ')') with
  | [] => none
  | close :: rest =>
    if isName name then
      some (⟨String.ofList name, whole, opening ++ name ++ [close]⟩, rest)
    else none

/-- Reads a reference whose dollar sign has been read, and gives what follows it. -/
def afterDollar? : List Char → Option (Reference × List Char)
  | 'I' :: '(' :: inner => bracketed? ['$', 'I', '('] true inner
  | '(' :: inner => bracketed? ['$', '('] false inner
  | cs =>
    let name := cs.takeWhile isNameChar
    if name.isEmpty then none
    else some (⟨String.ofList name, false, '$' :: name⟩, cs.dropWhile isNameChar)

/-- A bracketed reference and what follows it make up the text that was there. -/
theorem bracketed?_source_append {opening : List Char} {whole : Bool} {inner : List Char}
    {r : Reference} {rest : List Char} (h : bracketed? opening whole inner = some (r, rest)) :
    r.source ++ rest = opening ++ inner := by
  unfold bracketed? at h
  dsimp only at h
  split at h
  · simp at h
  · next close after hd =>
    split at h
    · simp only [Option.some.injEq, Prod.mk.injEq] at h
      obtain ⟨rfl, rfl⟩ := h
      have := List.takeWhile_append_dropWhile (p := (· != ')')) (l := inner)
      rw [hd] at this
      simp [this]
    · simp at h

/-- A reference and what follows it make up the text that was there. -/
theorem afterDollar?_source_append {cs : List Char} {r : Reference} {rest : List Char}
    (h : afterDollar? cs = some (r, rest)) : r.source ++ rest = '$' :: cs := by
  unfold afterDollar? at h
  split at h
  · simpa using bracketed?_source_append h
  · simpa using bracketed?_source_append h
  · dsimp only at h
    split at h
    · simp at h
    · simp only [Option.some.injEq, Prod.mk.injEq] at h
      obtain ⟨rfl, rfl⟩ := h
      simp [List.takeWhile_append_dropWhile]

/-- A reference takes more than its dollar sign. -/
theorem length_lt_of_afterDollar? {cs : List Char} {r : Reference} {rest : List Char}
    (h : afterDollar? cs = some (r, rest)) : rest.length < cs.length + 1 := by
  have hs := congrArg List.length (afterDollar?_source_append h)
  have : 0 < r.source.length := by
    unfold afterDollar? bracketed? at h
    dsimp only at h
    repeat' split at h
    all_goals simp_all
    all_goals (obtain ⟨rfl, rfl⟩ := h; simp)
  simp only [List.length_append, List.length_cons] at hs
  omega

end Reference

/-- A part of a text: plain characters, or a reference. -/
inductive Piece where
  | plain (chars : List Char)
  | ref (reference : Reference)
  deriving Repr, DecidableEq

namespace Piece

/-- The characters of a part, as they are written. -/
def chars : Piece → List Char
  | .plain cs => cs
  | .ref r => r.source

/-- Puts a plain character in front of the parts of a text. -/
def consPlain (c : Char) : List Piece → List Piece
  | .plain cs :: rest => .plain (c :: cs) :: rest
  | pieces => .plain [c] :: pieces

end Piece

/-- The references in a text and the plain text between them, in order. -/
def pieces : List Char → List Piece
  | [] => []
  | c :: cs =>
    if c = '$' then
      match _h : Reference.afterDollar? cs with
      | some (reference, rest) => .ref reference :: pieces rest
      | none => Piece.consPlain c (pieces cs)
    else Piece.consPlain c (pieces cs)
  termination_by cs => cs.length
  decreasing_by
  · exact Reference.length_lt_of_afterDollar? _h
  · simp
  · simp

end PageScript

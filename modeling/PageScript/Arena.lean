/-
The arena: the one place where captured tokens are kept.

It only ever grows at its end, so a span of it means the same tokens for ever. Alias bodies and loop
blocks are spans.
-/
import PageScript.Token

namespace PageScript

/-- A half-open range of places in the arena. -/
structure Span where
  start : Nat := 0
  stop : Nat := 0
  deriving Repr, DecidableEq, Inhabited

namespace Span

/-- How many places a span has. -/
def length (s : Span) : Nat :=
  s.stop - s.start

/-- Whether a span has no place. -/
def isEmpty (s : Span) : Bool :=
  s.length = 0

end Span

/-- The tokens captured so far. -/
structure Arena where
  tokens : Array Token := #[]
  deriving Inhabited

namespace Arena

/-- How many tokens there are. -/
def size (a : Arena) : Nat :=
  a.tokens.size

/-- The token at a place. -/
def get? (a : Arena) (i : Nat) : Option Token :=
  a.tokens[i]?

/-- Keeps one more token. -/
def push (a : Arena) (t : Token) : Arena :=
  ⟨a.tokens.push t⟩

/-- Keeps a list of tokens, and gives their span. -/
def alloc (a : Arena) (ts : List Token) : Span × Arena :=
  let grown : Arena := ⟨a.tokens ++ ts.toArray⟩
  (⟨a.size, grown.size⟩, grown)

/-- The tokens of a span, as far as they are there. -/
def slice (a : Arena) (s : Span) : List Token :=
  (a.tokens.extract s.start s.stop).toList

end Arena

end PageScript

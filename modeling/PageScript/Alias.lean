/-
Aliases: named blocks of tokens with parameters.
-/
import PageScript.Arena

namespace PageScript

/-- A named block with parameters. -/
structure Alias where
  name : String
  params : List String
  body : Span
  deriving Repr, DecidableEq, Inhabited

/-- The aliases defined so far, each name once. -/
structure AliasTable where
  aliases : List Alias := []
  deriving Repr, DecidableEq, Inhabited

namespace AliasTable

/-- The alias of a name. -/
def get? (t : AliasTable) (name : String) : Option Alias :=
  t.aliases.find? fun a => a.name = name

/-- Whether a name is an alias. -/
def contains (t : AliasTable) (name : String) : Bool :=
  (t.get? name).isSome

/-- Defines an alias, in place of an earlier one of the same name. -/
def define (t : AliasTable) (a : Alias) : AliasTable :=
  ⟨a :: t.aliases.filter fun b => b.name ≠ a.name⟩

/-- How many aliases there are. -/
def size (t : AliasTable) : Nat :=
  t.aliases.length

end AliasTable

end PageScript

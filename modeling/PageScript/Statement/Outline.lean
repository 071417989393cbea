/-
The statements of a source, one after the other, without running them.

An alias defined on the way is known to the statements after it. Reading stops at the first syntax
fault, or goes on with the next token where that is asked for.
-/
import PageScript.Statement.Parser

namespace PageScript

/-- What was read at one place of a source. -/
inductive OutlineEntry where
  /-- A statement and the line of its first token. -/
  | parsed (line : Nat) (statement : Statement)
  | faulty (failure : Failure)
  /-- The end of the source, and its line. -/
  | finished (line : Nat)

/-- What was read from a source, and what it left behind. -/
structure Outline where
  entries : List OutlineEntry
  arena : Arena
  aliases : AliasTable

namespace Outline

/-- Puts an entry in front of an outline. -/
def cons (entry : OutlineEntry) (o : Outline) : Outline :=
  { o with entries := entry :: o.entries }

/-- Reads at most `fuel` statements. -/
def read (resume : Bool) : (fuel : Nat) → Cursor → AliasTable → Outline
  | 0, c, aliases => ⟨[], c.arena, aliases⟩
  | fuel + 1, c, aliases =>
    let (first, c) := c.next
    if first.isFinish then ⟨[.finished first.line], c.arena, aliases⟩
    else
      match c.statement aliases first with
      | (.ok statement, c) =>
        let aliases :=
          match statement with
          | .defineAlias a => aliases.define a
          | _ => aliases
        (read resume fuel c aliases).cons (.parsed first.line statement)
      | (.error failure, c) =>
        if resume then (read resume fuel c aliases).cons (.faulty failure)
        else ⟨[.faulty failure], c.arena, aliases⟩

/-- Reads all statements of a source. Each takes a token at least, so there are no more of them than
tokens. -/
def ofCursor (c : Cursor) (aliases : AliasTable) (resume : Bool) : Outline :=
  read resume (c.size + 1) c aliases

end Outline

end PageScript

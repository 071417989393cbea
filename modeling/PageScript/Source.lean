/-
Where statements read their tokens from: a text that is scanned, or a span of the arena that is
replayed with arguments in place of parameters.

Both kinds look one token ahead and can capture a block, the tokens up to the closing brace that
matches an opening brace already read. A scanned block is copied into the arena; a replayed one is a
part of the span and takes the arguments along. Braces are matched on the tokens as captured, before
any substitution.
-/
import PageScript.Arena
import PageScript.Bindings
import PageScript.Failure
import PageScript.Token.Scanner

namespace PageScript

/-- A captured block: its tokens, and the arguments in force where it was read. -/
structure Block where
  span : Span
  bindings : Bindings := {}
  deriving Inhabited

/-- A replay of a span: the place reached and the arguments to put in. -/
structure Replay where
  span : Span
  cursor : Nat
  bindings : Bindings := {}
  deriving Inhabited

/-- Where tokens come from. -/
inductive Source where
  | text (scanner : Scanner)
  | replay (replay : Replay)

-- ======== replays

namespace Replay

/-- A replay of a block from its start. -/
def ofBlock (b : Block) : Replay :=
  { span := b.span, cursor := b.span.start, bindings := b.bindings }

/-- The end token of a replay stands on the line of the span's last token. -/
def finish (r : Replay) (arena : Arena) : Token :=
  let line? := if r.span.stop = 0 then none else (arena.get? (r.span.stop - 1)).map (·.line)
  Token.finish (line?.getD 1)

/-- The token that a replay delivers at the place it has reached. -/
def current (r : Replay) (arena : Arena) : Token :=
  match arena.get? r.cursor with
  | some t => if r.cursor < r.span.stop then t.substitute r.bindings else r.finish arena
  | none => r.finish arena

/-- The replay one place on. -/
def advance (r : Replay) : Replay :=
  if r.cursor < r.span.stop then { r with cursor := r.cursor + 1 } else r

/-- The place of the closing brace that ends a block `depth` deep, looking from place `i` for
`fuel` places. -/
def closingBrace? (arena : Arena) : (fuel depth i : Nat) → Option Nat
  | 0, _, _ => none
  | fuel + 1, depth, i =>
    match arena.get? i with
    | none => none
    | some t =>
      if t.isSymbol '\x7b' then closingBrace? arena fuel (depth + 1) (i + 1)
      else if t.isSymbol '\x7d' then
        if depth ≤ 1 then some i else closingBrace? arena fuel (depth - 1) (i + 1)
      else closingBrace? arena fuel depth (i + 1)

/-- Captures a block; without a matching brace the replay is at its end. -/
def capture (r : Replay) (arena : Arena) : Option Block × Replay :=
  match closingBrace? arena (r.span.stop - r.cursor) 1 r.cursor with
  | some i => (some ⟨⟨r.cursor, i⟩, r.bindings⟩, { r with cursor := i + 1 })
  | none => (none, { r with cursor := r.span.stop })

end Replay

-- ======== scanners

namespace Scanner

/-- Copies tokens into the arena up to the closing brace that ends a block `depth` deep. Lines are
counted from `base` where one is given. -/
def capture (s : Scanner) (arena : Arena) (base : Option Nat) (depth : Nat) :
    Bool × Scanner × Arena :=
  match h : s.next with
  | (t, after) =>
    if hf : t.isFinish then (false, after, arena)
    else
      have : after.size < s.size := by
        have := s.size_next_lt (by simpa [h] using hf)
        simpa [h] using this
      let kept :=
        match base with
        | some line => { t with line := t.line - line + 1 }
        | none => t
      if t.isSymbol '\x7b' then after.capture (arena.push kept) base (depth + 1)
      else if t.isSymbol '\x7d' then
        if depth ≤ 1 then (true, after, arena)
        else after.capture (arena.push kept) base (depth - 1)
      else after.capture (arena.push kept) base depth
  termination_by s.size

end Scanner

-- ======== sources

namespace Source

/-- A source over a text. -/
def ofText (lexicon : Lexicon) (text : String) : Source :=
  .text (Scanner.ofText lexicon text)

/-- A source that replays a block. -/
def ofBlock (b : Block) : Source :=
  .replay (Replay.ofBlock b)

/-- The next token, and the source after it. -/
def next (arena : Arena) : Source → Token × Source
  | .text s => let (t, s) := s.next; (t, .text s)
  | .replay r => (r.current arena, .replay r.advance)

/-- The next token, left to be read again. -/
def peek (arena : Arena) : Source → Token × Source
  | .text s => let (t, s) := s.peek; (t, .text s)
  | .replay r => (r.current arena, .replay r)

/-- Captures the block that `opening` opens. Where `rebase` is set, lines of a scanned block count
from that of `opening`. -/
def capture (arena : Arena) (opening : Token) (rebase : Bool) :
    Source → Except Failure Block × Source × Arena
  | .text s =>
    let (closed, s, grown) := s.capture arena (if rebase then some opening.line else none) 1
    if closed then (.ok ⟨⟨arena.size, grown.size⟩, {}⟩, .text s, grown)
    else (.error (.syntaxAt .unterminatedBlock opening), .text s, grown)
  | .replay r =>
    match r.capture arena with
    | (some block, r) => (.ok block, .replay r, arena)
    | (none, r) => (.error (.syntaxAt .unterminatedBlock opening), .replay r, arena)

/-- A bound on the tokens still to come. -/
def size : Source → Nat
  | .text s => s.size
  | .replay r => r.span.stop - r.cursor

/-- Reading a token other than the end token brings the end nearer, unless an argument put in is
itself an end token. -/
theorem size_next_lt (arena : Arena) (s : Source) (h : (s.next arena).1.isFinish = false) :
    (s.next arena).2.size < s.size := by
  cases s with
  | text s => exact s.size_next_lt h
  | replay r =>
    have inside : r.cursor < r.span.stop := by
      refine Decidable.byContradiction fun outside => ?_
      simp only [next, Replay.current] at h
      split at h
      · simp [outside, Replay.finish, Token.isFinish, Token.finish] at h
      · simp [Replay.finish, Token.isFinish, Token.finish] at h
    simp only [next, size, Replay.advance, if_pos inside]
    omega

/-- Reading never takes the end away. -/
theorem size_next_le (arena : Arena) (s : Source) : (s.next arena).2.size ≤ s.size := by
  cases s with
  | text s => exact s.size_next_le
  | replay r =>
    simp only [next, size, Replay.advance]
    split
    · dsimp only; omega
    · exact Nat.le_refl _

end Source

end PageScript

/-
A place in a source together with the arena, and the loops that read lists from there.

Every loop ends because each token other than the end token brings the end of the source nearer.
-/
import PageScript.Statement

namespace PageScript

/-- A source and the arena that its blocks are kept in. -/
structure Cursor where
  source : Source
  arena : Arena

namespace Cursor

/-- The next token, and the place after it. -/
def next (c : Cursor) : Token × Cursor :=
  let (t, source) := c.source.next c.arena
  (t, { c with source })

/-- The next token, left to be read again. -/
def peek (c : Cursor) : Token × Cursor :=
  let (t, source) := c.source.peek c.arena
  (t, { c with source })

/-- Captures the block that `opening` opens. -/
def capture (c : Cursor) (opening : Token) (rebase : Bool) : Except Failure Block × Cursor :=
  let (result, source, arena) := c.source.capture c.arena opening rebase
  (result, { source, arena })

/-- A bound on the tokens still to come. -/
def size (c : Cursor) : Nat :=
  c.source.size

/-- Reading a token other than the end token brings the end nearer. -/
theorem size_next_lt (c : Cursor) (h : c.next.1.isFinish = false) : c.next.2.size < c.size :=
  c.source.size_next_lt c.arena h

/-- Reading never takes the end away. -/
theorem size_next_le (c : Cursor) : c.next.2.size ≤ c.size :=
  c.source.size_next_le c.arena

-- ======== lists

/-- Reads items up to the closing symbol. Commas between them are optional. -/
def items {α : Type} (close : Char) (item : Token → Except SyntaxFault α) (c : Cursor) :
    Except Failure (List α) × Cursor :=
  match h : c.next with
  | (t, after) =>
    if hf : t.isFinish then (.error (.syntaxAt .unexpectedEnd t), after)
    else
      have : after.size < c.size := by
        have := c.size_next_lt (by simpa [h] using hf)
        simpa [h] using this
      if t.isSymbol close then (.ok [], after)
      else if t.isSymbol ',' then after.items close item
      else
        match item t with
        | .error fault => (.error (.syntaxAt fault t), after)
        | .ok a =>
          let (rest, last) := after.items close item
          (rest.map (a :: ·), last)
  termination_by c.size

/-- Reads a number, which has to be there. -/
def number (c : Cursor) : Except Failure Float × Cursor :=
  let (t, after) := c.next
  if t.isFinish then (.error (.syntaxAt .unexpectedEnd t), after)
  else
    match t.value? with
    | some value => (.ok value, after)
    | none => (.error (.syntaxAt (.wantedNumber t.kind) t), after)

/-- Reads a symbol, which has to be there. -/
def symbol (expected : Char) (c : Cursor) : Except Failure Token × Cursor :=
  let (t, after) := c.next
  if t.isFinish then (.error (.syntaxAt .unexpectedEnd t), after)
  else if t.isSymbol expected then (.ok t, after)
  else (.error (.syntaxAt (.wantedSymbol expected) t), after)

/-- Reading a number never takes the end away. -/
theorem size_number_le (c : Cursor) : c.number.2.size ≤ c.size := by
  have h : c.number.2 = c.next.2 := by
    simp only [number]
    split
    · rfl
    · split <;> rfl
  exact h ▸ c.size_next_le

/-- Reading a symbol never takes the end away. -/
theorem size_symbol_le (expected : Char) (c : Cursor) : (c.symbol expected).2.size ≤ c.size := by
  have h : (c.symbol expected).2 = c.next.2 := by
    simp only [symbol]
    split
    · rfl
    · split <;> rfl
  exact h ▸ c.size_next_le

/-- An offset written in one quoted text: two numbers with a comma between them. -/
def offset? (text : String) : Option MouseStep := do
  let (dx, dy) ← Text.splitAtFirst? ',' text.toList
  return .move (← Number.ofChars? (Text.trimChars dx)) (← Number.ofChars? (Text.trimChars dy))

/-- The step of a bare word that takes no operand. -/
def stepOfWord? (word : String) : Option MouseStep :=
  match word with
  | "body" => some .body
  | "origin" => some .origin
  | "center" => some .center
  | "click" => some .click
  | "down" => some .down
  | "up" => some .up
  | _ => none

/-- Reads the step of a gesture that starts with token `t`, and what the step takes besides. -/
def mouseStep (t : Token) (c : Cursor) : Except Failure MouseStep × Cursor :=
  match t.kind with
  | .number =>
    match c.symbol ',' with
    | (.error f, c) => (.error f, c)
    | (.ok _, c) =>
      let (dy, c) := c.number
      (dy.map (MouseStep.move (t.number.getD 0)), c)
  | .word =>
    if t.quote.isSome then
      match offset? t.text with
      | some step => (.ok step, c)
      | none => (.error (.syntaxAt .wantedOffset t), c)
    else if t.text = "sleep" then
      let (seconds, c) := c.number
      (seconds.map .sleep, c)
    else
      match stepOfWord? t.text with
      | some step => (.ok step, c)
      | none => (.error (.syntaxAt .unknownMouseStep t), c)
  | _ => (.error (.syntaxAt .symbolInMouse t), c)

/-- Reading a step never takes the end away. -/
theorem size_mouseStep_le (t : Token) (c : Cursor) : (c.mouseStep t).2.size ≤ c.size := by
  have hs := c.size_symbol_le ','
  unfold mouseStep
  split
  · split
    · next h => simpa [h] using hs
    · next h =>
      have := size_number_le (c.symbol ',').2
      simp only [h] at this hs ⊢
      omega
  · split
    · split <;> simp
    · split
      · exact c.size_number_le
      · split <;> simp
  · simp

/-- Reads the steps of a gesture up to the closing brace. -/
def gesture (c : Cursor) : Except Failure (List MouseStep) × Cursor :=
  match h : c.next with
  | (t, after) =>
    if hf : t.isFinish then (.error (.syntaxAt .unexpectedEnd t), after)
    else if t.isSymbol '\x7d' then (.ok [], after)
    else
      match hs : after.mouseStep t with
      | (.error f, last) => (.error f, last)
      | (.ok step, last) =>
        have : last.size < c.size := by
          have := c.size_next_lt (by simpa [h] using hf)
          have := after.size_mouseStep_le t
          simp only [h, hs] at *
          omega
        let (rest, last) := last.gesture
        (rest.map (step :: ·), last)
  termination_by c.size

end Cursor

end PageScript

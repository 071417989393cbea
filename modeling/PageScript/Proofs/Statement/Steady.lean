/-
Reading from alike places.

Tokens are read from a source and, where a captured block is replayed, from the arena. Two cursors are
alike if they stand at the same place of the same source, over arenas that agree on what may be
replayed there. Uniform parsers are steady: from alike cursors they give the same result and stay
alike, and they leave the arena as it was. The capture of a block is not: a block is kept elsewhere in
another arena, though where it ends does not depend on that.
-/
import PageScript.Proofs.Statement.Uniform

namespace PageScript

-- ======== arena

namespace Arena

/-- An arena has grown at its end. -/
def Extends (a a' : Arena) : Prop :=
  a.tokens.toList <+: a'.tokens.toList

variable {a b : Arena}

theorem Extends.refl (a : Arena) : Extends a a :=
  List.prefix_refl _

theorem Extends.trans {a' : Arena} (h : Extends a b) (h' : Extends b a') : Extends a a' :=
  List.IsPrefix.trans h h'

theorem Extends.push (a : Arena) (t : Token) : Extends a (a.push t) := by
  rw [Extends, Arena.push, Array.toList_push]
  exact List.prefix_append ..

theorem Extends.alloc (a : Arena) (ts : List Token) : a.Extends (a.alloc ts).2 := by
  rw [Extends, Arena.alloc, Array.toList_append]
  exact List.prefix_append ..

theorem Extends.size_le (h : a.Extends b) : a.size ≤ b.size :=
  List.IsPrefix.length_le h

/-- What was captured before stays where it is. -/
theorem Extends.get?_eq (h : Extends a b) {i : Nat} (hi : i < a.size) : b.get? i = a.get? i := by
  obtain ⟨more, hmore⟩ := h
  have hi' : i < a.tokens.toList.length := hi
  rw [get?, get?, ← Array.getElem?_toList, ← Array.getElem?_toList, ← hmore,
    List.getElem?_append_left hi']

end Arena

-- ======== cursors

/-- Where a replay ends in the arena. -/
def Source.stop? : Source → Option Nat
  | .text _ => none
  | .replay r => some r.span.stop

namespace Cursor

/-- Two cursors stand at the same place, over arenas that agree on what may be replayed there. -/
structure Alike (c d : Cursor) : Prop where
  source : d.source = c.source
  agree : ∀ {stop i : Nat}, c.source.stop? = some stop → i < stop → d.arena.get? i = c.arena.get? i

theorem Alike.symm {c d : Cursor} (h : Alike c d) : Alike d c :=
  ⟨h.source.symm, fun hstop hi => (h.agree (h.source ▸ hstop) hi).symm⟩

/-- How far the end is can be seen from the source. -/
theorem Alike.size_eq {c d : Cursor} (h : Alike c d) : d.size = c.size :=
  congrArg Source.size h.source

/-- Whatever the arenas have in common, cursors into it are alike. -/
theorem Alike.of_extends {c d : Cursor} {a : Arena} (hsource : d.source = c.source)
    (hc : a.Extends c.arena) (hd : a.Extends d.arena)
    (hstop : ∀ stop, c.source.stop? = some stop → stop ≤ a.size) : Alike c d where
  source := hsource
  agree hs hi := by
    have hi := Nat.lt_of_lt_of_le hi (hstop _ hs)
    rw [hc.get?_eq hi, hd.get?_eq hi]

end Cursor

/-- How deep in a block a token leads, from a place that is `depth` deep; nowhere if it ends the block. -/
def blockDepth? (depth : Nat) (t : Token) : Option Nat :=
  if t.isSymbol '\x7b' then some (depth + 1)
  else if t.isSymbol '\x7d' then if depth ≤ 1 then none else some (depth - 1)
  else some depth

namespace Replay

variable {r : Replay} {a b : Arena}

theorem finish_eq (h : ∀ i < r.span.stop, b.get? i = a.get? i) : r.finish b = r.finish a := by
  unfold finish
  split
  · rfl
  · next hstop => rw [h (r.span.stop - 1) (by omega)]

/-- A replay delivers what lies in its span. -/
theorem current_eq (h : ∀ i < r.span.stop, b.get? i = a.get? i) : r.current b = r.current a := by
  unfold current
  rw [finish_eq h]
  by_cases hin : r.cursor < r.span.stop
  · rw [h r.cursor hin]
  · simp only [if_neg hin]
    cases a.get? r.cursor <;> cases b.get? r.cursor <;> rfl

theorem closingBrace?_succ (a : Arena) (fuel depth i : Nat) :
    closingBrace? a (fuel + 1) depth i =
      (a.get? i).bind fun t =>
        match blockDepth? depth t with
        | some depth => closingBrace? a fuel depth (i + 1)
        | none => some i := by
  rw [closingBrace?]
  cases a.get? i with
  | none => rfl
  | some t =>
    simp only [Option.bind_some, blockDepth?]
    split
    · rfl
    · split
      · split <;> rfl
      · rfl

theorem closingBrace?_eq {fuel depth i : Nat} (h : ∀ j < i + fuel, b.get? j = a.get? j) :
    closingBrace? b fuel depth i = closingBrace? a fuel depth i := by
  induction fuel generalizing depth i with
  | zero => rfl
  | succ fuel ih =>
    have hrest : ∀ j < i + 1 + fuel, b.get? j = a.get? j := fun j hj => h j (by omega)
    rw [closingBrace?_succ, closingBrace?_succ, h i (by omega)]
    simp only [ih hrest]

theorem closingBrace?_bounds {fuel depth i j : Nat} (h : closingBrace? a fuel depth i = some j) :
    i ≤ j ∧ j < i + fuel := by
  induction fuel generalizing depth i with
  | zero => cases h
  | succ fuel ih =>
    rw [closingBrace?_succ] at h
    obtain ⟨t, -, hend⟩ := Option.bind_eq_some_iff.1 h
    split at hend
    · have := ih hend
      omega
    · cases hend
      omega

theorem capture_eq (h : ∀ i < r.span.stop, b.get? i = a.get? i) : r.capture b = r.capture a := by
  rw [capture, capture]
  by_cases hin : r.cursor ≤ r.span.stop
  · rw [closingBrace?_eq fun j hj => h j (by omega)]
  · have hnone : r.span.stop - r.cursor = 0 := by omega
    rw [hnone]
    rfl

theorem span_advance (r : Replay) : r.advance.span = r.span := by
  unfold advance
  split <;> rfl

theorem span_capture (r : Replay) (a : Arena) : (r.capture a).2.span = r.span := by
  unfold capture
  split <;> rfl

end Replay

-- ======== blocks

namespace Scanner

theorem size_peek_le (s : Scanner) : s.peek.2.size ≤ s.size := by
  cases hahead : s.ahead with
  | some t => simp [peek, next, size, hahead]
  | none =>
    have hle := s.lexicon.scan_rest_length_le s.rest s.line
    have hlt := s.lexicon.scan_rest_length_lt s.rest s.line
    cases hfinish : (s.lexicon.scan s.rest s.line).token.isFinish with
    | true => simpa [peek, next, size, hahead, hfinish] using hle
    | false =>
      have := hlt hfinish
      simp [peek, next, size, hahead, hfinish]
      omega

/-- The token that is kept of one in a block. -/
def kept (t : Token) : Option Nat → Token
  | some line => { t with line := t.line - line + 1 }
  | none => t

/-- One token of a block. -/
theorem capture_eq (s : Scanner) (a : Arena) (base : Option Nat) (depth : Nat) :
    s.capture a base depth =
      if s.next.1.isFinish then (false, s.next.2, a)
      else
        match blockDepth? depth s.next.1 with
        | some depth => s.next.2.capture (a.push (kept s.next.1 base)) base depth
        | none => (true, s.next.2, a) := by
  rw [Scanner.capture, blockDepth?]
  dsimp only
  split
  · rfl
  · split
    · cases base <;> rfl
    · split
      · split
        · rfl
        · cases base <;> rfl
      · cases base <;> rfl

/-- Where a block ends does not depend on what has been captured before, and the arena grows. -/
theorem capture_spec (s : Scanner) (a b : Arena) (base : Option Nat) (depth : Nat) :
    (s.capture b base depth).1 = (s.capture a base depth).1 ∧
      (s.capture b base depth).2.1 = (s.capture a base depth).2.1 ∧
      a.Extends (s.capture a base depth).2.2 := by
  induction hsize : s.size using Nat.strongRecOn generalizing s a b depth with
  | ind n ih =>
    subst hsize
    rw [capture_eq s a, capture_eq s b]
    split
    · exact ⟨rfl, rfl, .refl a⟩
    · next hmore =>
      have hlt : s.next.2.size < s.size := s.size_next_lt (by simpa using hmore)
      cases blockDepth? depth s.next.1 with
      | none => exact ⟨rfl, rfl, .refl a⟩
      | some depth =>
        obtain ⟨h₁, h₂, h₃⟩ :=
          ih _ hlt s.next.2 (a.push (kept s.next.1 base)) (b.push (kept s.next.1 base)) depth rfl
        exact ⟨h₁, h₂, (Arena.Extends.push ..).trans h₃⟩

/-- What reading a token keeps true of a scanner, the capture of a block does. -/
theorem capture_keeps {P : Scanner → Prop} (hnext : ∀ {s}, P s → P s.next.2) {s : Scanner} (h : P s)
    (a : Arena) (base : Option Nat) (depth : Nat) : P (s.capture a base depth).2.1 := by
  induction hsize : s.size using Nat.strongRecOn generalizing s a depth with
  | ind n ih =>
    subst hsize
    rw [capture_eq]
    split
    · exact hnext h
    · next hmore =>
      cases blockDepth? depth s.next.1 with
      | none => exact hnext h
      | some depth => exact ih _ (s.size_next_lt (by simpa using hmore)) (hnext h) _ depth rfl

end Scanner

namespace Cursor

theorem capture_text (s : Scanner) (a : Arena) (opening : Token) (rebase : Bool) :
    capture ⟨.text s, a⟩ opening rebase =
      let block := s.capture a (if rebase then some opening.line else none) 1
      (if block.1 then .ok ⟨⟨a.size, block.2.2.size⟩, {}⟩
        else .error (.syntaxAt .unterminatedBlock opening), ⟨.text block.2.1, block.2.2⟩) := by
  rw [capture, Source.capture]
  rcases s.capture a (if rebase then some opening.line else none) 1 with ⟨_ | _, _, _⟩ <;> rfl

theorem capture_replay (r : Replay) (a : Arena) (opening : Token) (rebase : Bool) :
    capture ⟨.replay r, a⟩ opening rebase =
      (match (r.capture a).1 with
        | some block => .ok block
        | none => .error (.syntaxAt .unterminatedBlock opening), ⟨.replay (r.capture a).2, a⟩) := by
  rw [capture, Source.capture]
  rcases r.capture a with ⟨_ | _, _⟩ <;> rfl

/-- The capture of a block never takes the end away. -/
theorem size_capture_le (c : Cursor) (opening : Token) (rebase : Bool) :
    (c.capture opening rebase).2.size ≤ c.size := by
  rcases c with ⟨s | r, a⟩
  · rw [capture_text]
    exact Scanner.capture_keeps (P := (·.size ≤ s.size))
      (fun hs => Nat.le_trans (Scanner.size_next_le _) hs) (Nat.le_refl _) ..
  · rw [capture_replay, Replay.capture]
    cases hclose : Replay.closingBrace? a (r.span.stop - r.cursor) 1 r.cursor with
    | none =>
      show r.span.stop - r.span.stop ≤ r.span.stop - r.cursor
      omega
    | some i =>
      have := Replay.closingBrace?_bounds hclose
      show r.span.stop - (i + 1) ≤ r.span.stop - r.cursor
      omega

/-- Looking at a token never takes the end away. -/
theorem size_peek_le (c : Cursor) : c.peek.2.size ≤ c.size := by
  rcases c with ⟨s | r, a⟩
  · exact s.size_peek_le
  · exact Nat.le_refl _

end Cursor

-- ======== steady parsers

namespace Parser

variable {α : Type}

/-- From a cursor, a parser leaves the arena alone, and reads the same as from alike cursors. -/
structure SteadyAt (p : Parser α) (c : Cursor) : Prop where
  arena : (p c).2.arena = c.arena
  stop : (p c).2.source.stop? = c.source.stop?
  result : ∀ {d}, c.Alike d → (p d).1 = (p c).1
  source : ∀ {d}, c.Alike d → (p d).2.source = (p c).2.source

/-- A parser leaves the arena alone, and reads the same from alike cursors. -/
def Steady (p : Parser α) : Prop :=
  ∀ ⦃c⦄, SteadyAt p c

theorem Steady.at {p : Parser α} (hp : Steady p) (c : Cursor) : SteadyAt p c :=
  @hp c

theorem Steady.alike {p : Parser α} (hp : Steady p) {c d : Cursor} (h : c.Alike d) :
    (p c).2.Alike (p d).2 where
  source := (hp.at c).source h
  agree hstop hi := by
    rw [(hp.at c).arena, (hp.at d).arena]
    exact h.agree ((hp.at c).stop.symm.trans hstop) hi

theorem Steady.next : Steady next := by
  intro c
  rcases c with ⟨s | r, a⟩
  · refine ⟨rfl, rfl, fun {d} h => ?_, fun {d} h => ?_⟩ <;>
      (rcases d with ⟨source, b⟩; cases h.source; rfl)
  · refine ⟨rfl, ?_, fun {d} h => ?_, fun {d} h => ?_⟩
    · exact congrArg (fun span => some span.stop) r.span_advance
    · rcases d with ⟨source, b⟩
      cases h.source
      exact congrArg Except.ok (Replay.current_eq fun i hi => h.agree rfl hi)
    · rcases d with ⟨source, b⟩
      cases h.source
      rfl

theorem Steady.peek : Steady peek := by
  intro c
  rcases c with ⟨s | r, a⟩
  · refine ⟨rfl, rfl, fun {d} h => ?_, fun {d} h => ?_⟩ <;>
      (rcases d with ⟨source, b⟩; cases h.source; rfl)
  · refine ⟨rfl, rfl, fun {d} h => ?_, fun {d} h => ?_⟩
    · rcases d with ⟨source, b⟩
      cases h.source
      exact congrArg Except.ok (Replay.current_eq fun i hi => h.agree rfl hi)
    · rcases d with ⟨source, b⟩
      cases h.source
      rfl

/-- Alike cursors deliver the same tokens. -/
theorem alike_bisimulation : Bisimulation Cursor.Alike Eq where
  next {c d} h := by
    have htoken : d.next.1 = c.next.1 := Except.ok.inj ((Steady.next.at c).result h)
    rw [htoken]
    exact ⟨.same _, Steady.next.alike h⟩
  peek {c d} h := by
    have htoken : d.peek.1 = c.peek.1 := Except.ok.inj ((Steady.peek.at c).result h)
    rw [htoken]
    exact ⟨.same _, Steady.peek.alike h⟩
  fault _ _ := rfl

theorem Uniform.steady {p : Parser α} (hp : Uniform p) : Steady p := by
  intro c
  obtain ⟨harena, hstop⟩ : (p c).2.arena = c.arena ∧ (p c).2.source.stop? = c.source.stop? := by
    refine hp.keeps (P := fun c' => c'.arena = c.arena ∧ c'.source.stop? = c.source.stop?)
      (fun {c'} h => ?_) (fun {c'} h => ?_) ⟨rfl, rfl⟩
    · exact ⟨(Steady.next.at c').arena.trans h.1, (Steady.next.at c').stop.trans h.2⟩
    · exact ⟨(Steady.peek.at c').arena.trans h.1, (Steady.peek.at c').stop.trans h.2⟩
  refine ⟨harena, hstop, fun {d} h => ?_, fun {d} h => ?_⟩
  · have hagree := hp.agree alike_bisimulation h
    generalize p c = x at hagree
    generalize p d = y at hagree
    cases hagree with
    | ok hab _ => rw [hab]
    | error hfg _ => rw [hfg]
  · exact (hp.agree alike_bisimulation h).related.source

end Parser

end PageScript

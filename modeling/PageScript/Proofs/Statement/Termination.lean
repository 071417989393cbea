/-
Scanning and reading always end.

Each token but the end token takes some of the text, so there are no more tokens than characters. Reading a
statement takes its first token at least, so there are no more statements than tokens, faulty ones
included. The measure for all of this is how many tokens are still to come: a token that was looked at ahead
is one of them, the end token is not, and nothing that is done with a source makes them more.

That a loop ends is said by unrolling it: after so many rounds it has come to its result, and what would be
done in a further round makes no difference. A loop that went on at the end token would have no such number.
-/
import Mathlib.Logic.Function.Iterate
import PageScript.Proofs.Statement.Lookahead
import PageScript.Proofs.Statement.Outline
import PageScript.Proofs.Token.Layout

namespace PageScript

-- ======== tokens of a text

/-- A token other than the end token takes at least one character. -/
theorem Lexicon.scan_takes (lex : Lexicon) (cs : List Char) (line : Nat) :
    (lex.scan cs line).token.isFinish = true ∨
      ∃ taken, taken ≠ [] ∧ cs = taken ++ (lex.scan cs line).rest := by
  cases hfinish : (lex.scan cs line).token.isFinish with
  | true => exact .inl rfl
  | false =>
    obtain ⟨gap, htext, -, -, hraw⟩ := lex.scan_segment cs line
    refine .inr ⟨gapText gap ++ (lex.scan cs line).token.raw.toList, fun hnil => ?_, ?_⟩
    · have hempty := hraw.1 (String.toList_eq_nil_iff.1 (List.append_eq_nil_iff.1 hnil).2)
      cases hfinish.symm.trans hempty
    · rw [List.append_assoc]
      exact htext

theorem Scanner.length_drain_le (s : Scanner) : s.drain.length ≤ s.size + 1 := by
  induction hsize : s.size using Nat.strongRecOn generalizing s with
  | ind n ih =>
    subst hsize
    rw [drain_eq]
    split
    · simp
    · next hmore =>
      have hlt := s.size_next_lt (by simpa using hmore)
      have hle := ih _ hlt s.next.2 rfl
      rw [List.length_cons]
      omega

-- ======== tokens to come

namespace Scanner

/-- The tokens that are still to come: the one that was looked at ahead, and those not scanned yet. -/
def remaining (s : Scanner) : List Token :=
  s.ahead.toList.filter (!·.isFinish) ++ pending { s with ahead := none }

theorem remaining_of_ahead_none {s : Scanner} (h : s.ahead = none) : s.remaining = s.pending := by
  rcases s with ⟨lexicon, rest, line, ahead⟩
  cases h
  rfl

/-- Reading takes the first of them; the end token takes none. -/
theorem remaining_eq (s : Scanner) :
    s.remaining = [s.next.1].filter (!·.isFinish) ++ s.next.2.remaining := by
  cases hahead : s.ahead with
  | some t =>
    rw [remaining, hahead, next, hahead]
    rfl
  | none =>
    have hsound : s.Sound := fun t ht => by cases hahead.symm.trans ht
    rw [remaining_of_ahead_none hahead, remaining_of_ahead_none s.ahead_next]
    cases hfinish : s.next.1.isFinish with
    | true => simp [pending_of_finish hfinish, pending_next_of_finish hsound hfinish, hfinish]
    | false => simp [pending_of_more hfinish, hfinish]

theorem remaining_peek (s : Scanner) : s.peek.2.remaining = s.remaining := by
  have hrest : pending { s.next.2 with ahead := none } = s.next.2.pending := by
    rw [← remaining_of_ahead_none s.ahead_next]
    simp [remaining, s.ahead_next]
  rw [s.remaining_eq, remaining_of_ahead_none s.ahead_next, ← hrest]
  rfl

end Scanner

namespace Cursor

/-- The tokens that are still to come. -/
def remaining (c : Cursor) : List Token :=
  match c.source with
  | .text s => s.remaining
  | .replay r => r.pending c.arena

/-- How many tokens are still to come. -/
def left (c : Cursor) : Nat :=
  c.remaining.length

theorem left_next_le (c : Cursor) : c.next.2.left ≤ c.left := by
  rcases c with ⟨s | r, a⟩
  · show s.next.2.remaining.length ≤ s.remaining.length
    rw [s.remaining_eq, List.length_append]
    omega
  · show (r.advance.pending a).length ≤ (r.pending a).length
    rw [Replay.pending_advance, List.length_tail]
    omega

theorem left_next_lt {c : Cursor} (h : c.next.1.isFinish = false) : c.next.2.left < c.left := by
  rcases c with ⟨s | r, a⟩
  · have hmore : s.next.1.isFinish = false := h
    show s.next.2.remaining.length < s.remaining.length
    rw [s.remaining_eq]
    simp [hmore]
  · show (r.advance.pending a).length < (r.pending a).length
    cases hpending : r.pending a with
    | nil =>
      have hfinish : (r.current a).isFinish = true := by
        rw [Replay.current_of_end hpending]
        rfl
      cases hfinish.symm.trans h
    | cons t rest =>
      rw [(Replay.current_of_cons hpending).2.2]
      simp

theorem left_peek_le (c : Cursor) : c.peek.2.left ≤ c.left := by
  rcases c with ⟨s | r, a⟩
  · exact Nat.le_of_eq (congrArg List.length s.remaining_peek)
  · exact Nat.le_refl _

theorem left_capture_le (c : Cursor) (opening : Token) (rebase : Bool) :
    (c.capture opening rebase).2.left ≤ c.left := by
  rcases c with ⟨s | r, a⟩
  · rw [capture_text]
    exact Scanner.capture_keeps (P := (·.remaining.length ≤ s.remaining.length))
      (fun hs => Nat.le_trans (left_next_le ⟨.text _, a⟩) hs) (Nat.le_refl _) ..
  · rw [capture_replay]
    show ((r.capture a).2.pending a).length ≤ (r.pending a).length
    cases hsplit : splitBlock? 1 (r.pending a) with
    | none =>
      obtain ⟨hcapture, hrest⟩ := Replay.capture_of_none hsplit
      rw [hcapture, hrest]
      exact Nat.zero_le _
    | some parts =>
      obtain ⟨brace, hpending, -⟩ := splitBlock?_eq_some (Prod.eta parts ▸ hsplit)
      obtain ⟨i, hcapture, -, -, hrest⟩ := Replay.capture_of_some (Prod.eta parts ▸ hsplit)
      have hlength := congrArg List.length hrest
      rw [hcapture, hpending, List.length_append, List.length_cons]
      show (a.slice ⟨i + 1, r.span.stop⟩).length ≤ _
      omega

end Cursor

-- ======== statements

namespace Parser

/-- Whatever aliases are known, a statement takes its first token at least. -/
theorem left_statement_lt {aliases : AliasTable} {c c' : Cursor} {result : Except Failure Statement}
    (hmore : c.next.1.isFinish = false) (h : statement aliases c.next.1 c.next.2 = (result, c')) :
    c'.left < c.left := by
  have hle : c'.left ≤ c.next.2.left :=
    (statement_keeps (P := (·.left ≤ c.next.2.left)) (fun hc => Nat.le_trans (Cursor.left_next_le _) hc)
      (fun hc => Nat.le_trans (Cursor.left_peek_le _) hc)
      (fun _ _ hc => Nat.le_trans (Cursor.left_capture_le ..) hc) (Nat.le_refl _) h).1
  exact Nat.lt_of_le_of_lt hle (Cursor.left_next_lt hmore)

end Parser

/-- Statement after statement has been read between two cursors, with what came of each. The aliases that
are known may be others for each of them. -/
inductive Rounds : Cursor → List (Except Failure Statement) → Cursor → Prop
  | nil (c : Cursor) : Rounds c [] c
  | cons {c c' d : Cursor} {aliases : AliasTable} {result : Except Failure Statement}
      {results : List (Except Failure Statement)} : c.next.1.isFinish = false →
      c.next.2.statement aliases c.next.1 = (result, c') → Rounds c' results d →
      Rounds c (result :: results) d

theorem Rounds.length_le {c d : Cursor} {results : List (Except Failure Statement)}
    (h : Rounds c results d) : results.length + d.left ≤ c.left := by
  induction h with
  | nil => simp
  | cons hmore hread _ ih =>
    have hlt := Parser.left_statement_lt hmore hread
    rw [List.length_cons]
    omega

/-- With more rounds than there are tokens to come, an outline is read up to the end, and then it does not
matter how many more there are. The induction is on the tokens to come. -/
theorem Outline.read_ends (c : Cursor) (aliases : AliasTable) :
    ∃ body line arena known, body.length ≤ c.left ∧ (∀ line, .finished line ∉ body) ∧
      ∀ fuel, c.left < fuel → read true fuel c aliases = ⟨body ++ [.finished line], arena, known⟩ := by
  induction hleft : c.left using Nat.strongRecOn generalizing c aliases with
  | ind n ih =>
    subst hleft
    cases hfinish : c.next.1.isFinish with
    | true =>
      refine ⟨[], c.next.1.line, c.next.2.arena, aliases, Nat.zero_le _, by simp, fun fuel hfuel => ?_⟩
      obtain ⟨fuel, rfl⟩ := Nat.exists_eq_succ_of_ne_zero (Nat.ne_of_gt (Nat.zero_lt_of_lt hfuel))
      rw [read_succ, if_pos hfinish]
      rfl
    | false =>
      rcases hst : Parser.statement aliases c.next.1 c.next.2 with ⟨result, c'⟩
      have hlt := Parser.left_statement_lt hfinish hst
      obtain ⟨entry, aliases', hentry, hread⟩ : ∃ entry aliases', (∀ line, entry ≠ .finished line) ∧
          ∀ fuel, read true (fuel + 1) c aliases = (read true fuel c' aliases').cons entry := by
        cases result with
        | ok st =>
          refine ⟨.parsed c.next.1.line st, aliases.after st, by simp, fun fuel => ?_⟩
          rw [read_succ, if_neg (by simp [hfinish]), hst]
        | error f =>
          refine ⟨.faulty f, aliases, by simp, fun fuel => ?_⟩
          rw [read_succ, if_neg (by simp [hfinish]), hst]
          rfl
      obtain ⟨body, line, arena, known, hlength, hbody, hends⟩ := ih _ hlt c' aliases' rfl
      refine ⟨entry :: body, line, arena, known, ?_, fun line hmem => ?_, fun fuel hfuel => ?_⟩
      · rw [List.length_cons]
        omega
      · rcases List.mem_cons.1 hmem with heq | hmem
        · exact hentry line heq.symm
        · exact hbody line hmem
      · obtain ⟨fuel, rfl⟩ := Nat.exists_eq_succ_of_ne_zero (Nat.ne_of_gt (Nat.zero_lt_of_lt hfuel))
        rw [hread, hends fuel (by omega)]
        rfl

-- ======== loops

/-- A loop comes to a result within so many rounds: what would be done behind them makes no difference. -/
def EndsWithin {σ β : Type} (round : (σ → β) → σ → β) (k : Nat) (s : σ) (result : β) : Prop :=
  ∀ again : σ → β, round^[k] again s = result

/-- A loop in which something gets less with each round ends within more rounds than there is of it. -/
theorem EndsWithin.of_measure {σ β : Type} {round : (σ → β) → σ → β} (loop : σ → β) (measure : σ → Nat)
    (hloop : ∀ s, loop s = round loop s)
    (hround : ∀ {s f g}, (∀ s', measure s' < measure s → f s' = g s') → round f s = round g s) {s : σ}
    {k : Nat} (h : measure s < k) : EndsWithin round k s (loop s) := by
  intro again
  induction k generalizing s with
  | zero => omega
  | succ k ih =>
    rw [Function.iterate_succ_apply', hloop]
    exact hround fun s' hs' => ih (by omega)

namespace Cursor

/-- A round of the loop that reads items up to the closing symbol. -/
def itemsRound {α : Type} (close : Char) (item : Token → Except SyntaxFault α)
    (again : Cursor → Except Failure (List α) × Cursor) (c : Cursor) : Except Failure (List α) × Cursor :=
  if c.next.1.isFinish then (.error (.syntaxAt .unexpectedEnd c.next.1), c.next.2)
  else if c.next.1.isSymbol close then (.ok [], c.next.2)
  else if c.next.1.isSymbol ',' then again c.next.2
  else
    match item c.next.1 with
    | .error fault => (.error (.syntaxAt fault c.next.1), c.next.2)
    | .ok a => ((again c.next.2).1.map (a :: ·), (again c.next.2).2)

theorem items_ends {α : Type} (close : Char) (item : Token → Except SyntaxFault α) (c : Cursor) :
    EndsWithin (itemsRound close item) (c.left + 1) c (c.items close item) := by
  refine .of_measure (items close item) left (fun c => ?_) (fun {c f g} hfg => ?_) (Nat.lt_succ_self _)
  · rw [items]
    rfl
  · unfold itemsRound
    split
    · rfl
    · next hmore => rw [hfg _ (left_next_lt (by simpa using hmore))]

/-- A round of the loop that reads the steps of a gesture. -/
def gestureRound (again : Cursor → Except Failure (List MouseStep) × Cursor) (c : Cursor) :
    Except Failure (List MouseStep) × Cursor :=
  if c.next.1.isFinish then (.error (.syntaxAt .unexpectedEnd c.next.1), c.next.2)
  else if c.next.1.isSymbol '\x7d' then (.ok [], c.next.2)
  else
    match c.next.2.mouseStep c.next.1 with
    | (.error f, last) => (.error f, last)
    | (.ok step, last) => ((again last).1.map (step :: ·), (again last).2)

theorem gesture_ends (c : Cursor) : EndsWithin gestureRound (c.left + 1) c c.gesture := by
  refine .of_measure gesture left (fun c => ?_) (fun {c f g} hfg => ?_) (Nat.lt_succ_self _)
  · rw [gesture, gestureRound]
    dsimp only
    split
    · rfl
    · split
      · rfl
      · split
        · next hstep => rw [hstep]
        · next hstep => rw [hstep]
  · unfold gestureRound
    split
    · rfl
    · next hmore =>
      have hlt := left_next_lt (c := c) (by simpa using hmore)
      have hle := (Parser.Uniform.mouseStep c.next.1).keeps (P := (·.left ≤ c.next.2.left))
        (fun hc => Nat.le_trans (left_next_le _) hc) (fun hc => Nat.le_trans (left_peek_le _) hc)
        (Nat.le_refl _)
      rw [Parser.ofStep_apply] at hle
      split
      · rfl
      · split
        · rfl
        · next step last hstep =>
          rw [hstep] at hle
          rw [hfg last (Nat.lt_of_le_of_lt hle hlt)]

end Cursor

/-- A round of the loop that copies a block. -/
def Scanner.captureRound (base : Option Nat) (again : Scanner × Arena × Nat → Bool × Scanner × Arena)
    (state : Scanner × Arena × Nat) : Bool × Scanner × Arena :=
  if state.1.next.1.isFinish then (false, state.1.next.2, state.2.1)
  else
    match blockDepth? state.2.2 state.1.next.1 with
    | some depth => again (state.1.next.2, state.2.1.push (kept state.1.next.1 base), depth)
    | none => (true, state.1.next.2, state.2.1)

theorem Scanner.capture_ends (s : Scanner) (arena : Arena) (base : Option Nat) (depth : Nat) :
    EndsWithin (captureRound base) (s.remaining.length + 1) (s, arena, depth)
      (s.capture arena base depth) := by
  refine .of_measure (fun state : Scanner × Arena × Nat => state.1.capture state.2.1 base state.2.2)
    (fun state => state.1.remaining.length) (fun state => capture_eq ..) (fun {state f g} hfg => ?_)
    (Nat.lt_succ_self _)
  unfold captureRound
  split
  · rfl
  · next hmore =>
    have hmore : state.1.next.1.isFinish = false := by simpa using hmore
    have hlt := Cursor.left_next_lt (c := ⟨.text state.1, arena⟩) hmore
    split
    · exact hfg _ hlt
    · rfl

/-- A round of the loop that looks for the closing brace of a block among tokens that are kept. -/
def Replay.braceRound (arena : Arena) (stop : Nat) (again : Nat × Nat → Option Nat)
    (state : Nat × Nat) : Option Nat :=
  if state.2 < stop then
    (arena.get? state.2).bind fun t =>
      match blockDepth? state.1 t with
      | some depth => again (depth, state.2 + 1)
      | none => some state.2
  else none

theorem Replay.capture_ends (r : Replay) (arena : Arena) (depth : Nat) :
    EndsWithin (braceRound arena r.span.stop) ((r.pending arena).length + 1) (depth, r.cursor)
      (closingBrace? arena (r.span.stop - r.cursor) depth r.cursor) := by
  refine .of_measure
    (fun state : Nat × Nat => closingBrace? arena (r.span.stop - state.2) state.1 state.2)
    (fun state => (arena.slice ⟨state.2, r.span.stop⟩).length) (fun state => ?_)
    (fun {state f g} hfg => ?_) (Nat.lt_succ_self _)
  · unfold braceRound
    split
    · next hin =>
      rw [show r.span.stop - state.2 = r.span.stop - (state.2 + 1) + 1 by omega]
      exact closingBrace?_succ ..
    · next hout =>
      rw [show r.span.stop - state.2 = 0 by omega]
      rfl
  · unfold braceRound
    split
    · cases hslice : arena.slice ⟨state.2, r.span.stop⟩ with
      | nil => rw [Arena.get?_of_slice_nil hslice ‹_›]; rfl
      | cons t rest =>
        obtain ⟨-, hget, hrest⟩ := Arena.slice_eq_cons hslice
        rw [hget, Option.bind_some, Option.bind_some]
        split
        · refine hfg _ ?_
          rw [hslice, hrest]
          exact Nat.lt_succ_self _
        · rfl
    · rfl

/-- Scanning and reading end, whatever the text is and however it is broken. Each token but the end token takes
some of the text, so that a text has at most one token more than characters. From any cursor, in a text or
in a replay and with any arguments, there are at most as many statements as there are tokens to come,
the faulty ones included and whatever aliases are known; reading them all comes to the end of the
source, and stops there. And each loop in a statement, be it over arguments or parameters, over the
steps of a gesture or over the tokens of a block, ends with a round at the end token at the latest. -/
theorem reading_ends :
    (∀ (lex : Lexicon) (cs : List Char) (line : Nat), (lex.scan cs line).token.isFinish = true ∨
      ∃ taken, taken ≠ [] ∧ cs = taken ++ (lex.scan cs line).rest) ∧
    (∀ (lex : Lexicon) (text : String), (tokenize lex text).length ≤ text.length + 1) ∧
    (∀ (c d : Cursor) results, Rounds c results d → results.length ≤ c.left) ∧
    (∀ (c : Cursor) (aliases : AliasTable), ∃ body line arena known, body.length ≤ c.left ∧
      (∀ line, .finished line ∉ body) ∧ ∀ fuel, c.left < fuel →
        Outline.read true fuel c aliases = ⟨body ++ [.finished line], arena, known⟩) ∧
    (∀ (c : Cursor) (α : Type) (close : Char) (item : Token → Except SyntaxFault α),
      EndsWithin (Cursor.itemsRound close item) (c.left + 1) c (c.items close item)) ∧
    (∀ c : Cursor, EndsWithin Cursor.gestureRound (c.left + 1) c c.gesture) ∧
    (∀ (s : Scanner) (arena : Arena) (base : Option Nat) (depth : Nat),
      EndsWithin (Scanner.captureRound base) (s.remaining.length + 1) (s, arena, depth)
        (s.capture arena base depth)) ∧
    ∀ (r : Replay) (arena : Arena) (depth : Nat),
      EndsWithin (Replay.braceRound arena r.span.stop) ((r.pending arena).length + 1) (depth, r.cursor)
        (Replay.closingBrace? arena (r.span.stop - r.cursor) depth r.cursor) := by
  refine ⟨Lexicon.scan_takes, fun lex text => ?_, fun c d results h => ?_, Outline.read_ends,
    fun c _ => c.items_ends, Cursor.gesture_ends, Scanner.capture_ends, Replay.capture_ends⟩
  · have hdrain := (Scanner.ofText lex text).length_drain_le
    rw [show (Scanner.ofText lex text).size = text.length from String.length_toList] at hdrain
    exact hdrain
  · exact Nat.le_of_add_right_le h.length_le

end PageScript

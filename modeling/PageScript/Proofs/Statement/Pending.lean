/-
The tokens that are still to come.

What a source has still to deliver is a list of tokens: for a replay the rest of its span, as it is
kept in the arena, and for a scanner what scanning the rest of its text gives. Reading takes the first
of them, looking ahead takes none, and the capture of a block cuts the list at the brace that closes
the block. Where that brace is, `splitBlock?` says once for both kinds of source. The end token behind
them stays where it is.
-/
import PageScript.Proofs.Statement.Steady

namespace PageScript

-- ======== slices

namespace Arena

variable {a b : Arena}

theorem slice_eq (a : Arena) (s : Span) :
    a.slice s = (a.tokens.toList.take s.stop).drop s.start := by
  rw [slice, Array.toList_extract, List.extract_eq_take_drop, List.drop_take]

theorem length_slice {s : Span} (h : s.stop ≤ a.size) : (a.slice s).length = s.length := by
  have hsize : s.stop ≤ a.tokens.toList.length := h
  rw [slice_eq, List.length_drop, List.length_take, Nat.min_eq_left hsize, Span.length]

theorem length_slice_le (a : Arena) (s : Span) : (a.slice s).length ≤ s.length := by
  rw [slice_eq, List.length_drop, List.length_take, Span.length]
  omega

theorem slice_of_le (a : Arena) {i stop : Nat} (h : stop ≤ i) : a.slice ⟨i, stop⟩ = [] := by
  have hlength : (a.slice ⟨i, stop⟩).length ≤ stop - i := a.length_slice_le _
  exact List.eq_nil_of_length_eq_zero (by omega)

theorem drop_slice (a : Arena) (i stop n : Nat) :
    (a.slice ⟨i, stop⟩).drop n = a.slice ⟨i + n, stop⟩ := by
  rw [slice_eq, slice_eq, List.drop_drop]

theorem take_slice (a : Arena) {i stop n : Nat} (h : i + n ≤ stop) :
    (a.slice ⟨i, stop⟩).take n = a.slice ⟨i, i + n⟩ := by
  rw [slice_eq, slice_eq, List.take_drop, List.take_take, Nat.min_eq_left h]

/-- A slice that is not empty begins with the token at its start. -/
theorem slice_eq_cons {i stop : Nat} {t : Token} {rest : List Token}
    (h : a.slice ⟨i, stop⟩ = t :: rest) :
    i < stop ∧ a.get? i = some t ∧ a.slice ⟨i + 1, stop⟩ = rest := by
  have hrest : a.slice ⟨i + 1, stop⟩ = rest := by rw [← drop_slice, h]; rfl
  have hhead : (a.tokens.toList.take stop)[i]? = some t := by
    rw [← List.head?_drop, ← slice_eq a ⟨i, stop⟩, h]
    rfl
  rw [List.getElem?_take] at hhead
  split at hhead
  · next hlt =>
    rw [Array.getElem?_toList] at hhead
    exact ⟨hlt, hhead, hrest⟩
  · cases hhead

/-- A slice within the arena that is empty has no place. -/
theorem slice_eq_nil {i stop : Nat} (hstop : stop ≤ a.size) (h : a.slice ⟨i, stop⟩ = []) :
    stop ≤ i := by
  have hlength : (a.slice ⟨i, stop⟩).length = stop - i := length_slice hstop
  rw [h, List.length_nil] at hlength
  omega

/-- Where a slice is empty though it has places, the arena does not reach that far. -/
theorem get?_of_slice_nil {i stop : Nat} (h : a.slice ⟨i, stop⟩ = []) (hi : i < stop) :
    a.get? i = none := by
  have hlength := congrArg List.length (slice_eq a ⟨i, stop⟩)
  rw [h, List.length_drop, List.length_take, List.length_nil] at hlength
  exact Array.getElem?_eq_none (by simp only [Array.length_toList] at hlength; omega)

theorem getLast?_slice {i stop : Nat} (hstop : stop ≤ a.size) (h : i < stop) :
    (a.slice ⟨i, stop⟩).getLast? = a.get? (stop - 1) := by
  have hlength : (a.slice ⟨i, stop⟩).length = stop - i := length_slice hstop
  have hlast : i + (stop - i - 1) = stop - 1 := by omega
  rw [List.getLast?_eq_getElem?, hlength, slice_eq, List.getElem?_drop, hlast, List.getElem?_take,
    if_pos (Nat.sub_one_lt_of_lt h), Array.getElem?_toList, get?]

/-- What was captured before stays where it is. -/
theorem Extends.slice_eq (h : a.Extends b) {s : Span} (hs : s.stop ≤ a.size) :
    b.slice s = a.slice s := by
  obtain ⟨more, hmore⟩ := h
  rw [Arena.slice_eq, Arena.slice_eq, ← hmore, List.take_append_of_le_length hs]

/-- What an arena has grown by. -/
theorem slice_grown {ts : List Token} (h : b.tokens.toList = a.tokens.toList ++ ts) :
    b.slice ⟨a.size, b.size⟩ = ts := by
  have hsize : b.tokens.toList.take b.size = b.tokens.toList := List.take_of_length_le (by simp [size])
  rw [slice_eq, hsize, h, List.drop_left' (by simp [size])]

theorem size_grown {ts : List Token} (h : b.tokens.toList = a.tokens.toList ++ ts) :
    b.size = a.size + ts.length := by
  have hlength := congrArg List.length h
  rwa [List.length_append] at hlength

theorem slice_alloc (a : Arena) (ts : List Token) : (a.alloc ts).2.slice (a.alloc ts).1 = ts :=
  slice_grown (by simp [alloc])

end Arena

-- ======== blocks

theorem Token.isSymbol_of_other {t : Token} {c d : Char} (h : t.isSymbol c = true)
    (hne : c ≠ d) : t.isSymbol d = false := by
  simp only [isSymbol, Bool.and_eq_true, decide_eq_true_eq] at h
  simp [isSymbol, h.2, hne]

/-- What ends a block is a closing brace that none was opened for. -/
theorem blockDepth?_eq_none {depth : Nat} {t : Token} :
    blockDepth? depth t = none ↔ t.isSymbol '\x7d' = true ∧ depth ≤ 1 := by
  unfold blockDepth?
  split
  · next hopens =>
    have hcloses := Token.isSymbol_of_other (d := '\x7d') hopens (by decide)
    simp [hcloses]
  · split
    · next hcloses => simp [hcloses]
    · next hcloses => simp [hcloses]

/-- Cuts tokens at the brace that closes a block `depth` deep: what stands in front of it, and what
follows. -/
def splitBlock? : (depth : Nat) → List Token → Option (List Token × List Token)
  | _, [] => none
  | depth, t :: ts =>
    match blockDepth? depth t with
    | some depth => (splitBlock? depth ts).map fun p => (t :: p.1, p.2)
    | none => some ([], ts)

theorem splitBlock?_eq_some {depth : Nat} {ts body rest : List Token}
    (h : splitBlock? depth ts = some (body, rest)) :
    ∃ brace, ts = body ++ brace :: rest ∧ brace.isSymbol '\x7d' = true := by
  induction ts generalizing depth body with
  | nil => cases h
  | cons t ts ih =>
    rw [splitBlock?] at h
    split at h
    · obtain ⟨⟨body', rest'⟩, hsplit, hpair⟩ := Option.map_eq_some_iff.1 h
      cases hpair
      obtain ⟨brace, rfl, hbrace⟩ := ih hsplit
      exact ⟨brace, rfl, hbrace⟩
    · next hend =>
      cases h
      exact ⟨t, rfl, (blockDepth?_eq_none.1 hend).1⟩

/-- Where a block ends does not depend on tokens other than braces. -/
theorem splitBlock?_map {f : Token → Token}
    (hf : ∀ depth t, blockDepth? depth (f t) = blockDepth? depth t) (depth : Nat) (ts : List Token) :
    splitBlock? depth (ts.map f) =
      (splitBlock? depth ts).map fun p => (p.1.map f, p.2.map f) := by
  induction ts generalizing depth with
  | nil => rfl
  | cons t ts ih =>
    rw [List.map_cons, splitBlock?, splitBlock?, hf]
    cases blockDepth? depth t with
    | none => rfl
    | some depth => simp only [ih, Option.map_map, Function.comp_def, List.map_cons]

/-- A block that is closed ends where it does, whatever follows. -/
theorem splitBlock?_append {depth : Nat} {ts body rest : List Token}
    (h : splitBlock? depth ts = some (body, rest)) (more : List Token) :
    splitBlock? depth (ts ++ more) = some (body, rest ++ more) := by
  induction ts generalizing depth body with
  | nil => cases h
  | cons t ts ih =>
    rw [splitBlock?] at h
    rw [List.cons_append, splitBlock?]
    cases hdepth : blockDepth? depth t with
    | none =>
      rw [hdepth] at h
      cases h
      rfl
    | some depth =>
      rw [hdepth] at h
      obtain ⟨⟨body', rest'⟩, hsplit, hpair⟩ := Option.map_eq_some_iff.1 h
      cases hpair
      dsimp only
      rw [ih hsplit]
      rfl

/-- A block that is open takes more than there is. -/
theorem splitBlock?_append_of_none {depth : Nat} {ts more body rest : List Token}
    (h : splitBlock? depth ts = none) (h' : splitBlock? depth (ts ++ more) = some (body, rest)) :
    rest.length < more.length := by
  induction ts generalizing depth body with
  | nil =>
    obtain ⟨brace, hmore, -⟩ := splitBlock?_eq_some h'
    rw [List.nil_append] at hmore
    rw [hmore, List.length_append, List.length_cons]
    omega
  | cons t ts ih =>
    rw [splitBlock?] at h
    rw [List.cons_append, splitBlock?] at h'
    cases hdepth : blockDepth? depth t with
    | none =>
      rw [hdepth] at h
      cases h
    | some depth =>
      rw [hdepth] at h h'
      obtain ⟨⟨body', rest'⟩, hsplit, hpair⟩ := Option.map_eq_some_iff.1 h'
      cases hpair
      exact ih (Option.map_eq_none_iff.1 h) hsplit

-- ======== replays

theorem Token.substitute_empty (t : Token) : t.substitute {} = t :=
  if_pos (.inr (.inl rfl))

namespace Replay

variable {r : Replay} {a : Arena}

/-- The tokens that a replay has still to deliver, as they are kept. -/
def pending (r : Replay) (a : Arena) : List Token :=
  a.slice ⟨r.cursor, r.span.stop⟩

theorem length_pending (h : r.span.stop ≤ a.size) :
    (r.pending a).length = r.span.stop - r.cursor :=
  Arena.length_slice h

/-- The end token of a replay stands on the line of the last token that is to come. -/
theorem finish_of_pending (hstop : r.span.stop ≤ a.size) (h : r.pending a ≠ []) :
    r.finish a = Token.finish (((r.pending a).getLast?.map (·.line)).getD 1) := by
  have hin : r.cursor < r.span.stop := by
    have hlength := List.length_pos_iff.2 h
    rw [length_pending hstop] at hlength
    omega
  rw [finish, if_neg (by omega), pending, Arena.getLast?_slice hstop hin]

theorem current_of_end (h : r.pending a = []) : r.current a = r.finish a := by
  rw [current]
  by_cases hin : r.cursor < r.span.stop
  · rw [Arena.get?_of_slice_nil h hin]
  · cases a.get? r.cursor with
    | none => rfl
    | some t => exact if_neg hin

theorem current_of_nil (hstop : r.span.stop ≤ a.size) (h : r.pending a = []) :
    r.current a = r.finish a ∧ r.advance = r :=
  ⟨current_of_end h, if_neg (Nat.not_lt.2 (Arena.slice_eq_nil hstop h))⟩

theorem current_of_cons {t : Token} {rest : List Token} (h : r.pending a = t :: rest) :
    r.current a = t.substitute r.bindings ∧ r.advance = { r with cursor := r.cursor + 1 } ∧
      r.advance.pending a = rest := by
  obtain ⟨hin, hget, hrest⟩ := Arena.slice_eq_cons h
  have hadvance : r.advance = { r with cursor := r.cursor + 1 } := if_pos hin
  refine ⟨?_, hadvance, ?_⟩
  · rw [current, hget]
    exact if_pos hin
  · rw [hadvance]
    exact hrest

theorem pending_advance : r.advance.pending a = (r.pending a).tail := by
  rw [← List.drop_one, advance]
  split
  · exact (Arena.drop_slice a r.cursor r.span.stop 1).symm
  · rw [pending, Arena.slice_of_le a (by omega), List.drop_nil]

theorem closingBrace?_eq_split (a : Arena) (stop depth i : Nat) :
    closingBrace? a (stop - i) depth i =
      (splitBlock? depth (a.slice ⟨i, stop⟩)).map fun p => i + p.1.length := by
  induction hfuel : stop - i generalizing depth i with
  | zero =>
    rw [Arena.slice_of_le a (by omega)]
    rfl
  | succ fuel ih =>
    cases hslice : a.slice ⟨i, stop⟩ with
    | nil =>
      rw [closingBrace?_succ, Arena.get?_of_slice_nil hslice (by omega)]
      rfl
    | cons t rest =>
      obtain ⟨-, hget, rfl⟩ := Arena.slice_eq_cons hslice
      rw [closingBrace?_succ, hget, Option.bind_some, splitBlock?]
      cases blockDepth? depth t with
      | none => rfl
      | some depth =>
        simp only [ih depth (i + 1) (by omega), Option.map_map, Function.comp_def, List.length_cons,
          Nat.add_right_comm _ 1, Nat.add_assoc]

theorem capture_of_none (h : splitBlock? 1 (r.pending a) = none) :
    r.capture a = (none, { r with cursor := r.span.stop }) ∧
      Replay.pending { r with cursor := r.span.stop } a = [] := by
  constructor
  · rw [capture, closingBrace?_eq_split]
    rw [pending] at h
    rw [h]
    rfl
  · exact Arena.slice_of_le a (Nat.le_refl _)

/-- A block that is captured from a replay is a part of its span. -/
theorem capture_of_some {body rest : List Token}
    (h : splitBlock? 1 (r.pending a) = some (body, rest)) :
    ∃ i, r.capture a = (some ⟨⟨r.cursor, i⟩, r.bindings⟩, { r with cursor := i + 1 }) ∧
      i < r.span.stop ∧ a.slice ⟨r.cursor, i⟩ = body ∧ a.slice ⟨i + 1, r.span.stop⟩ = rest := by
  obtain ⟨brace, hpending, -⟩ := splitBlock?_eq_some h
  have hlength : (r.pending a).length ≤ r.span.stop - r.cursor := a.length_slice_le _
  rw [hpending, List.length_append, List.length_cons] at hlength
  rw [pending] at h hpending
  refine ⟨r.cursor + body.length, ?_, by omega, ?_, ?_⟩
  · rw [capture, closingBrace?_eq_split, h]
    rfl
  · have hend : r.cursor + body.length ≤ r.span.stop := by omega
    rw [← Arena.take_slice a hend, hpending, List.take_left]
  · rw [Nat.add_assoc, ← Arena.drop_slice, hpending]
    simp

end Replay

-- ======== scanners

namespace Scanner

/-- A scanner that has looked at the end token has nothing left to read, and has reached its line. -/
def Sound (s : Scanner) : Prop :=
  ∀ t, s.ahead = some t → t.isFinish = true → s.rest = [] ∧ t.line = s.line

/-- The tokens that a scanner has still to deliver. -/
def pending (s : Scanner) : List Token :=
  s.drain.filter (!·.isFinish)

/-- The line of the end token of a scanner. -/
def endLine (s : Scanner) : Nat :=
  (s.drain.getLastD (.finish s.line)).line

theorem drain_eq (s : Scanner) :
    s.drain = if s.next.1.isFinish then [s.next.1] else s.next.1 :: s.next.2.drain := by
  rw [drain]
  rfl

theorem ahead_next (s : Scanner) : s.next.2.ahead = none := by
  unfold next
  split
  · rfl
  · assumption

theorem lexicon_next (s : Scanner) : s.next.2.lexicon = s.lexicon := by
  unfold next
  split <;> rfl

/-- What holds of the token ahead and of whatever is scanned holds of all tokens to come. -/
theorem forall_drain {P : Token → Prop} {s : Scanner}
    (hscan : ∀ cs line, P (s.lexicon.scan cs line).token) (hahead : ∀ t, s.ahead = some t → P t) :
    ∀ t ∈ s.drain, P t := by
  induction hsize : s.size using Nat.strongRecOn generalizing s with
  | ind n ih =>
    subst hsize
    have hfirst : P s.next.1 := by
      cases hs : s.ahead with
      | none =>
        rw [next, hs]
        exact hscan ..
      | some t =>
        rw [next, hs]
        exact hahead t hs
    rw [drain_eq]
    split
    · exact List.forall_mem_singleton.2 hfirst
    · next hmore =>
      have hrest := ih _ (s.size_next_lt (by simpa using hmore)) (s := s.next.2)
        (s.lexicon_next ▸ hscan) (by simp [s.ahead_next]) rfl
      exact List.forall_mem_cons.2 ⟨hfirst, hrest⟩

theorem pending_of_finish {s : Scanner} (h : s.next.1.isFinish = true) : s.pending = [] := by
  rw [pending, drain_eq, if_pos h]
  simp [h]

theorem pending_of_more {s : Scanner} (h : s.next.1.isFinish = false) :
    s.pending = s.next.1 :: s.next.2.pending := by
  rw [pending, drain_eq, if_neg (by simp [h])]
  simp [h, pending]

theorem endLine_of_finish {s : Scanner} (h : s.next.1.isFinish = true) :
    s.endLine = s.next.1.line := by
  rw [endLine, drain_eq, if_pos h]
  rfl

theorem endLine_of_more {s : Scanner} (h : s.next.1.isFinish = false) :
    s.next.2.endLine = s.endLine := by
  rw [endLine, endLine, drain_eq s, if_neg (by simp [h]), drain_eq s.next.2]
  split <;> rfl

theorem next_of_pending_nil {s : Scanner} (h : s.pending = []) : s.next.1.isFinish = true := by
  cases hfinish : s.next.1.isFinish with
  | true => rfl
  | false =>
    rw [pending_of_more hfinish] at h
    cases h

theorem next_of_pending_cons {s : Scanner} {t : Token} {ts : List Token} (h : s.pending = t :: ts) :
    s.next.1.isFinish = false ∧ s.next.1 = t ∧ s.next.2.pending = ts := by
  cases hfinish : s.next.1.isFinish with
  | true =>
    rw [pending_of_finish hfinish] at h
    cases h
  | false =>
    rw [pending_of_more hfinish] at h
    exact ⟨rfl, List.cons.inj h⟩

theorem sound_next (s : Scanner) : s.next.2.Sound := by
  intro t ht
  rw [ahead_next] at ht
  cases ht

/-- Behind what has been looked at, a scanner goes on as behind what has been read. -/
theorem next_peek (s : Scanner) : s.peek.2.next = s.next := by
  have hahead := s.ahead_next
  rw [peek]
  generalize s.next = read at hahead
  rcases read with ⟨t, after⟩
  rcases after with ⟨lexicon, rest, line, ahead⟩
  cases hahead
  rfl

theorem drain_peek (s : Scanner) : s.peek.2.drain = s.drain := by
  rw [drain_eq, drain_eq s, next_peek]

theorem pending_peek (s : Scanner) : s.peek.2.pending = s.pending := by
  rw [pending, pending, drain_peek]

theorem endLine_peek (s : Scanner) : s.peek.2.endLine = s.endLine := by
  rw [endLine, endLine, drain_peek, drain_eq]
  split <;> rfl

end Scanner

namespace Lexicon

theorem Lexeme.isFinish_token (w : Lexeme) (leading : List Char) (line : Nat) :
    (w.token leading line).isFinish = false := by
  refine decide_eq_false ?_
  rw [token]
  dsimp only
  generalize (if w.numeric then Number.ofChars? w.text else none) = number
  cases number <;> nofun

/-- The end token is delivered at the end of the text only, on its last line. -/
theorem scan_of_finish (lex : Lexicon) (cs : List Char) (line : Nat)
    (h : (lex.scan cs line).token.isFinish = true) :
    (lex.scan cs line).rest = [] ∧ (lex.scan cs line).token.line = (lex.scan cs line).line := by
  unfold scan at h ⊢
  dsimp only at h ⊢
  split at h
  · exact ⟨rfl, rfl⟩
  · -- what is not at the end of the text is a word, a number or a symbol
    split at h
    · rw [Lexeme.isFinish_token] at h
      cases h
    · cases h

theorem scan_nil (lex : Lexicon) (line : Nat) : (lex.scan [] line).token = .finish line := by
  rw [scan, gap]
  rfl

end Lexicon

namespace Scanner

theorem next_of_finish {s : Scanner} (hs : s.Sound) (h : s.next.1.isFinish = true) :
    s.next.2.rest = [] ∧ s.next.1.line = s.next.2.line := by
  unfold next at h ⊢
  split
  · next t ht =>
    rw [ht] at h
    exact hs t ht h
  · next ht =>
    rw [ht] at h
    exact s.lexicon.scan_of_finish s.rest s.line h

theorem sound_peek {s : Scanner} (hs : s.Sound) : s.peek.2.Sound := by
  intro t ht hfinish
  cases ht
  exact next_of_finish hs hfinish

/-- Behind the end token comes the end token again, with no blanks in front. -/
theorem next_next_of_finish {s : Scanner} (hs : s.Sound) (h : s.next.1.isFinish = true) :
    s.next.2.next.1 = .finish s.next.1.line := by
  obtain ⟨hrest, hline⟩ := next_of_finish hs h
  rw [next, ahead_next]
  dsimp only
  rw [hrest, hline]
  exact Lexicon.scan_nil ..

/-- Behind the end token comes nothing. -/
theorem pending_next_of_finish {s : Scanner} (hs : s.Sound) (h : s.next.1.isFinish = true) :
    s.next.2.pending = [] :=
  pending_of_finish (by rw [next_next_of_finish hs h]; rfl)

theorem pending_next {s : Scanner} (hs : s.Sound) : s.next.2.pending = s.pending.tail := by
  cases hpending : s.pending with
  | nil => exact pending_next_of_finish hs (next_of_pending_nil hpending)
  | cons t ts => exact (next_of_pending_cons hpending).2.2

theorem endLine_next {s : Scanner} (hs : s.Sound) : s.next.2.endLine = s.endLine := by
  cases hfinish : s.next.1.isFinish with
  | true =>
    have hagain := next_next_of_finish hs hfinish
    rw [endLine_of_finish hfinish, endLine_of_finish (by rw [hagain]; rfl), hagain]
    rfl
  | false => exact endLine_of_more hfinish

/-- What a scanner captures is a copy of the tokens in front of the closing brace, or of all that is to
come if there is none, with the lines counted anew where that is asked for. -/
theorem capture_pending {s : Scanner} (hs : s.Sound) (a : Arena) (base : Option Nat) {depth : Nat}
    {cut : Option (List Token × List Token)} (h : splitBlock? depth s.pending = cut) :
    ∃ s' a', s.capture a base depth = (cut.isSome, s', a') ∧ s'.Sound ∧
      s'.pending = cut.elim [] Prod.snd ∧ s'.endLine = s.endLine ∧
      a'.tokens.toList = a.tokens.toList ++ (cut.elim s.pending Prod.fst).map (kept · base) := by
  induction hpending : s.pending generalizing s a depth cut with
  | nil =>
    rw [hpending] at h
    cases h
    have hfinish := next_of_pending_nil hpending
    refine ⟨_, a, ?_, s.sound_next, pending_next_of_finish hs hfinish, endLine_next hs,
      (List.append_nil _).symm⟩
    rw [capture_eq, if_pos hfinish]
    rfl
  | cons t ts ih =>
    obtain ⟨hmore, rfl, hrest⟩ := next_of_pending_cons hpending
    rw [capture_eq, if_neg (by simp [hmore])]
    rw [hpending, splitBlock?] at h
    cases hdepth : blockDepth? depth s.next.1 with
    | none =>
      rw [hdepth] at h
      cases h
      exact ⟨_, a, rfl, s.sound_next, hrest, endLine_of_more hmore, (List.append_nil _).symm⟩
    | some depth =>
      rw [hdepth, ← hrest] at h
      dsimp only at h
      obtain ⟨s', a', hcapture, hsound, hpending', hend, htokens⟩ :=
        ih s.sound_next (a.push (kept s.next.1 base)) rfl hrest
      rw [Arena.push, Array.toList_push, List.append_assoc] at htokens
      refine ⟨s', a', ?_, hsound, ?_, hend.trans (endLine_of_more hmore), ?_⟩ <;> subst h
      · exact hcapture.trans (by rw [Option.isSome_map])
      · rw [hpending', Option.elim_map]
        rfl
      · rw [htokens]
        cases splitBlock? depth s.next.2.pending <;> rfl

end Scanner

end PageScript

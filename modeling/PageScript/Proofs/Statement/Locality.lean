/-
Reading looks one token ahead, and no further.

Two sources may deliver the same tokens up to a place, and from there on different ones, except for
the first of them. A statement that ends at that place is read the same from both: no parser can tell
them apart before it reads past the place, and looking ahead does not. Reading on behind the place is
what loses a cursor, in the sense of `SimulationUntil`.

What a cursor has to say to a parser is told by `Upcoming`, once for both kinds of source: the tokens
to come, and how they are delivered and captured. Each step of a cursor is a step of this.
-/
import PageScript.Proofs.Statement.Captured
import PageScript.Proofs.Statement.Sources

namespace PageScript

theorem Statement.Matches.eq {st st' : Statement} (h : Matches Eq st st') : st' = st := by
  cases h with
  | same => rfl
  | definition h => rw [h]
  | loop h => rw [h]

namespace Token.Matches

variable {t u p : Token}

theorem symm (h : Matches Eq t u) : Matches Eq u t := by
  cases h with
  | same => exact .same t
  | finish ht hu hF => exact .finish hu ht hF.symm

theorem trans (h : Matches Eq t u) (h' : Matches Eq u p) : Matches Eq t p := by
  cases h with
  | same => exact h'
  | finish ht hu hF =>
    cases h' with
    | same => exact .finish ht hu hF
    | finish _ hp hF' => exact .finish ht hp (hF.trans hF')

end Token.Matches

-- ======== upcoming

/-- What is to come: tokens, as they are kept, then the end token on its line. The arguments are put
in where a token is delivered. A block begins at a place of the arena, where it is copied to if the
source is a text. -/
structure Upcoming where
  tokens : List Token
  endLine : Nat
  bindings : Bindings
  place : Nat
  copies : Bool

namespace Upcoming

/-- The first token, as it is delivered. -/
def first (x : Upcoming) : Token :=
  match x.tokens with
  | [] => .finish x.endLine
  | t :: _ => t.substitute x.bindings

theorem first_of_nil {x : Upcoming} (h : x.tokens = []) : x.first = .finish x.endLine := by
  rw [first, h]

theorem first_of_cons {x : Upcoming} {t : Token} {ts : List Token} (h : x.tokens = t :: ts) :
    x.first = t.substitute x.bindings := by
  rw [first, h]

/-- What is to come where only `rest` is left, and `copied` tokens have been copied. -/
def goTo (x : Upcoming) (rest : List Token) (copied : Nat) : Upcoming :=
  { x with
    tokens := rest
    place := x.place + if x.copies then copied else x.tokens.length - rest.length }

/-- The tokens that are kept of a block. -/
def copy (x : Upcoming) (body : List Token) (base : Option Nat) : List Token :=
  if x.copies then body.map (Scanner.kept · base) else []

/-- From one to the other, tokens are read and nothing else changes for those that remain. -/
structure LeadsTo (x y : Upcoming) : Prop where
  tokens : y.tokens <:+ x.tokens
  bindings : y.bindings = x.bindings

theorem LeadsTo.refl (x : Upcoming) : x.LeadsTo x :=
  ⟨List.suffix_refl _, rfl⟩

theorem LeadsTo.trans {x y z : Upcoming} (h : x.LeadsTo y) (h' : y.LeadsTo z) : x.LeadsTo z :=
  ⟨h'.tokens.trans h.tokens, h'.bindings.trans h.bindings⟩

theorem leadsTo_goTo {x : Upcoming} {rest : List Token} (h : rest <:+ x.tokens) (copied : Nat) :
    x.LeadsTo (x.goTo rest copied) :=
  ⟨h, rfl⟩

/-- The same is to come, up to where `v` follows here and `v'` there, which begin with the same
token. -/
structure Fork (u v v' : List Token) (x y : Upcoming) : Prop where
  tokens : x.tokens = u ++ v ∧ y.tokens = u ++ v'
  ahead : v'.head? = v.head?
  endLine : v = [] → y.endLine = x.endLine
  bindings : y.bindings = x.bindings
  place : y.place = x.place
  copies : y.copies = x.copies

namespace Fork

variable {u v v' : List Token} {x y : Upcoming}

theorem first_eq (h : Fork u v v' x y) : y.first = x.first := by
  rw [first, first, h.tokens.1, h.tokens.2, h.bindings]
  cases u with
  | nil =>
    cases v with
    | nil =>
      rw [List.head?_eq_none_iff.1 h.ahead]
      exact congrArg Token.finish (h.endLine rfl)
    | cons t ts =>
      obtain ⟨ts', rfl⟩ := List.head?_eq_some_iff.1 h.ahead
      rfl
  | cons t u => rfl

theorem goTo (h : Fork u v v' x y) (w : List Token) (copied : Nat) :
    Fork w v v' (x.goTo (w ++ v) copied) (y.goTo (w ++ v') copied) where
  tokens := ⟨rfl, rfl⟩
  ahead := h.ahead
  endLine := h.endLine
  bindings := h.bindings
  place := by
    have hread : (u ++ v').length - (w ++ v').length = (u ++ v).length - (w ++ v).length := by
      simp only [List.length_append]
      omega
    rw [Upcoming.goTo, Upcoming.goTo, h.tokens.1, h.tokens.2, hread, h.place, h.copies]
  copies := h.copies

/-- A token that is read stands in front of the fork, or reading goes past it. -/
theorem next (h : Fork u v v' x y) :
    x.tokens.tail.length < v.length ∨
      ∃ w, Fork w v v' (x.goTo x.tokens.tail 0) (y.goTo y.tokens.tail 0) := by
  cases u with
  | cons t u =>
    right
    rw [h.tokens.1, h.tokens.2]
    exact ⟨u, h.goTo u 0⟩
  | nil =>
    cases v with
    | cons t ts =>
      left
      rw [h.tokens.1]
      exact Nat.lt_succ_self _
    | nil =>
      right
      have hend : v' = [] := List.head?_eq_none_iff.1 h.ahead
      subst hend
      rw [h.tokens.1, h.tokens.2]
      exact ⟨[], h.goTo [] 0⟩

theorem copy_eq (h : Fork u v v' x y) (body : List Token) (base : Option Nat) :
    y.copy body base = x.copy body base := by
  rw [copy, copy, h.copies]

end Fork

end Upcoming

-- ======== sources

/-- What is to come of a text, if the next block is copied to `place`. -/
def Scanner.upcoming (s : Scanner) (place : Nat) : Upcoming :=
  ⟨s.pending, s.endLine, {}, place, true⟩

theorem Scanner.next_matches (s : Scanner) (place : Nat) :
    Token.Matches Eq s.next.1 (s.upcoming place).first := by
  cases hpending : s.pending with
  | nil =>
    have hfinish := next_of_pending_nil hpending
    rw [Upcoming.first_of_nil hpending]
    refine .finish hfinish rfl ?_
    rw [Failure.syntaxAt_finish hfinish, ← endLine_of_finish hfinish]
    rfl
  | cons t ts =>
    rw [Upcoming.first_of_cons hpending, (next_of_pending_cons hpending).2.1]
    show Token.Matches Eq t (t.substitute {})
    rw [Token.substitute_empty]
    exact .same t

namespace Replay

variable {r : Replay} {a : Arena}

/-- What is to come of a replay. -/
def upcoming (r : Replay) (a : Arena) : Upcoming :=
  ⟨r.pending a, (r.finish a).line, r.bindings, r.cursor, false⟩

/-- The place that is reached lies in the span, and the span in the arena. -/
def Within (r : Replay) (a : Arena) : Prop :=
  r.cursor ≤ r.span.stop ∧ r.span.stop ≤ a.size

theorem current_matches (h : r.Within a) : Token.Matches Eq (r.current a) (r.upcoming a).first := by
  cases hpending : r.pending a with
  | nil =>
    rw [Upcoming.first_of_nil hpending, (current_of_nil h.2 hpending).1]
    exact .same (r.finish a)
  | cons t ts =>
    rw [Upcoming.first_of_cons hpending, (current_of_cons hpending).1]
    exact .same (t.substitute r.bindings)

/-- How many tokens have been read is how far the place is. -/
theorem upcoming_at (h : r.Within a) {i : Nat} (hi : r.cursor ≤ i) (hstop : i ≤ r.span.stop)
    (copied : Nat) :
    Replay.upcoming { r with cursor := i } a =
      (r.upcoming a).goTo (a.slice ⟨i, r.span.stop⟩) copied := by
  have hrest : (a.slice ⟨i, r.span.stop⟩).length = r.span.stop - i := Arena.length_slice h.2
  have hplace : i = r.cursor + ((r.pending a).length - (a.slice ⟨i, r.span.stop⟩).length) := by
    rw [length_pending h.2, hrest]
    omega
  rw [upcoming, upcoming, Upcoming.goTo]
  simp only [Bool.false_eq_true, if_false, ← hplace]
  rfl

end Replay

-- ======== cursors

namespace Cursor

/-- What holds at the start of a text and of a block in the arena, and then of all cursors that reading
leads to: the scanner is sound, or the replay lies in the arena. -/
def Settled : Cursor → Prop
  | ⟨.text s, _⟩ => s.Sound
  | ⟨.replay r, a⟩ => r.Within a

/-- What is to come at a cursor. -/
def upcoming : Cursor → Upcoming
  | ⟨.text s, a⟩ => s.upcoming a.size
  | ⟨.replay r, a⟩ => r.upcoming a

variable {c : Cursor}

theorem next_upcoming (h : c.Settled) :
    Token.Matches Eq c.next.1 c.upcoming.first ∧ c.next.2.Settled ∧
      c.next.2.upcoming = c.upcoming.goTo c.upcoming.tokens.tail 0 := by
  rcases c with ⟨s | r, a⟩
  · refine ⟨s.next_matches a.size, s.sound_next, ?_⟩
    show s.next.2.upcoming a.size = (s.upcoming a.size).goTo s.pending.tail 0
    rw [Scanner.upcoming, Scanner.pending_next h, Scanner.endLine_next h]
    rfl
  · refine ⟨r.current_matches h, ?_⟩
    show r.advance.Within a ∧ r.advance.upcoming a = (r.upcoming a).goTo (r.pending a).tail 0
    rw [← Replay.pending_advance, Replay.advance]
    split
    · next hin => exact ⟨⟨hin, h.2⟩, Replay.upcoming_at h (Nat.le_succ _) hin 0⟩
    · exact ⟨h, Replay.upcoming_at h (Nat.le_refl _) h.1 0⟩

theorem next_leadsTo (h : c.Settled) :
    c.next.2.Settled ∧ c.upcoming.LeadsTo c.next.2.upcoming := by
  obtain ⟨-, hsettled, hnext⟩ := next_upcoming h
  rw [hnext]
  exact ⟨hsettled, Upcoming.leadsTo_goTo (List.tail_suffix _) 0⟩

theorem peek_upcoming (h : c.Settled) :
    c.peek.1 = c.next.1 ∧ c.peek.2.Settled ∧ c.peek.2.upcoming = c.upcoming := by
  rcases c with ⟨s | r, a⟩
  · refine ⟨rfl, Scanner.sound_peek h, ?_⟩
    show s.peek.2.upcoming a.size = s.upcoming a.size
    rw [Scanner.upcoming, Scanner.pending_peek, Scanner.endLine_peek]
    rfl
  · exact ⟨rfl, h, rfl⟩

theorem peek_leadsTo (h : c.Settled) :
    c.peek.2.Settled ∧ c.upcoming.LeadsTo c.peek.2.upcoming := by
  obtain ⟨-, hsettled, hpeek⟩ := peek_upcoming h
  rw [hpeek]
  exact ⟨hsettled, .refl _⟩

/-- The line that lines of a captured block are counted from. -/
def base? (opening : Token) (rebase : Bool) : Option Nat :=
  if rebase then some opening.line else none

/-- What comes of a block if the tokens to come are cut at its end. -/
def blockOf (c : Cursor) (opening : Token) : Option (List Token × List Token) → Except Failure Block
  | some (body, _) =>
    .ok ⟨⟨c.upcoming.place, c.upcoming.place + body.length⟩, c.upcoming.bindings⟩
  | none => .error (.syntaxAt .unterminatedBlock opening)

theorem capture_upcoming (h : c.Settled) (opening : Token) (rebase : Bool)
    {cut : Option (List Token × List Token)} (hsplit : splitBlock? 1 c.upcoming.tokens = cut) :
    ∃ c', c.capture opening rebase = (c.blockOf opening cut, c') ∧ c'.Settled ∧
      c'.upcoming =
        c.upcoming.goTo (cut.elim [] Prod.snd) (cut.elim c.upcoming.tokens Prod.fst).length ∧
      c'.arena.tokens.toList = c.arena.tokens.toList ++
        c.upcoming.copy (cut.elim c.upcoming.tokens Prod.fst) (base? opening rebase) := by
  rcases c with ⟨s | r, a⟩
  · obtain ⟨s', a', hcapture, hsound, hrest, hend, htokens⟩ :=
      Scanner.capture_pending h a (base? opening rebase) hsplit
    have hsize : a'.size = a.size + (cut.elim s.pending Prod.fst).length := by
      rw [Arena.size_grown htokens, List.length_map]
    refine ⟨⟨.text s', a'⟩, ?_, hsound, ?_, htokens⟩
    · rw [base?] at hcapture
      rw [capture_text, hcapture]
      dsimp only
      rw [hsize]
      cases cut <;> rfl
    · show s'.upcoming a'.size = _
      rw [Scanner.upcoming, hrest, hend, hsize]
      rfl
  · rcases cut with _ | ⟨body, rest⟩
    · obtain ⟨hcapture, hrest⟩ := Replay.capture_of_none hsplit
      refine ⟨⟨.replay { r with cursor := r.span.stop }, a⟩, ?_, ⟨Nat.le_refl _, h.2⟩, ?_,
        (List.append_nil _).symm⟩
      · rw [capture_replay, hcapture]
        rfl
      · show Replay.upcoming { r with cursor := r.span.stop } a = (r.upcoming a).goTo [] _
        rw [← hrest]
        exact Replay.upcoming_at h h.1 (Nat.le_refl _) _
    · obtain ⟨i, hcapture, hi, hbody, hrest⟩ := Replay.capture_of_some hsplit
      have hle : r.cursor ≤ i := Replay.ordered_of_capture hcapture
      have hlength : (a.slice ⟨r.cursor, i⟩).length = i - r.cursor :=
        Arena.length_slice (Nat.le_trans (Nat.le_of_lt hi) h.2)
      have hend : i = r.cursor + body.length := by
        rw [hbody] at hlength
        omega
      refine ⟨⟨.replay { r with cursor := i + 1 }, a⟩, ?_, ⟨hi, h.2⟩, ?_, (List.append_nil _).symm⟩
      · rw [capture_replay, hcapture, hend]
        rfl
      · show Replay.upcoming { r with cursor := i + 1 } a = (r.upcoming a).goTo rest body.length
        rw [← hrest]
        exact Replay.upcoming_at h (Nat.le_succ_of_le hle) hi body.length

/-- Capturing a block takes tokens away. -/
theorem capture_leadsTo (h : c.Settled) (opening : Token) (rebase : Bool) :
    (c.capture opening rebase).2.Settled ∧
      c.upcoming.LeadsTo (c.capture opening rebase).2.upcoming := by
  cases hsplit : splitBlock? 1 c.upcoming.tokens with
  | none =>
    obtain ⟨c', hcapture, hc', hrest, -⟩ := capture_upcoming h opening rebase hsplit
    rw [hcapture, hrest]
    exact ⟨hc', Upcoming.leadsTo_goTo List.nil_suffix _⟩
  | some cut =>
    obtain ⟨body, rest⟩ := cut
    obtain ⟨brace, htokens, -⟩ := splitBlock?_eq_some hsplit
    obtain ⟨c', hcapture, hc', hrest, -⟩ := capture_upcoming h opening rebase hsplit
    rw [hcapture, hrest]
    refine ⟨hc', Upcoming.leadsTo_goTo ⟨body ++ [brace], ?_⟩ _⟩
    rw [List.append_assoc, htokens]
    rfl

/-- A statement takes tokens away. -/
theorem statement_leadsTo {aliases : AliasTable} {first : Token} {c' : Cursor}
    {r : Except Failure Statement} (h : c.Settled)
    (hread : Parser.statement aliases first c = (r, c')) :
    c'.Settled ∧ c.upcoming.LeadsTo c'.upcoming := by
  refine (Parser.statement_keeps (P := fun e => e.Settled ∧ c.upcoming.LeadsTo e.upcoming)
    (fun he => ?_) (fun he => ?_) (fun opening rebase he => ?_) ⟨h, .refl _⟩ hread).1
  · obtain ⟨hsettled, hleads⟩ := next_leadsTo he.1
    exact ⟨hsettled, he.2.trans hleads⟩
  · obtain ⟨hsettled, hleads⟩ := peek_leadsTo he.1
    exact ⟨hsettled, he.2.trans hleads⟩
  · obtain ⟨hsettled, hleads⟩ := capture_leadsTo he.1 opening rebase
    exact ⟨hsettled, he.2.trans hleads⟩

-- ======== forks

/-- Two cursors from which the same is to come up to a fork, over arenas that have grown by the same
tokens. -/
structure Forked (a b : Arena) (v v' : List Token) (c d : Cursor) : Prop where
  settled : c.Settled ∧ d.Settled
  fork : ∃ u, c.upcoming.Fork u v v' d.upcoming
  grown : ∃ copied, c.arena.tokens.toList = a.tokens.toList ++ copied ∧
    d.arena.tokens.toList = b.tokens.toList ++ copied

/-- A cursor behind a fork: less is to come than what follows there. -/
def Past (v : List Token) (c : Cursor) : Prop :=
  c.Settled ∧ c.upcoming.tokens.length < v.length

/-- There is no way back in front of a fork. -/
theorem Past.leadsTo {v : List Token} {c' : Cursor} (h : c.Past v)
    (hc' : c'.Settled ∧ c.upcoming.LeadsTo c'.upcoming) : c'.Past v :=
  ⟨hc'.1, Nat.lt_of_le_of_lt hc'.2.tokens.length_le h.2⟩

namespace Forked

variable {a b : Arena} {v v' : List Token} {d : Cursor}

/-- The next tokens are the same, also right in front of the fork. -/
theorem next_matches (h : Forked a b v v' c d) : Token.Matches Eq c.next.1 d.next.1 := by
  obtain ⟨u, hfork⟩ := h.fork
  have hfirst := (next_upcoming h.settled.2).1
  rw [hfork.first_eq] at hfirst
  exact (next_upcoming h.settled.1).1.trans hfirst.symm

theorem next (h : Forked a b v v' c d) :
    c.next.2.Past v ∨ Forked a b v v' c.next.2 d.next.2 := by
  obtain ⟨-, hc, hnext⟩ := next_upcoming h.settled.1
  obtain ⟨-, hd, hnext'⟩ := next_upcoming h.settled.2
  obtain ⟨u, hfork⟩ := h.fork
  rcases hfork.next with hpast | hfork'
  · left
    refine ⟨hc, ?_⟩
    rw [hnext]
    exact hpast
  · right
    rw [← hnext, ← hnext'] at hfork'
    exact ⟨⟨hc, hd⟩, hfork', h.grown⟩

theorem peek (h : Forked a b v v' c d) : Forked a b v v' c.peek.2 d.peek.2 := by
  obtain ⟨-, hc, hpeek⟩ := peek_upcoming h.settled.1
  obtain ⟨-, hd, hpeek'⟩ := peek_upcoming h.settled.2
  refine ⟨⟨hc, hd⟩, ?_, h.grown⟩
  rw [hpeek, hpeek']
  exact h.fork

theorem grown_by (h : Forked a b v v' c d) {c' d' : Cursor} {ts : List Token}
    (hc : c'.arena.tokens.toList = c.arena.tokens.toList ++ ts)
    (hd : d'.arena.tokens.toList = d.arena.tokens.toList ++ ts) :
    ∃ copied, c'.arena.tokens.toList = a.tokens.toList ++ copied ∧
      d'.arena.tokens.toList = b.tokens.toList ++ copied := by
  obtain ⟨copied, hgrown, hgrown'⟩ := h.grown
  refine ⟨copied ++ ts, ?_, ?_⟩
  · rw [hc, hgrown, List.append_assoc]
  · rw [hd, hgrown', List.append_assoc]

/-- A block that is captured ends in front of the fork, or both are at their end, or the block reaches
behind the fork. -/
theorem capture (h : Forked a b v v' c d) (opening : Token) (rebase : Bool) :
    AgreeUntil (Past v) (Forked a b v v') Eq (fun _ _ => Eq) (c.capture opening rebase)
      (d.capture opening rebase) := by
  obtain ⟨u, hfork⟩ := h.fork
  cases hsplit : splitBlock? 1 u with
  | some cut =>
    obtain ⟨body, rest⟩ := cut
    have hcut := splitBlock?_append hsplit v
    have hcut' := splitBlock?_append hsplit v'
    rw [← hfork.tokens.1] at hcut
    rw [← hfork.tokens.2] at hcut'
    obtain ⟨c', hcapture, hc', hrest, hcopy⟩ := capture_upcoming h.settled.1 opening rebase hcut
    obtain ⟨d', hcapture', hd', hrest', hcopy'⟩ := capture_upcoming h.settled.2 opening rebase hcut'
    rw [hcapture, hcapture', blockOf, blockOf, hfork.place, hfork.bindings]
    rw [hfork.copy_eq] at hcopy'
    refine .inr (.ok rfl ⟨⟨hc', hd'⟩, ⟨rest, ?_⟩, h.grown_by hcopy hcopy'⟩)
    rw [hrest, hrest']
    exact hfork.goTo rest body.length
  | none =>
    cases hcut : splitBlock? 1 c.upcoming.tokens with
    | some cut =>
      obtain ⟨body, rest⟩ := cut
      obtain ⟨c', hcapture, hc', hrest, -⟩ := capture_upcoming h.settled.1 opening rebase hcut
      rw [hcapture]
      refine .inl ⟨hc', ?_⟩
      rw [hfork.tokens.1] at hcut
      rw [hrest]
      exact splitBlock?_append_of_none hsplit hcut
    | none =>
      obtain ⟨c', hcapture, hc', hrest, hcopy⟩ := capture_upcoming h.settled.1 opening rebase hcut
      rw [hcapture]
      cases v with
      | cons t ts =>
        refine .inl ⟨hc', ?_⟩
        rw [hrest]
        exact Nat.succ_pos _
      | nil =>
        have hend : v' = [] := List.head?_eq_none_iff.1 hfork.ahead
        subst hend
        have htokens : d.upcoming.tokens = c.upcoming.tokens := hfork.tokens.2.trans hfork.tokens.1.symm
        obtain ⟨d', hcapture', hd', hrest', hcopy'⟩ :=
          capture_upcoming h.settled.2 opening rebase (htokens ▸ hcut)
        rw [hcapture']
        rw [htokens, hfork.copy_eq] at hcopy'
        refine .inr (.error rfl ⟨⟨hc', hd'⟩, ⟨[], ?_⟩, h.grown_by hcopy hcopy'⟩)
        rw [hrest, hrest', htokens]
        exact hfork.goTo [] _

/-- Cursors in front of a fork cannot be told apart, until one is past it. -/
theorem simulation (a b : Arena) (v v' : List Token) :
    SimulationUntil (Past v) (Forked a b v v') Eq fun _ _ => Eq where
  next h := h.next.imp_right fun h' => ⟨h.next_matches, h'⟩
  peek h := by
    refine ⟨?_, h.peek⟩
    rw [(peek_upcoming h.settled.1).1, (peek_upcoming h.settled.2).1]
    exact h.next_matches
  fault _ _ := rfl
  capture opening rebase h := h.capture opening rebase
  lost_next h := h.leadsTo (next_leadsTo h.1)
  lost_peek h := h.leadsTo (peek_leadsTo h.1)
  lost_capture opening rebase h := h.leadsTo (capture_leadsTo h.1 opening rebase)

/-- A statement that does not end past the fork is the same from both, and leads to the same place. -/
theorem statement (h : Forked a b v v' c d) {aliases : AliasTable} {first : Token} {c' : Cursor}
    {r : Except Failure Statement} (hread : Parser.statement aliases first c = (r, c'))
    (hend : ¬c'.Past v) :
    ∃ d', Parser.statement aliases first d = (r, d') ∧ Forked a b v v' c' d' := by
  have hagree := Parser.Faithful.statement aliases first (simulation a b v v') h
  rw [hread] at hagree
  generalize Parser.statement aliases first d = y at hagree
  cases hagree.resolve_left hend with
  | ok hst hR =>
    rw [hst.eq]
    exact ⟨_, rfl, hR⟩
  | error hF hR =>
    rw [hF]
    exact ⟨_, rfl, hR⟩

end Forked

-- ======== segments

/-- The tokens that a statement takes away are a segment, with its first token at the front. -/
theorem statement_segment {aliases : AliasTable} {c' : Cursor} {r : Except Failure Statement}
    (h : c.Settled) (hmore : c.next.1.isFinish = false)
    (hread : Parser.statement aliases c.next.1 c.next.2 = (r, c')) :
    c'.Settled ∧ c.upcoming.LeadsTo c'.upcoming ∧
      ∃ segment, segment ≠ [] ∧ c.upcoming.tokens = segment ++ c'.upcoming.tokens := by
  obtain ⟨hfirst, hsettled, hnext⟩ := next_upcoming h
  obtain ⟨hc', hleads⟩ := statement_leadsTo hsettled hread
  refine ⟨hc', (next_leadsTo h).2.trans hleads, ?_⟩
  cases htokens : c.upcoming.tokens with
  | nil =>
    -- at the end, the first token is the end token
    rw [Upcoming.first_of_nil htokens] at hfirst
    rw [← hfirst.isFinish_eq] at hmore
    cases hmore
  | cons t ts =>
    obtain ⟨operands, hoperands⟩ := hleads.tokens
    have hrest : c.next.2.upcoming.tokens = ts := by
      rw [hnext, htokens]
      rfl
    refine ⟨t :: operands, List.cons_ne_nil _ _, ?_⟩
    rw [List.cons_append, hoperands, hrest]

end Cursor

/-- Statements read one after the other, each where the one before has led to, with the segment of
tokens that it takes. -/
inductive Segmented : Cursor → AliasTable → List (List Token × OutlineEntry) → Cursor → Prop
  | nil (c : Cursor) (aliases : AliasTable) : Segmented c aliases [] c
  | parsed {c c₁ c' : Cursor} {aliases : AliasTable} {st : Statement} {segment : List Token}
      {cuts : List (List Token × OutlineEntry)} : c.next.1.isFinish = false →
      Parser.statement aliases c.next.1 c.next.2 = (.ok st, c₁) → segment ≠ [] →
      c.upcoming.tokens = segment ++ c₁.upcoming.tokens → Segmented c₁ (aliases.after st) cuts c' →
      Segmented c aliases ((segment, .parsed c.next.1.line st) :: cuts) c'
  | faulty {c c₁ c' : Cursor} {aliases : AliasTable} {f : Failure} {segment : List Token}
      {cuts : List (List Token × OutlineEntry)} : c.next.1.isFinish = false →
      Parser.statement aliases c.next.1 c.next.2 = (.error f, c₁) → segment ≠ [] →
      c.upcoming.tokens = segment ++ c₁.upcoming.tokens → Segmented c₁ aliases cuts c' →
      Segmented c aliases ((segment, .faulty f) :: cuts) c'

namespace Segmented

variable {c c' : Cursor} {aliases : AliasTable} {cuts : List (List Token × OutlineEntry)}

/-- The segments and what is left make up the tokens that were to come. -/
theorem tokens_eq (h : Segmented c aliases cuts c') :
    c.upcoming.tokens = cuts.flatMap (·.1) ++ c'.upcoming.tokens := by
  induction h with
  | nil => rfl
  | parsed _ _ _ htokens _ ih => rw [htokens, ih, List.flatMap_cons, List.append_assoc]
  | faulty _ _ _ htokens _ ih => rw [htokens, ih, List.flatMap_cons, List.append_assoc]

end Segmented

namespace Outline

/-- The entries of an outline are those that were taken, up to the end token or, where reading does not
go on behind faults, up to the first fault. -/
def EndsAt (resume : Bool) (entries taken : List OutlineEntry) (c : Cursor) : Prop :=
  entries = taken ++ [.finished c.next.1.line] ∧ c.next.1.isFinish = true ∨
    resume = false ∧ entries = taken ∧ ∃ f, taken.getLast? = some (.faulty f)

theorem EndsAt.cons {resume : Bool} {entries taken : List OutlineEntry} {c : Cursor}
    (h : EndsAt resume entries taken c) (entry : OutlineEntry) :
    EndsAt resume (entry :: entries) (entry :: taken) c := by
  rcases h with ⟨hentries, hfinish⟩ | ⟨hresume, hentries, f, hlast⟩
  · left
    exact ⟨by rw [hentries, List.cons_append], hfinish⟩
  · right
    refine ⟨hresume, by rw [hentries], f, ?_⟩
    rw [List.getLast?_cons, hlast]
    rfl

/-- Each entry of an outline has its segment. The induction is on the statements that are read. -/
theorem read_segmented (resume : Bool) (fuel : Nat) (c : Cursor) (aliases : AliasTable)
    (h : c.Settled) (hfuel : c.size < fuel) :
    ∃ cuts c', Segmented c aliases cuts c' ∧ c'.Settled ∧ c.upcoming.LeadsTo c'.upcoming ∧
      EndsAt resume (read resume fuel c aliases).entries (cuts.map (·.2)) c' := by
  induction fuel generalizing c aliases with
  | zero => omega
  | succ fuel ih =>
    rw [read_succ]
    cases hfinish : c.next.1.isFinish with
    | true => exact ⟨[], c, .nil c aliases, h, .refl _, .inl ⟨rfl, hfinish⟩⟩
    | false =>
      have hlt := c.size_next_lt hfinish
      rcases hread : Parser.statement aliases c.next.1 c.next.2 with ⟨f | st, c₁⟩
      · obtain ⟨hc₁, hleads, segment, hne, htokens⟩ := Cursor.statement_segment h hfinish hread
        have hle := Parser.size_statement_le hread
        cases resume with
        | false =>
          exact ⟨[(segment, .faulty f)], c₁, .faulty hfinish hread hne htokens (.nil c₁ aliases), hc₁,
            hleads, .inr ⟨rfl, rfl, f, rfl⟩⟩
        | true =>
          obtain ⟨cuts, c', hcuts, hc', hleads', hends⟩ := ih c₁ aliases hc₁ (by omega)
          exact ⟨_, c', .faulty hfinish hread hne htokens hcuts, hc', hleads.trans hleads',
            hends.cons (.faulty f)⟩
      · obtain ⟨hc₁, hleads, segment, hne, htokens⟩ := Cursor.statement_segment h hfinish hread
        have hle := Parser.size_statement_le hread
        obtain ⟨cuts, c', hcuts, hc', hleads', hends⟩ := ih c₁ (aliases.after st) hc₁ (by omega)
        exact ⟨_, c', .parsed hfinish hread hne htokens hcuts, hc', hleads.trans hleads',
          hends.cons (.parsed c.next.1.line st)⟩

/-- An outline cuts the tokens of its source into segments. Where no token is delivered as an end token,
it ends behind all of them. -/
theorem ofCursor_segmented (c : Cursor) (aliases : AliasTable) (resume : Bool) (h : c.Settled) :
    ∃ cuts c', Segmented c aliases cuts c' ∧
      c.upcoming.tokens = cuts.flatMap (·.1) ++ c'.upcoming.tokens ∧
      EndsAt resume (ofCursor c aliases resume).entries (cuts.map (·.2)) c' ∧
      ((∀ t ∈ c.upcoming.tokens, (t.substitute c.upcoming.bindings).isFinish = false) →
        c'.next.1.isFinish = true → c'.upcoming.tokens = []) := by
  obtain ⟨cuts, c', hcuts, hc', hleads, hends⟩ :=
    read_segmented resume (c.size + 1) c aliases h (Nat.lt_succ_self _)
  refine ⟨cuts, c', hcuts, hcuts.tokens_eq, hends, fun hmore hfinish => ?_⟩
  cases htokens : c'.upcoming.tokens with
  | nil => rfl
  | cons t ts =>
    have hfirst := (Cursor.next_upcoming hc').1.isFinish_eq
    have ht : t ∈ c.upcoming.tokens := hleads.tokens.subset (htokens ▸ List.mem_cons_self)
    rw [Upcoming.first_of_cons htokens, hleads.bindings, hmore t ht, hfinish] at hfirst
    cases hfirst

/-- All tokens of a text are in a segment, if reading goes on behind faults. -/
theorem ofText_segmented (lexicon : Lexicon) (text : String) (a : Arena) (aliases : AliasTable) :
    ∃ cuts c', Segmented ⟨.ofText lexicon text, a⟩ aliases cuts c' ∧
      (tokenize lexicon text).filter (!·.isFinish) = cuts.flatMap (·.1) ∧
      (ofCursor ⟨.ofText lexicon text, a⟩ aliases true).entries =
        cuts.map (·.2) ++ [.finished c'.next.1.line] := by
  have hsettled : Cursor.Settled ⟨.ofText lexicon text, a⟩ := by
    intro t hahead
    cases hahead
  obtain ⟨cuts, c', hcuts, htokens, hends, hall⟩ := ofCursor_segmented _ aliases true hsettled
  rcases hends with ⟨hentries, hfinish⟩ | ⟨hresume, -⟩
  · have hmore : ∀ t ∈ (Scanner.ofText lexicon text).pending, (t.substitute {}).isFinish = false := by
      intro t ht
      rw [Token.substitute_empty]
      exact Scanner.isFinish_pending ht
    rw [hall hmore hfinish, List.append_nil] at htokens
    exact ⟨cuts, c', hcuts, htokens, hentries⟩
  · cases hresume

end Outline

/-- A statement depends on the tokens that it takes and on the one that follows. Where it ends exactly
behind `u`, the same statement or failure is read from every source that goes on differently behind `u`
but for the first token there, it ends behind `u` too, and it copies the same tokens. So the statements
of a source cut its tokens into segments, none of them empty, and those of a text leave none out. -/
theorem reading_local :
    (∀ (aliases : AliasTable) (first : Token) (u v v' : List Token) (c d c' : Cursor)
        (r : Except Failure Statement), c.Settled → d.Settled → c.upcoming.Fork u v v' d.upcoming →
      Parser.statement aliases first c = (r, c') → c'.upcoming.tokens = v →
      ∃ d' copied, Parser.statement aliases first d = (r, d') ∧ c'.Settled ∧ d'.Settled ∧
        c'.upcoming.Fork [] v v' d'.upcoming ∧
        c'.arena.tokens.toList = c.arena.tokens.toList ++ copied ∧
        d'.arena.tokens.toList = d.arena.tokens.toList ++ copied) ∧
    (∀ (c : Cursor) (aliases : AliasTable) (resume : Bool), c.Settled →
      ∃ cuts c', Segmented c aliases cuts c' ∧
        c.upcoming.tokens = cuts.flatMap (·.1) ++ c'.upcoming.tokens ∧
        Outline.EndsAt resume (Outline.ofCursor c aliases resume).entries (cuts.map (·.2)) c' ∧
        ((∀ t ∈ c.upcoming.tokens, (t.substitute c.upcoming.bindings).isFinish = false) →
          c'.next.1.isFinish = true → c'.upcoming.tokens = [])) ∧
    ∀ (lexicon : Lexicon) (text : String) (a : Arena) (aliases : AliasTable),
      ∃ cuts c', Segmented ⟨.ofText lexicon text, a⟩ aliases cuts c' ∧
        (tokenize lexicon text).filter (!·.isFinish) = cuts.flatMap (·.1) ∧
        (Outline.ofCursor ⟨.ofText lexicon text, a⟩ aliases true).entries =
          cuts.map (·.2) ++ [.finished c'.next.1.line] := by
  refine ⟨?_, Outline.ofCursor_segmented, Outline.ofText_segmented⟩
  intro aliases first u v v' c d c' r hc hd hfork hread hexact
  have hstart : Cursor.Forked c.arena d.arena v v' c d :=
    ⟨⟨hc, hd⟩, ⟨u, hfork⟩, [], (List.append_nil _).symm, (List.append_nil _).symm⟩
  have hend : ¬c'.Past v := fun hpast => Nat.ne_of_lt hpast.2 (congrArg List.length hexact)
  obtain ⟨d', hread', hforked⟩ := hstart.statement hread hend
  obtain ⟨w, hfork'⟩ := hforked.fork
  obtain ⟨copied, hgrown, hgrown'⟩ := hforked.grown
  have hw : w = [] := List.append_left_eq_self.1 (hfork'.tokens.1.symm.trans hexact)
  subst hw
  exact ⟨d', copied, hread', hforked.settled.1, hforked.settled.2, hfork', hgrown, hgrown'⟩

/-- A replay of tokens from its start. -/
def Cursor.ofTokens (tokens : List Token) : Cursor :=
  ⟨.ofBlock ⟨⟨0, tokens.length⟩, {}⟩, ⟨tokens.toArray⟩⟩

/-- What follows `alias` where an alias is defined: its name, and its body in braces. -/
def greeting : List Token :=
  [.word "greet" 1, .symbol '\x7b' 1, .word "echo" 1, .word "welcome" 1, .symbol '\x7d' 1]

/-- An alias is defined in the same way, and its body is the same, whatever comes behind the word that
follows it. -/
theorem reading_local_alias :
    ∃ d', Parser.statement {} (.word "alias" 1)
        (.ofTokens (greeting ++ [.word "then" 1, .word "endif" 1])) =
          (.ok (.defineAlias { name := "greet", params := [], body := ⟨2, 4⟩ }), d') ∧
      d'.upcoming.tokens = [.word "then" 1, .word "endif" 1] := by
  obtain ⟨c', hread, hrest⟩ : ∃ c', Parser.statement {} (.word "alias" 1)
      (.ofTokens (greeting ++ [.word "then" 1, .word "displayed" 1, .word "no" 1])) =
        (.ok (.defineAlias { name := "greet", params := [], body := ⟨2, 4⟩ }), c') ∧
      c'.upcoming.tokens = [.word "then" 1, .word "displayed" 1, .word "no" 1] := ⟨_, rfl, rfl⟩
  obtain ⟨d', copied, hread', -, -, hfork, -⟩ := reading_local.1 {} (.word "alias" 1) greeting
    [.word "then" 1, .word "displayed" 1, .word "no" 1] [.word "then" 1, .word "endif" 1]
    (.ofTokens (greeting ++ [.word "then" 1, .word "displayed" 1, .word "no" 1]))
    (.ofTokens (greeting ++ [.word "then" 1, .word "endif" 1])) c' _
    ⟨by decide, by decide⟩ ⟨by decide, by decide⟩
    ⟨⟨rfl, rfl⟩, rfl, fun hend => absurd hend (List.cons_ne_nil _ _), rfl, rfl, rfl⟩ hread hrest
  exact ⟨d', hread', hfork.tokens.2⟩

end PageScript

/-
Scanned and replayed texts.

A text can be scanned while its statements are read, or it is cut into tokens first, which are kept in
the arena and replayed. Both ways the same statements are read, with the same faults between them. A
scanner looks ahead and copies the blocks that it captures; a replay counts places, and a block is a
part of it. What they have in common at every moment are the tokens that are still to come.
-/
import PageScript.Proofs.Statement.Outline
import PageScript.Proofs.Statement.Pending

namespace PageScript

/-- The same token on another line. -/
def Token.SameButLine (t u : Token) : Prop :=
  { t with line := u.line } = u

theorem Scanner.kept_sameButLine (t : Token) (base : Option Nat) : (kept t base).SameButLine t := by
  cases base <;> rfl

/-- The same failure, except for the line of an end token. -/
def Failure.SameButEnd (f g : Failure) : Prop :=
  f = g ∨ ∃ line line',
    f = .syntaxAt .unexpectedEnd (.finish line) ∧ g = .syntaxAt .unexpectedEnd (.finish line')

theorem Failure.syntaxAt_finish {t : Token} (h : t.isFinish = true) (fault : SyntaxFault) :
    syntaxAt fault t = syntaxAt fault (.finish t.line) := by
  have hkind : t.kind = .finish := of_decide_eq_true h
  have hdisplay : t.display = "<end of input>" := by rw [Token.display, hkind]
  rw [syntaxAt, syntaxAt, withToken, withToken]
  show Failure.mk _ _ _ _ = Failure.mk _ _ _ _
  rw [hdisplay]
  rfl

/-- Two blocks, each in its arena, that replay the same tokens up to the lines, without arguments. -/
structure SameBlock (a b : Arena) (x y : Block) : Prop where
  bindings : x.bindings = {} ∧ y.bindings = {}
  within : x.span.stop ≤ a.size ∧ y.span.stop ≤ b.size
  tokens : List.Forall₂ Token.SameButLine (a.slice x.span) (b.slice y.span)

theorem SameBlock.mono {a a' b b' : Arena} {x y : Block} (ha : a.Extends a') (hb : b.Extends b')
    (h : SameBlock a b x y) : SameBlock a' b' x y where
  bindings := h.bindings
  within := ⟨Nat.le_trans h.within.1 ha.size_le, Nat.le_trans h.within.2 hb.size_le⟩
  tokens := by
    rw [ha.slice_eq h.within.1, hb.slice_eq h.within.2]
    exact h.tokens

/-- A scanner and a replay without arguments have the same tokens still to come. -/
structure Reread (b : Arena) (s : Scanner) (r : Replay) : Prop where
  sound : s.Sound
  bindings : r.bindings = {}
  within : r.span.stop ≤ b.size
  pending : r.pending b = s.pending

namespace Reread

variable {a b : Arena} {s : Scanner} {r : Replay}

/-- They deliver the same token, or both are at their end. -/
theorem first_matches (h : Reread b s r) :
    Token.Matches Failure.SameButEnd s.next.1 (r.current b) := by
  cases hs : s.pending with
  | nil =>
    have hfinish := Scanner.next_of_pending_nil hs
    rw [(Replay.current_of_nil h.within (h.pending.trans hs)).1]
    exact .finish hfinish rfl (.inr ⟨_, _, Failure.syntaxAt_finish hfinish _, rfl⟩)
  | cons t ts =>
    obtain ⟨-, htoken, -⟩ := Scanner.next_of_pending_cons hs
    rw [(Replay.current_of_cons (h.pending.trans hs)).1, h.bindings, Token.substitute_empty, htoken]
    exact .same t

theorem advance (h : Reread b s r) : Reread b s.next.2 r.advance := by
  cases hs : s.pending with
  | nil =>
    have hr := h.pending.trans hs
    rw [(Replay.current_of_nil h.within hr).2]
    refine ⟨s.sound_next, h.bindings, h.within, ?_⟩
    rw [hr, Scanner.pending_next_of_finish h.sound (Scanner.next_of_pending_nil hs)]
  | cons t ts =>
    obtain ⟨-, hadvance, hrest⟩ := Replay.current_of_cons (h.pending.trans hs)
    obtain ⟨-, -, hrest'⟩ := Scanner.next_of_pending_cons hs
    rw [hadvance] at hrest ⊢
    exact ⟨s.sound_next, h.bindings, h.within, hrest.trans hrest'.symm⟩

theorem peek (h : Reread b s r) : Reread b s.peek.2 r :=
  ⟨Scanner.sound_peek h.sound, h.bindings, h.within, h.pending.trans s.pending_peek.symm⟩

/-- A block that the scanner copies is a part of what is replayed, or it has no end for both. -/
theorem capture (h : Reread b s r) (a : Arena) (base : Option Nat) :
    (∃ s' a' r', s.capture a base 1 = (false, s', a') ∧ r.capture b = (none, r') ∧
      Reread b s' r') ∨
    ∃ s' a' x r', s.capture a base 1 = (true, s', a') ∧ r.capture b = (some x, r') ∧
      SameBlock a' b ⟨⟨a.size, a'.size⟩, {}⟩ x ∧ Reread b s' r' := by
  cases hsplit : splitBlock? 1 s.pending with
  | none =>
    obtain ⟨s', a', hcapture, hsound, hrest, -⟩ := Scanner.capture_pending h.sound a base hsplit
    obtain ⟨hcapture', hrest'⟩ := Replay.capture_of_none (h.pending ▸ hsplit)
    refine .inl ⟨s', a', _, hcapture, hcapture', ?_⟩
    exact ⟨hsound, h.bindings, h.within, hrest'.trans hrest.symm⟩
  | some cut =>
    obtain ⟨body, rest⟩ := cut
    obtain ⟨s', a', hcapture, hsound, hrest, -, htokens⟩ := Scanner.capture_pending h.sound a base hsplit
    obtain ⟨i, hcapture', hi, hbody, hrest'⟩ :=
      Replay.capture_of_some (h.pending ▸ hsplit)
    refine .inr ⟨s', a', _, _, hcapture, hcapture', ⟨⟨rfl, h.bindings⟩, ⟨Nat.le_refl _, ?_⟩, ?_⟩,
      hsound, h.bindings, h.within, hrest'.trans hrest.symm⟩
    · exact Nat.le_trans (Nat.le_of_lt hi) h.within
    · rw [hbody, Arena.slice_grown htokens, List.forall₂_map_left_iff]
      exact List.forall₂_same.2 fun t _ => Scanner.kept_sameButLine ..

end Reread

/-- A cursor in a text, and one in a replay of what is to come of it. -/
inductive Rereads : Cursor → Cursor → Prop
  | intro {a b : Arena} {s : Scanner} {r : Replay} :
      Reread b s r → Rereads ⟨.text s, a⟩ ⟨.replay r, b⟩

theorem Rereads.simulation :
    Simulation Rereads Failure.SameButEnd fun c d => SameBlock c.arena d.arena where
  next := by
    rintro _ _ ⟨h⟩
    exact ⟨h.first_matches, .intro h.advance⟩
  peek := by
    rintro _ _ ⟨h⟩
    exact ⟨h.first_matches, .intro h.peek⟩
  fault _ _ := .inl rfl
  capture := by
    rintro ⟨_, a⟩ _ opening rebase ⟨h⟩
    rw [Cursor.capture_text, Cursor.capture_replay]
    obtain ⟨s', a', r', hcapture, hcapture', hrest⟩ | ⟨s', a', x, r', hcapture, hcapture', hx, hrest⟩ :=
      h.capture a (if rebase then some opening.line else none)
    · rw [hcapture, hcapture']
      exact .error (.inl rfl) (.intro hrest)
    · rw [hcapture, hcapture']
      exact .ok hx (.intro hrest)

/-- A text is read to the same outline whether it is scanned on the way or cut into tokens first. -/
theorem sources_agree (lexicon : Lexicon) (text : String) (aliases : AliasTable) (a b : Arena)
    (resume : Bool) :
    let scanned := Outline.ofCursor ⟨.ofText lexicon text, a⟩ aliases resume
    let kept := b.alloc ((tokenize lexicon text).filter (!·.isFinish))
    let replayed := Outline.ofCursor ⟨.ofBlock ⟨kept.1, {}⟩, kept.2⟩ aliases resume
    List.Forall₂ (OutlineEntry.Matches Failure.SameButEnd (SameBlock scanned.arena replayed.arena))
      scanned.entries replayed.entries := by
  intro scanned kept replayed
  have hstart : Rereads ⟨.ofText lexicon text, a⟩ ⟨.ofBlock ⟨kept.1, {}⟩, kept.2⟩ :=
    .intro ⟨nofun, rfl, Nat.le_refl _, Arena.slice_alloc ..⟩
  exact Outline.read_matches Rereads.simulation SameBlock.mono hstart (Nat.lt_succ_self _)
    (Nat.lt_succ_self _) fun _ => rfl

end PageScript

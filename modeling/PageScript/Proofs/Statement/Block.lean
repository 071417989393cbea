/-
The block that a brace opens.

Counting how deep the braces are finds the one closing brace with balanced tokens in front of it, and
there is no other such brace: what is closed once more than it was opened is so at one place first. A
scanner and a replay count alike, though one of them copies the block and the other points at it.

They differ in the lines. A scanner counts the lines of a copy from the opening brace where that is
asked for. A replay cannot, since the tokens it points at are shared with what it is a part of, and it
leaves the lines as they are.
-/
import PageScript.Proofs.Statement.Expansion
import PageScript.Proofs.Statement.Lookahead
import PageScript.Proofs.Statement.Sources
import PageScript.Proofs.Token.WellFormed

namespace PageScript

-- ======== matching braces

/-- Tokens begin with a balanced body and the brace that closes it; `rest` is what follows. -/
def CutsBlock (ts body rest : List Token) : Prop :=
  ∃ brace, ts = body ++ brace :: rest ∧ brace.isSymbol '\x7d' = true ∧ Balanced body

/-- Where each place of a body is at least one deep and its end exactly so, the next closing brace ends
the block. -/
theorem splitBlock?_of_depth {depth : Nat} {body rest : List Token} {brace : Token} (hdepth : 0 < depth)
    (hfronts : ∀ front, front <+: body → closed front < opened front + depth)
    (hend : closed body + 1 = opened body + depth) (hbrace : brace.isSymbol '\x7d' = true) :
    splitBlock? depth (body ++ brace :: rest) = some (body, rest) := by
  induction body generalizing depth with
  | nil =>
    have hone : depth = 1 := by simpa [opened, closed] using hend.symm
    rw [List.nil_append, splitBlock?, blockDepth?_eq_none.2 ⟨hbrace, Nat.le_of_eq hone⟩]
  | cons t body ih =>
    have hfirst := hfronts [t] (List.prefix_append [t] body)
    rw [List.cons_append, splitBlock?]
    cases hd : blockDepth? depth t with
    | none =>
      obtain ⟨hcloses, hle⟩ := blockDepth?_eq_none.1 hd
      have hopens := Token.isSymbol_of_other (d := '\x7b') hcloses (by decide)
      simp [opened, closed, hcloses, hopens] at hfirst
      omega
    | some depth' =>
      obtain ⟨hpos, hstep⟩ := blockDepth?_eq_some hd hdepth
      rw [opened_cons, closed_cons] at hend
      have hrest := ih hpos (fun front hfront => ?_) (by omega)
      · dsimp only
        rw [hrest]
        rfl
      · have := hfronts (t :: front) (List.cons_prefix_cons.2 ⟨rfl, hfront⟩)
        rw [opened_cons, closed_cons] at this
        omega

/-- Counting the depth finds what braces match. -/
theorem splitBlock?_eq_some_iff {ts body rest : List Token} :
    splitBlock? 1 ts = some (body, rest) ↔ CutsBlock ts body rest := by
  constructor
  · intro h
    obtain ⟨brace, hts, hbrace⟩ := splitBlock?_eq_some h
    exact ⟨brace, hts, hbrace, splitBlock?_balanced h⟩
  · rintro ⟨brace, rfl, hbrace, hbody⟩
    exact splitBlock?_of_depth Nat.one_pos (fun front hfront => Nat.lt_succ_of_le (hbody.1 front hfront))
      (congrArg (· + 1) hbody.2) hbrace

theorem CutsBlock.unique {ts body rest body' rest' : List Token} (h : CutsBlock ts body rest)
    (h' : CutsBlock ts body' rest') : body = body' ∧ rest = rest' := by
  have hsame := (splitBlock?_eq_some_iff.2 h).symm.trans (splitBlock?_eq_some_iff.2 h')
  exact Prod.mk.inj (Option.some.inj hsame)

theorem splitBlock?_eq_none_iff {ts : List Token} :
    splitBlock? 1 ts = none ↔ ∀ body rest, ¬CutsBlock ts body rest := by
  simp only [← splitBlock?_eq_some_iff, Option.eq_none_iff_forall_ne_some, Prod.forall]

-- ======== sources

/-- A source as it can be met with: a text or a replay, after whatever was asked of it, and over whatever
arena at each time. -/
inductive Source.Reached : Source → Prop
  | text (lexicon : Lexicon) (text : String) : Reached (.ofText lexicon text)
  | replay (r : Replay) : Reached (.replay r)
  | access {c : Cursor} (x : Access) : Reached c.source → Reached (c.access x).2.source

namespace Source

/-- The tokens that a source has still to deliver: of the text, or of the span as they are kept. -/
def pending (a : Arena) : Source → List Token
  | .text s => s.pending
  | .replay r => r.pending a

/-- What a source delivers of a token that is to come. -/
def delivered : Source → Token → Token
  | .text _, t => t
  | .replay r, t => t.substitute r.bindings

/-- What is kept of a token in a block. -/
def kept (opening : Token) (rebase : Bool) : Source → Token → Token
  | .text _, t => Scanner.kept t (if rebase then some opening.line else none)
  | .replay _, t => t

theorem kept_sameButLine (opening : Token) (rebase : Bool) (s : Source) (t : Token) :
    (s.kept opening rebase t).SameButLine t := by
  cases s with
  | text s => exact Scanner.kept_sameButLine ..
  | replay r => rfl

theorem kept_false (opening : Token) (s : Source) : s.kept opening false = id := by
  cases s <;> rfl

theorem line_delivered (s : Source) (t : Token) : (s.delivered t).line = t.line := by
  cases s with
  | text s => rfl
  | replay r => exact t.line_substitute r.bindings

/-- A scanner that has looked at the end token is at its end, and what it has looked at was scanned. -/
def Settled : Source → Prop
  | .text s => s.Sound ∧ ∀ t, s.ahead = some t → t.WellFormed
  | .replay _ => True

theorem settled_of_ahead {s : Scanner} (h : s.ahead = none) : Settled (.text s) := by
  refine ⟨fun t ht => ?_, fun t ht => ?_⟩ <;>
  · rw [h] at ht
    cases ht

theorem Reached.settled {s : Source} (h : s.Reached) : s.Settled := by
  induction h with
  | text lexicon text => exact settled_of_ahead rfl
  | replay r => trivial
  | @access c x _ ih =>
    rcases c with ⟨s | r, a⟩
    · cases x with
      | next => exact settled_of_ahead s.ahead_next
      | peek =>
        have hnext : s.next.1.WellFormed := by
          unfold Scanner.next
          split
          · next ht => exact ih.2 _ ht
          · exact s.lexicon.wellFormed_scan ..
        refine ⟨Scanner.sound_peek ih.1, ?_⟩
        rintro t ⟨⟩
        exact hnext
      | capture opening rebase =>
        obtain ⟨-, -, -, hahead, -⟩ := s.capture_copies a (if rebase then some opening.line else none) 1
        show Settled (Cursor.capture ⟨.text s, a⟩ opening rebase).2.source
        rw [Cursor.capture_text]
        exact settled_of_ahead hahead
    · cases x with
      | next => trivial
      | peek => trivial
      | capture opening rebase =>
        show Settled (Cursor.capture ⟨.replay r, a⟩ opening rebase).2.source
        rw [Cursor.capture_replay]
        trivial

theorem next_of_pending_cons {s : Source} {a : Arena} {t : Token} {ts : List Token}
    (h : s.pending a = t :: ts) :
    (s.next a).1 = s.delivered t ∧ (s.next a).2.pending a = ts ∧
      (s.next a).2.delivered = s.delivered := by
  cases s with
  | text s =>
    obtain ⟨-, htoken, hrest⟩ := Scanner.next_of_pending_cons h
    exact ⟨htoken, hrest, rfl⟩
  | replay r =>
    obtain ⟨htoken, hadvance, hrest⟩ := Replay.current_of_cons h
    refine ⟨htoken, hrest, ?_⟩
    show delivered (.replay r.advance) = _
    rw [hadvance]
    rfl

theorem next_of_pending_nil {s : Source} {a : Arena} (h : s.pending a = []) :
    (s.next a).1.isFinish = true := by
  cases s with
  | text s => exact Scanner.next_of_pending_nil h
  | replay r =>
    show (r.current a).isFinish = true
    rw [Replay.current_of_end h]
    rfl

/-- Read on and on, a source delivers what is to come in its order. -/
theorem token_of_pending {s : Source} {a : Arena} {k : Nat} {t : Token}
    (h : (s.pending a)[k]? = some t) : s.token a k = s.delivered t := by
  induction k generalizing s with
  | zero =>
    obtain ⟨ts, hts⟩ := List.head?_eq_some_iff.1 (List.head?_eq_getElem?.trans h)
    exact (next_of_pending_cons hts).1
  | succ k ih =>
    cases hpending : s.pending a with
    | nil => simp [hpending] at h
    | cons first ts =>
      obtain ⟨-, hrest, hdelivered⟩ := next_of_pending_cons hpending
      rw [hpending, List.getElem?_cons_succ] at h
      rw [← hdelivered]
      exact ih (hrest ▸ h)

theorem line_token_of_cut {s : Source} {a : Arena} {body rest : List Token}
    (h : CutsBlock (s.pending a) body rest) {k : Nat} {t : Token} (ht : body[k]? = some t) :
    (s.token a k).line = t.line := by
  obtain ⟨brace, hpending, -⟩ := h
  have hlt := (List.getElem?_eq_some_iff.1 ht).1
  have hk : (s.pending a)[k]? = some t := by rw [hpending, List.getElem?_append_left hlt, ht]
  rw [token_of_pending hk, line_delivered]

/-- A block that is closed: the arena keeps its tokens, and the source goes on behind the brace. -/
theorem capture_of_cut {s : Source} {a : Arena} {body rest : List Token} (hs : s.Settled)
    (h : CutsBlock (s.pending a) body rest) (opening : Token) (rebase : Bool) :
    ∃ block s' a', s.capture a opening rebase = (.ok block, s', a') ∧
      a'.slice block.span = body.map (s.kept opening rebase) ∧ s'.pending a' = rest ∧ a.Extends a' := by
  have hsplit := splitBlock?_eq_some_iff.2 h
  cases s with
  | text s =>
    obtain ⟨s', a', hcapture, -, hrest, -, htokens⟩ :=
      Scanner.capture_pending hs.1 a (if rebase then some opening.line else none) hsplit
    refine ⟨⟨⟨a.size, a'.size⟩, {}⟩, .text s', a', ?_, Arena.slice_grown htokens, hrest,
      ⟨_, htokens.symm⟩⟩
    rw [Source.capture, hcapture]
    rfl
  | replay r =>
    obtain ⟨i, hcapture, -, hbody, hrest⟩ := Replay.capture_of_some hsplit
    refine ⟨⟨⟨r.cursor, i⟩, r.bindings⟩, .replay { r with cursor := i + 1 }, a, ?_,
      hbody.trans (List.map_id _).symm, hrest, .refl a⟩
    rw [Source.capture, hcapture]

/-- A block that is never closed takes the source to its end. -/
theorem capture_of_no_cut {s : Source} {a : Arena} (hs : s.Settled)
    (h : ∀ body rest, ¬CutsBlock (s.pending a) body rest) (opening : Token) (rebase : Bool) :
    ∃ s' a', s.capture a opening rebase = (.error (.syntaxAt .unterminatedBlock opening), s', a') ∧
      s'.pending a' = [] ∧ a.Extends a' := by
  have hsplit := splitBlock?_eq_none_iff.2 h
  cases s with
  | text s =>
    obtain ⟨s', a', hcapture, -, hrest, -, htokens⟩ :=
      Scanner.capture_pending hs.1 a (if rebase then some opening.line else none) hsplit
    refine ⟨.text s', a', ?_, hrest, ⟨_, htokens.symm⟩⟩
    rw [Source.capture, hcapture]
    rfl
  | replay r =>
    obtain ⟨hcapture, hrest⟩ := Replay.capture_of_none hsplit
    refine ⟨.replay { r with cursor := r.span.stop }, a, ?_, hrest, .refl a⟩
    rw [Source.capture, hcapture]

theorem capture_ok_iff {s : Source} {a : Arena} (hs : s.Settled) (opening : Token) (rebase : Bool) :
    (∃ block, (s.capture a opening rebase).1 = .ok block) ↔
      ∃ body rest, CutsBlock (s.pending a) body rest := by
  constructor
  · rintro ⟨block, hblock⟩
    by_contra hnone
    obtain ⟨s', a', hcapture, -⟩ :=
      capture_of_no_cut hs (fun body rest h => hnone ⟨body, rest, h⟩) opening rebase
    rw [hcapture] at hblock
    cases hblock
  · rintro ⟨body, rest, h⟩
    obtain ⟨block, s', a', hcapture, -⟩ := capture_of_cut hs h opening rebase
    exact ⟨block, by rw [hcapture]⟩

theorem wellFormed_pending {s : Source} {a : Arena} (hs : s.Settled)
    (hreplay : ∀ r, s = .replay r → ∀ t ∈ r.pending a, t.WellFormed) :
    ∀ t ∈ s.pending a, t.WellFormed := by
  cases s with
  | text s =>
    intro t ht
    exact Scanner.forall_drain s.lexicon.wellFormed_scan hs.2 t (List.mem_of_mem_filter ht)
  | replay r => exact hreplay r rfl

end Source

-- ======== blocks

/-- Tokens in quotes are words, and no braces. -/
theorem Token.WellFormed.uncounted {t : Token} (h : t.WellFormed) (hquote : t.quote.isSome = true) :
    opened [t] = 0 ∧ closed [t] = 0 := by
  have hkind := h.word_of_quote hquote
  simp [opened, closed, isSymbol, hkind]

/-- The capture of a block finds the matching brace, whatever the source is and wherever it is at. It
succeeds just if the tokens to come begin with balanced ones and a closing brace, which they do in one
way at most. The block then holds those tokens, up to their lines, and the source goes on with the token
behind the brace. Otherwise the failure carries the opening token, and the source is at its end. Either
way the arena is only added to. No token in quotes is counted, of a text or of well-formed
tokens that are replayed. -/
theorem capture_finds_matching_brace {s : Source} (hs : s.Reached) (a : Arena) (opening : Token)
    (rebase : Bool) :
    ((∃ block, (s.capture a opening rebase).1 = .ok block) ↔
      ∃ body rest, CutsBlock (s.pending a) body rest) ∧
    (∀ body rest, CutsBlock (s.pending a) body rest →
      (∀ body' rest', CutsBlock (s.pending a) body' rest' → body' = body ∧ rest' = rest) ∧
      ∃ block s' a', s.capture a opening rebase = (.ok block, s', a') ∧
        List.Forall₂ Token.SameButLine (a'.slice block.span) body ∧
        (rebase = false → a'.slice block.span = body) ∧
        s'.pending a' = rest ∧ (∀ t ∈ rest.head?, (s'.next a').1 = s'.delivered t) ∧
        (rest = [] → (s'.next a').1.isFinish = true) ∧ ∀ i < a.size, a'.get? i = a.get? i) ∧
    ((∀ body rest, ¬CutsBlock (s.pending a) body rest) →
      ∃ s' a', s.capture a opening rebase = (.error (.syntaxAt .unterminatedBlock opening), s', a') ∧
        s'.pending a' = [] ∧ (s'.next a').1.isFinish = true ∧ ∀ i < a.size, a'.get? i = a.get? i) ∧
    ((∀ r, s = .replay r → ∀ t ∈ r.pending a, t.WellFormed) →
      ∀ t ∈ s.pending a, t.quote.isSome = true → opened [t] = 0 ∧ closed [t] = 0) := by
  refine ⟨Source.capture_ok_iff hs.settled opening rebase,
    fun body rest h => ⟨fun _ _ h' => h'.unique h, ?_⟩, fun h => ?_, fun hreplay t ht => ?_⟩
  · obtain ⟨block, s', a', hcapture, hslice, hrest, hgrown⟩ :=
      Source.capture_of_cut hs.settled h opening rebase
    refine ⟨block, s', a', hcapture, ?_, fun hsame => ?_, hrest, fun t ht => ?_, fun hnil => ?_,
      fun i => hgrown.get?_eq⟩
    · rw [hslice, List.forall₂_map_left_iff]
      exact List.forall₂_same.2 fun t _ => s.kept_sameButLine opening rebase t
    · rw [hslice, hsame, Source.kept_false, List.map_id]
    · obtain ⟨ts, hts⟩ := List.head?_eq_some_iff.1 ht
      exact (Source.next_of_pending_cons (hrest.trans hts)).1
    · exact Source.next_of_pending_nil (hrest.trans hnil)
  · obtain ⟨s', a', hcapture, hrest, hgrown⟩ := Source.capture_of_no_cut hs.settled h opening rebase
    exact ⟨s', a', hcapture, hrest, Source.next_of_pending_nil hrest, fun i => hgrown.get?_eq⟩
  · exact (Source.wellFormed_pending hs.settled hreplay t ht).uncounted

/-- A brace in quotes, braces inside, and one brace too many. -/
theorem capture_finds_matching_brace_nested :
    let s : Source := .ofText {} "a \x7b \"\x7d\" \x7d \x7d \x7d b"
    s.Reached ∧ (s.pending {}).map (·.text) = ["a", "\x7b", "\x7d", "\x7d", "\x7d", "\x7d", "b"] ∧
      (s.capture {} (.symbol '\x7b' 1) true).2.2.tokens.toList.map (·.text) =
        ["a", "\x7b", "\x7d", "\x7d"] ∧
      ∃ body rest, CutsBlock (s.pending {}) body rest := by
  intro s
  have hs : s.Reached := .text ..
  have hok : (s.capture {} (.symbol '\x7b' 1) true).1.isOk = true := by decide +kernel
  have hiff := (capture_finds_matching_brace hs {} (.symbol '\x7b' 1) true).1
  refine ⟨hs, by decide +kernel, by decide +kernel, hiff.1 ?_⟩
  cases hcapture : (s.capture {} (.symbol '\x7b' 1) true).1 with
  | ok block => exact ⟨block, rfl⟩
  | error f =>
    rw [hcapture] at hok
    cases hok

-- ======== lines

/-- A line that counting from the line of the opening brace leaves as it is. -/
theorem line_rebased_iff {line base : Nat} :
    line = line - base + 1 ↔ base = 1 ∧ 1 ≤ line ∨ line = 1 ∧ 1 ≤ base := by
  omega

/-- The tokens of a captured block have the lines at which they would have been delivered, counted from
that of the opening brace, if the block is one of a text. In a block that is replayed the lines are left
alone, so there this holds just if counting changes nothing: for each token, the brace is on the first
line of what is replayed, or the token is. -/
theorem lines_rebased_iff {s s' : Source} {a a' : Arena} {opening : Token} {block : Block}
    (hs : s.Reached) (h : s.capture a opening true = (.ok block, s', a')) :
    (∀ k t, (a'.slice block.span)[k]? = some t → t.line = (s.token a k).line - opening.line + 1) ↔
      (∃ scanner, s = .text scanner) ∨
        ∀ t ∈ a'.slice block.span, opening.line = 1 ∧ 1 ≤ t.line ∨ t.line = 1 ∧ 1 ≤ opening.line := by
  obtain ⟨body, rest, hcut⟩ :=
    (Source.capture_ok_iff hs.settled opening true).1 ⟨block, congrArg Prod.fst h⟩
  obtain ⟨_, _, _, hcapture, hslice, -⟩ := Source.capture_of_cut hs.settled hcut opening true
  cases h.symm.trans hcapture
  have hline : ∀ {k t}, body[k]? = some t → (s.token a k).line = t.line :=
    Source.line_token_of_cut hcut
  rw [hslice]
  cases s with
  | text s =>
    refine iff_of_true (fun k t ht => ?_) (.inl ⟨s, rfl⟩)
    rw [List.getElem?_map] at ht
    obtain ⟨u, hu, rfl⟩ := Option.map_eq_some_iff.1 ht
    rw [hline hu]
    rfl
  | replay r =>
    rw [show body.map (Source.kept opening true (.replay r)) = body from List.map_id _]
    constructor
    · intro hall
      refine .inr fun t ht => ?_
      obtain ⟨k, hk⟩ := List.mem_iff_getElem?.1 ht
      exact line_rebased_iff.1 ((hall k t hk).trans (by rw [hline hk]))
    · rintro (⟨_, ⟨⟩⟩ | hall) k t hk
      rw [hline hk]
      exact line_rebased_iff.2 (hall t (List.mem_of_getElem? hk))

/-- In a definition that is replayed, the brace is on the third line and the block on the fourth, where it
stays. -/
theorem lines_rebased_iff_replayed :
    let a : Arena := ⟨#[.word "x" 4, .symbol '\x7d' 5]⟩
    let s : Source := .replay ⟨⟨0, 2⟩, 0, {}⟩
    let opening : Token := .symbol '\x7b' 3
    ∃ block s' a', s.capture a opening true = (.ok block, s', a') ∧
      (a'.slice block.span).map (·.line) = [4] ∧
      ¬∀ k t, (a'.slice block.span)[k]? = some t → t.line = (s.token a k).line - opening.line + 1 := by
  intro a s opening
  have hcapture : s.capture a opening true =
      (.ok ⟨⟨0, 1⟩, {}⟩, .replay ⟨⟨0, 2⟩, 2, {}⟩, a) := rfl
  refine ⟨_, _, _, hcapture, rfl, fun hall => ?_⟩
  rcases (lines_rebased_iff (.replay _) hcapture).1 hall with ⟨_, ⟨⟩⟩ | hlines
  have hfirst := hlines (.word "x" 4) (List.mem_singleton.2 rfl)
  simp [opening, Token.symbol, Token.word] at hfirst

end PageScript

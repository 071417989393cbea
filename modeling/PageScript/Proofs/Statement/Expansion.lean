/-
Arguments in place of parameters.

A block is kept as it was written, and arguments are put in where it is replayed, token by token. This
comes to the same as a copy of the block in which every token has been replaced beforehand. The one
thing that could tell them apart are braces, which are matched as they were written: an argument that
is a brace would count in the copy. A loop in the block takes the arguments along, so that what holds
of the block holds of the loops in it, at any depth.
-/
import PageScript.Proofs.Statement.Outline
import PageScript.Proofs.Statement.Pending

namespace PageScript

-- ======== arguments

/-- No argument is a brace. -/
def Bindings.BraceFree (b : Bindings) : Prop :=
  ∀ name t, b.get? name = some t → t.isSymbol '\x7b' = false ∧ t.isSymbol '\x7d' = false

namespace Token

theorem isSymbol_of_kind {t : Token} (h : t.kind ≠ .symbol) (c : Char) : t.isSymbol c = false := by
  rw [isSymbol, decide_eq_false h, Bool.false_and]

theorem isSymbol_standIn {argument place : Token} {whole : Bool} {c : Char}
    (h : argument.isSymbol c = false) : (argument.standIn whole place).isSymbol c = false := by
  unfold standIn
  split
  · split
    · rfl
    · exact h
  · exact h

/-- What arguments are put in for is a word, and it becomes a brace only if an argument is one. -/
theorem isSymbol_substitute {b : Bindings} {c : Char}
    (h : ∀ name t, b.get? name = some t → t.isSymbol c = false) (t : Token) :
    (t.substitute b).isSymbol c = t.isSymbol c := by
  by_cases hsame : t.kind ≠ .word ∨ b.isEmpty ∨ '$' ∉ t.text.toList
  · rw [substitute, if_pos hsame]
  · have hkind : t.kind = .word := by
      by_contra hkind
      exact hsame (.inl hkind)
    have hword : ∀ {u : Token}, u.kind = .word → u.isSymbol c = false :=
      fun hu => isSymbol_of_kind (by rw [hu]; nofun) c
    rw [substitute, if_neg hsame, hword hkind]
    dsimp only
    split
    · split
      · next hget => exact isSymbol_standIn (h _ _ hget)
      · exact hword hkind
    · exact hword hkind

theorem line_substitute (t : Token) (b : Bindings) : (t.substitute b).line = t.line := by
  unfold substitute
  split
  · rfl
  · dsimp only
    split
    · split
      · unfold standIn
        split
        · split <;> rfl
        · rfl
      · rfl
    · rfl

end Token

theorem Bindings.BraceFree.blockDepth?_eq {b : Bindings} (h : b.BraceFree) (depth : Nat) (t : Token) :
    blockDepth? depth (t.substitute b) = blockDepth? depth t := by
  rw [blockDepth?, blockDepth?, Token.isSymbol_substitute fun name t hget => (h name t hget).1,
    Token.isSymbol_substitute fun name t hget => (h name t hget).2]

-- ======== expansion

/-- The tokens that a block replays. -/
def Block.tokens (a : Arena) (b : Block) : List Token :=
  (a.slice b.span).map (·.substitute b.bindings)

/-- The entries of two outlines are the same, one read with arguments put in and the other from a copy.
Loops replay the same tokens, and what is read in them is again the same, whatever the aliases are. A
definition in the copy has a body in which the arguments have been put in. -/
inductive Expands (a : Arena) (b : Bindings) : OutlineEntry → OutlineEntry → Prop
  | statement {line : Nat} {st : Statement} :
      st.holdsBlock = false → Expands a b (.parsed line st) (.parsed line st)
  | definition {line : Nat} {name : String} {params : List String} {body body' : Span} :
      a.slice body' = (a.slice body).map (·.substitute b) →
      Expands a b (.parsed line (.defineAlias ⟨name, params, body⟩))
        (.parsed line (.defineAlias ⟨name, params, body'⟩))
  | loop {line : Nat} {x y : Block} : x.tokens a = y.tokens a →
      (∀ aliases resume, List.Forall₂ (Expands a b)
        (Outline.ofCursor ⟨.ofBlock x, a⟩ aliases resume).entries
        (Outline.ofCursor ⟨.ofBlock y, a⟩ aliases resume).entries) →
      Expands a b (.parsed line (.while x)) (.parsed line (.while y))
  | faulty (f : Failure) : Expands a b (.faulty f) (.faulty f)
  | finished (line line' : Nat) : Expands a b (.finished line) (.finished line')

/-- A block with arguments, of fewer than `bound` tokens, and a copy of it in which they have been put
in. -/
structure Copied (a : Arena) (b : Bindings) (bound : Nat) (x y : Block) : Prop where
  bindings : x.bindings = b ∧ y.bindings = {}
  within : x.span.stop ≤ a.size ∧ y.span.stop ≤ a.size
  tokens : a.slice y.span = (a.slice x.span).map (·.substitute b)
  length_lt : (a.slice x.span).length < bound

theorem Copied.tokens_eq {a : Arena} {b : Bindings} {bound : Nat} {x y : Block}
    (h : Copied a b bound x y) : x.tokens a = y.tokens a := by
  rw [Block.tokens, Block.tokens, h.bindings.1, h.bindings.2, h.tokens]
  simp only [Token.substitute_empty, List.map_id']

/-- A replay with arguments, of which at most `bound` tokens are to come, and one of a copy. -/
structure Twin (a : Arena) (b : Bindings) (bound : Nat) (r r' : Replay) : Prop where
  bindings : r.bindings = b ∧ r'.bindings = {}
  within : r.span.stop ≤ a.size ∧ r'.span.stop ≤ a.size
  pending : r'.pending a = (r.pending a).map (·.substitute b)
  finish : r'.finish a = r.finish a
  length_le : (r.pending a).length ≤ bound

namespace Twin

variable {a : Arena} {b : Bindings} {bound : Nat} {r r' : Replay}

theorem current_eq (h : Twin a b bound r r') : r'.current a = r.current a := by
  have hpending := h.pending
  cases hr : r.pending a with
  | nil =>
    rw [hr, List.map_nil] at hpending
    rw [(Replay.current_of_nil h.within.1 hr).1, (Replay.current_of_nil h.within.2 hpending).1,
      h.finish]
  | cons t ts =>
    rw [hr, List.map_cons] at hpending
    rw [(Replay.current_of_cons hr).1, (Replay.current_of_cons hpending).1, h.bindings.1,
      h.bindings.2, Token.substitute_empty]

theorem first_matches (h : Twin a b bound r r') :
    Token.Matches Eq (r.current a) (r'.current a) := by
  rw [h.current_eq]
  exact .same _

theorem advance (h : Twin a b bound r r') : Twin a b bound r.advance r'.advance := by
  have hpending := h.pending
  have hlength := h.length_le
  cases hr : r.pending a with
  | nil =>
    rw [hr, List.map_nil] at hpending
    rw [(Replay.current_of_nil h.within.1 hr).2, (Replay.current_of_nil h.within.2 hpending).2]
    exact h
  | cons t ts =>
    rw [hr, List.map_cons] at hpending
    rw [hr, List.length_cons] at hlength
    obtain ⟨-, hadvance, hrest⟩ := Replay.current_of_cons hr
    obtain ⟨-, hadvance', hrest'⟩ := Replay.current_of_cons hpending
    rw [hadvance] at hrest ⊢
    rw [hadvance'] at hrest' ⊢
    exact ⟨h.bindings, h.within, by rw [hrest, hrest'], h.finish, by rw [hrest]; omega⟩

/-- Braces are matched alike, since no argument is one. -/
theorem capture (hb : b.BraceFree) (h : Twin a b bound r r') :
    (r.capture a).1 = none ∧ (r'.capture a).1 = none ∧
      Twin a b bound (r.capture a).2 (r'.capture a).2 ∨
    ∃ x y, (r.capture a).1 = some x ∧ (r'.capture a).1 = some y ∧ Copied a b bound x y ∧
      Twin a b bound (r.capture a).2 (r'.capture a).2 := by
  have hlength := h.length_le
  have hsplit' := splitBlock?_map hb.blockDepth?_eq 1 (r.pending a)
  rw [← h.pending] at hsplit'
  cases hsplit : splitBlock? 1 (r.pending a) with
  | none =>
    rw [hsplit] at hsplit'
    obtain ⟨hcapture, hrest⟩ := Replay.capture_of_none hsplit
    obtain ⟨hcapture', hrest'⟩ := Replay.capture_of_none hsplit'
    rw [hcapture, hcapture']
    refine .inl ⟨rfl, rfl, h.bindings, h.within, ?_, h.finish, ?_⟩
    · rw [hrest, hrest', List.map_nil]
    · rw [hrest]
      exact Nat.zero_le _
  | some cut =>
    obtain ⟨body, rest⟩ := cut
    rw [hsplit] at hsplit'
    obtain ⟨i, hcapture, hi, hbody, hrest⟩ := Replay.capture_of_some hsplit
    obtain ⟨i', hcapture', hi', hbody', hrest'⟩ := Replay.capture_of_some hsplit'
    obtain ⟨brace, hcut, -⟩ := splitBlock?_eq_some hsplit
    rw [hcut, List.length_append, List.length_cons] at hlength
    rw [hcapture, hcapture']
    have hwithin := h.within
    refine .inr ⟨_, _, rfl, rfl, ⟨h.bindings, ?_, ?_, ?_⟩, h.bindings, h.within, ?_, h.finish, ?_⟩
    · exact ⟨Nat.le_trans (Nat.le_of_lt hi) h.within.1, Nat.le_trans (Nat.le_of_lt hi') h.within.2⟩
    · rw [hbody, hbody']
    · rw [hbody]
      omega
    · exact hrest'.trans (congrArg _ hrest.symm)
    · rw [Replay.pending, hrest]
      omega

/-- The start of a block that is not empty, and of its copy. -/
theorem of_copied {x y : Block} (h : Copied a b (bound + 1) x y) (hne : a.slice x.span ≠ []) :
    Twin a b bound (.ofBlock x) (.ofBlock y) := by
  have hne' : a.slice y.span ≠ [] := by
    rw [h.tokens]
    simpa using hne
  refine ⟨h.bindings, h.within, h.tokens, ?_, Nat.le_of_lt_succ h.length_lt⟩
  rw [Replay.finish_of_pending (r := .ofBlock x) h.within.1 hne,
    Replay.finish_of_pending (r := .ofBlock y) h.within.2 hne']
  show Token.finish (((a.slice y.span).getLast?.map (·.line)).getD 1) =
    Token.finish (((a.slice x.span).getLast?.map (·.line)).getD 1)
  rw [h.tokens, List.getLast?_map, Option.map_map]
  simp only [Function.comp_def, Token.line_substitute]

end Twin

/-- Cursors in twin replays. -/
inductive Twins (a : Arena) (b : Bindings) (bound : Nat) : Cursor → Cursor → Prop
  | intro {r r' : Replay} : Twin a b bound r r' → Twins a b bound ⟨.replay r, a⟩ ⟨.replay r', a⟩

theorem Twins.simulation {a : Arena} {b : Bindings} {bound : Nat} (hb : b.BraceFree) :
    Simulation (Twins a b bound) Eq fun _ _ => Copied a b bound where
  next := by
    rintro _ _ ⟨h⟩
    exact ⟨h.first_matches, .intro h.advance⟩
  peek := by
    rintro _ _ ⟨h⟩
    exact ⟨h.first_matches, .intro h⟩
  fault _ _ := rfl
  capture := by
    rintro _ _ opening rebase ⟨h⟩
    rw [Cursor.capture_replay, Cursor.capture_replay]
    obtain ⟨hnone, hnone', hrest⟩ | ⟨x, y, hsome, hsome', hcopied, hrest⟩ := h.capture hb
    · rw [hnone, hnone']
      exact .error rfl (.intro hrest)
    · rw [hsome, hsome']
      exact .ok hcopied (.intro hrest)

/-- Nothing is read from an empty block. -/
theorem Outline.entries_of_nil {a : Arena} {x : Block} (hstop : x.span.stop ≤ a.size)
    (h : a.slice x.span = []) (aliases : AliasTable) (resume : Bool) :
    ∃ line, (ofCursor ⟨.ofBlock x, a⟩ aliases resume).entries = [.finished line] := by
  have hcurrent := (Replay.current_of_nil (r := .ofBlock x) hstop h).1
  have hfinish : (Cursor.next ⟨.ofBlock x, a⟩).1.isFinish = true :=
    (congrArg Token.isFinish hcurrent).trans rfl
  exact ⟨_, by rw [ofCursor, read_succ, if_pos hfinish]⟩

/-- From a block with arguments and from its copy the same outline is read. The induction is on a bound
on the tokens of the block, of which the loops in it have fewer. -/
theorem Copied.expands {a : Arena} {b : Bindings} (hb : b.BraceFree) {bound : Nat} {x y : Block}
    (h : Copied a b bound x y) (aliases : AliasTable) (resume : Bool) :
    List.Forall₂ (Expands a b) (Outline.ofCursor ⟨.ofBlock x, a⟩ aliases resume).entries
      (Outline.ofCursor ⟨.ofBlock y, a⟩ aliases resume).entries := by
  induction bound generalizing x y aliases resume with
  | zero => exact absurd h.length_lt (Nat.not_lt_zero _)
  | succ bound ih =>
    by_cases hnil : a.slice x.span = []
    · have hnil' : a.slice y.span = [] := by rw [h.tokens, hnil, List.map_nil]
      obtain ⟨line, hx⟩ := Outline.entries_of_nil h.within.1 hnil aliases resume
      obtain ⟨line', hy⟩ := Outline.entries_of_nil h.within.2 hnil' aliases resume
      rw [hx, hy]
      exact .cons (.finished ..) .nil
    · have hsame : List.Forall₂ (OutlineEntry.Matches Eq (Copied a b bound))
          (Outline.ofCursor ⟨.ofBlock x, a⟩ aliases resume).entries
          (Outline.ofCursor ⟨.ofBlock y, a⟩ aliases resume).entries :=
        Outline.read_matches (V := fun _ _ => Copied a b bound) (Twins.simulation hb)
          (fun _ _ hxy => hxy) (.intro (.of_copied h hnil)) (Nat.lt_succ_self _)
          (Nat.lt_succ_self _) fun _ => rfl
      refine hsame.imp fun entry entry' hentry => ?_
      cases hentry with
      | parsed hst =>
        cases hst with
        | same hblock => exact .statement hblock
        | definition hcopied => exact .definition hcopied.tokens
        | loop hcopied => exact .loop hcopied.tokens_eq (ih hcopied)
      | faulty hsame => exact hsame ▸ .faulty _
      | finished => exact .finished ..

/-- Putting arguments in is a substitution in the text. Whatever is read from a span with arguments, at
the top of it or in a loop at any depth, is read from a copy of the span in which every token has been
replaced once beforehand: the same statements, with the same faults between them. -/
theorem expansion_is_substitution (a : Arena) (span : Span) (b : Bindings) (aliases : AliasTable)
    (resume : Bool) (hspan : span.stop ≤ a.size) (hb : b.BraceFree) :
    let copy := a.alloc ((a.slice span).map (·.substitute b))
    List.Forall₂ (Expands copy.2 b)
      (Outline.ofCursor ⟨.ofBlock ⟨span, b⟩, copy.2⟩ aliases resume).entries
      (Outline.ofCursor ⟨.ofBlock ⟨copy.1, {}⟩, copy.2⟩ aliases resume).entries := by
  intro copy
  have hgrown : a.Extends copy.2 := .alloc ..
  have hcopied : Copied copy.2 b ((a.slice span).length + 1) ⟨span, b⟩ ⟨copy.1, {}⟩ := by
    refine ⟨⟨rfl, rfl⟩, ⟨Nat.le_trans hspan hgrown.size_le, Nat.le_refl _⟩, ?_, ?_⟩
    · rw [hgrown.slice_eq hspan]
      exact Arena.slice_alloc ..
    · rw [hgrown.slice_eq hspan]
      exact Nat.lt_succ_self _
  exact hcopied.expands hb aliases resume

/-- The body `while { echo $x }` of an alias. -/
def loopBody : Arena :=
  (Arena.alloc {} [.word "while" 1, .symbol '\x7b' 1, .word "echo" 2, .word "$x" 2,
    .symbol '\x7d' 3]).2

/-- The parameter in the loop is replaced as it is at the top. -/
theorem expansion_is_substitution_in_loop :
    let b : Bindings := Bindings.insert {} "x" (.word "hello" 9)
    let copy := loopBody.alloc ((loopBody.slice ⟨0, 5⟩).map (·.substitute b))
    5 ≤ loopBody.size ∧ b.BraceFree ∧
    (match (Outline.ofCursor ⟨.ofBlock ⟨⟨0, 5⟩, b⟩, copy.2⟩ {} true).entries with
      | [.parsed 1 (.while body), .finished 3] => some body.span
      | _ => none) = some ⟨2, 4⟩ ∧
    List.Forall₂ (Expands copy.2 b)
      (Outline.ofCursor ⟨.ofBlock ⟨⟨0, 5⟩, b⟩, copy.2⟩ {} true).entries
      (Outline.ofCursor ⟨.ofBlock ⟨copy.1, {}⟩, copy.2⟩ {} true).entries := by
  intro b copy
  have hsize : 5 ≤ loopBody.size := by decide
  have hbraces : b.BraceFree := by
    intro name t hget
    obtain ⟨entry, hfind, rfl⟩ := Option.map_eq_some_iff.1 hget
    cases List.mem_singleton.1 (List.mem_of_find?_eq_some hfind)
    exact ⟨rfl, rfl⟩
  refine ⟨hsize, hbraces, ?_, expansion_is_substitution loopBody ⟨0, 5⟩ b {} true hsize hbraces⟩
  decide +kernel

end PageScript

/-
A skipped branch read in step with a taken one.

In a skipped branch statements are read only to find the places between them. What is read there
depends on the aliases, since the use of an alias takes as many arguments as it has parameters, and on
the words of the conditionals. But the aliases that a branch defines are not defined while it is
skipped, and the words that an alias contains are not obeyed. So the places found are those of the
taken branch exactly if each alias that the branch uses has, in front of it, as many parameters as
where it is used, and if the words in the branch itself form complete conditionals.
-/
import PageScript.Proofs.Machine.Arena
import PageScript.Proofs.Machine.Skipped

namespace PageScript

theorem Statement.eq_of_word? {st : Statement} {word : Control} (h : st.word? = some word) :
    st = .control word := by
  cases st with
  | control word' =>
    cases h
    rfl
  | _ => cases h

namespace Machine

variable {σ : Type}

-- ======== reading

/-- Two machines at the same place, which lies in what their arenas have in common. -/
structure Abreast (a : Arena) (s : Source) (t m : Machine σ) : Prop where
  source : a.Reaches s.stop?
  left : a.Extends t.arena
  right : a.Extends m.arena

namespace Abreast

variable {a : Arena} {s s₁ : Source} {t t₁ m m₁ : Machine σ} {st st' : Statement}

theorem alike (h : Abreast a s t m) : Cursor.Alike ⟨s, t.arena⟩ ⟨s, m.arena⟩ :=
  .of_extends rfl h.left h.right h.source

theorem first_eq (h : Abreast a s t m) : (m.read s).first = (t.read s).first :=
  Except.ok.inj ((Parser.Steady.next.at ⟨s, t.arena⟩).result h.alike)

/-- Behind the first token of a statement, both go on from alike cursors. -/
theorem behind (h : Abreast a s t m) :
    Cursor.Alike ⟨(s.next t.arena).2, t.arena⟩ ⟨(s.next m.arena).2, m.arena⟩ :=
  Parser.Steady.next.alike h.alike

/-- What has been read, as a run of the parser from behind the first token. -/
theorem statement_of_parsed (hfirst : (m.read s).first = (t.read s).first)
    (hparsed : (m.read s).parsed = .ok st) :
    Parser.statement m.aliases (t.read s).first ⟨(s.next m.arena).2, m.arena⟩ =
      (.ok st, (m.read s).after) := by
  rw [← hfirst]
  exact Prod.ext hparsed rfl

/-- What one machine can read the other can, up to the same place, if the alias that is used has for
both the same number of parameters. -/
theorem exists_parsed (h : Abreast a s t m) (hparsed : (t.read s).parsed = .ok st)
    (harity : ∀ name bindings, st = .invoke name bindings →
      m.aliases.arity? name = t.aliases.arity? name) :
    ∃ st', (m.read s).parsed = .ok st' ∧ st'.word? = st.word? ∧
      (m.read s).after.source = (t.read s).after.source := by
  obtain ⟨st', d, hread, hword, halike⟩ :=
    Parser.statement_of_alike h.behind (statement_of_parsed rfl hparsed) harity
  rw [← h.first_eq] at hread
  have hmine : m.read s = ⟨(m.read s).first, .ok st', d⟩ :=
    congrArg (fun result => Reading.mk (m.read s).first result.1 result.2) hread
  rw [hmine]
  exact ⟨st', rfl, hword, halike.source⟩

/-- A word of a conditional is read by both. -/
theorem parsed_control (h : Abreast a s t m) {word : Control}
    (hparsed : (t.read s).parsed = .ok (.control word)) :
    (m.read s).parsed = .ok (.control word) ∧
      (m.read s).after.source = (t.read s).after.source := by
  obtain ⟨st', hparsed', hword, hplace⟩ := h.exists_parsed hparsed nofun
  rw [Statement.eq_of_word? hword] at hparsed'
  exact ⟨hparsed', hplace⟩

/-- Both read the same word of a conditional, or both none. -/
theorem word?_eq (h : Abreast a s t m) (hparsed : (t.read s).parsed = .ok st)
    (hparsed' : (m.read s).parsed = .ok st') : st'.word? = st.word? :=
  Parser.word?_eq_of_alike h.behind (statement_of_parsed rfl hparsed)
    (statement_of_parsed h.first_eq hparsed')

/-- If they come to the same place behind the use of an alias, it has the same number of parameters
for both. -/
theorem arity?_eq (h : Abreast a s t m) {name : String} {bindings : Bindings}
    (hparsed : (t.read s).parsed = .ok (.invoke name bindings))
    (hparsed' : (m.read s).parsed = .ok st')
    (hplace : (m.read s).after.source = (t.read s).after.source) :
    m.aliases.arity? name = t.aliases.arity? name :=
  Parser.arity?_eq_of_place h.behind (statement_of_parsed rfl hparsed)
    (statement_of_parsed h.first_eq hparsed') hplace

/-- After a turn of each that leads to the same place, they are there abreast. -/
theorem of_turns [World σ] {n k : Nat} (h : Abreast a s t m)
    (hturn : turn (statements n) n s t = (.ok (some (st, s₁)), t₁))
    (hturn' : turn (statements k) k s m = (.ok (some (st', s₁)), m₁)) : Abreast a s₁ t₁ m₁ := by
  obtain ⟨-, -, hsource, -⟩ := turn_eq_some hturn
  refine ⟨?_, h.left.trans (Grows.turn_keeps _ _ hturn nofun),
    h.right.trans (Grows.turn_keeps _ _ hturn' nofun)⟩
  rw [hsource, (t.read_extends s).2]
  exact h.source

end Abreast

-- ======== following

section Following

variable [World σ] {n k d : Nat} {a : Arena} {s s₁ s' : Source} {t t₁ t' m m₁ m' : Machine σ}
  {st st' : Statement} {below : List Pending} {phases phases' : List Phase}
  {legs legs' : List (Leg σ)}

/-- A turn of the taken branch is followed in the skipped one. -/
theorem turn_followed (habreast : Abreast a s t m)
    (hbranch : Skipped below phases m.conditions.entries)
    (hturn : turn (statements n) n s t = (.ok (some (st, s₁)), t₁))
    (harity : ∀ name bindings, st = .invoke name bindings →
      m.aliases.arity? name = t.aliases.arity? name)
    (hnests : nests phases st.word? = some phases') :
    ∃ st' m₁, turn (statements n) n s m = (.ok (some (st', s₁)), m₁) ∧
      Skipped below phases' m₁.conditions.entries := by
  obtain ⟨hmore, hparsed, rfl, -⟩ := turn_eq_some hturn
  obtain ⟨st', hparsed', hword, hplace⟩ := habreast.exists_parsed hparsed harity
  rw [← habreast.first_eq] at hmore
  rw [← hword] at hnests
  rw [← hplace]
  refine ⟨st', ?_⟩
  cases hcontrol : st'.isControl with
  | false =>
    rw [Statement.word?_eq_none hcontrol] at hnests
    cases hnests
    have hpass : (m.noting (m.read s)).skips st' = true :=
      skips_of_skipping hbranch.skipping hcontrol
    exact ⟨_, turn_of_skips hmore hparsed' hpass, hbranch⟩
  | true =>
    obtain ⟨word, rfl⟩ := Statement.exists_word hcontrol
    obtain ⟨c, hact, hbranch'⟩ := hbranch.exists_act hnests
    refine ⟨_, turn_of_act hmore hparsed' hact, ?_⟩
    rw [drained_conditions]
    exact hbranch'

/-- A trail through the taken branch is followed in the skipped one, if the uses of aliases are read
alike on it and its words fit. -/
theorem Trail.followed (htrail : Trail n s t legs k s' t') (habreast : Abreast a s t m)
    (hbranch : Skipped below phases m.conditions.entries)
    (harity : ∀ leg ∈ legs, ∀ name bindings, leg.statement = .invoke name bindings →
      m.aliases.arity? name = leg.machine.aliases.arity? name)
    (hnests : (legs.map (·.statement.word?)).foldlM nests phases = some phases') :
    ∃ legs' m', Trail n s m legs' k s' m' ∧ legs'.map (·.source) = legs.map (·.source) ∧
      Abreast a s' t' m' ∧ Skipped below phases' m'.conditions.entries := by
  induction htrail generalizing m phases with
  | nil =>
    cases hnests
    exact ⟨[], m, .nil .., rfl, habreast, hbranch⟩
  | @cons n k s s₁ s' t t₁ t' st legs hturn _ ih =>
    rw [List.map_cons, List.foldlM_cons] at hnests
    obtain ⟨phases₁, hfirst, hnests⟩ := Option.bind_eq_some_iff.1 hnests
    obtain ⟨st', m₁, hturn', hbranch₁⟩ :=
      turn_followed habreast hbranch hturn (harity _ List.mem_cons_self) hfirst
    -- the aliases are untouched, so that the uses further on are still read alike
    obtain ⟨_, huntouched⟩ := ((inert_of_skipping hbranch.skipping).idles hturn').untouched
    have haliases : m₁.aliases = m.aliases := huntouched.aliases
    obtain ⟨legs', m', htrail', hsources, hrest⟩ :=
      ih (habreast.of_turns hturn hturn') hbranch₁
        (fun leg hleg => haliases ▸ harity leg (List.mem_cons_of_mem _ hleg)) hnests
    exact ⟨_, m', .cons hturn' htrail', congrArg (s :: ·) hsources, hrest⟩

/-- Trails with the same places on their way and the same end start at the same place. -/
theorem Trail.source_eq {n' k' : Nat} (htrail : Trail n s t legs k s' t')
    (htrail' : Trail n' s₁ m legs' k' s' m') (hsources : legs'.map (·.source) = legs.map (·.source)) :
    s₁ = s := by
  cases htrail with
  | nil =>
    cases List.map_eq_nil_iff.1 hsources
    cases htrail'
    rfl
  | cons hturn htrail =>
    cases htrail' with
    | nil => cases hsources
    | cons hturn' htrail' =>
      injection hsources

/-- If a trail through the skipped branch comes to the places of one through the taken branch, then
the uses of aliases are read alike on both, and so are the words. -/
theorem Trail.alike_of_sources (htrail : Trail n s t legs k s' t')
    (htrail' : Trail n s m legs' k s' m') (hsources : legs'.map (·.source) = legs.map (·.source))
    (habreast : Abreast a s t m) (hbranch : Skipped below phases m.conditions.entries)
    (hopen : (legs.map (·.statement.word?)).foldlM openAfter phases.length = some d) :
    (∀ leg ∈ legs, ∀ name bindings, leg.statement = .invoke name bindings →
      m.aliases.arity? name = leg.machine.aliases.arity? name) ∧
    legs'.map (·.statement.word?) = legs.map (·.statement.word?) := by
  induction htrail generalizing m phases legs' with
  | nil =>
    cases List.map_eq_nil_iff.1 hsources
    exact ⟨fun _ hleg => absurd hleg List.not_mem_nil, rfl⟩
  | @cons n k s s₁ s' t t₁ t' st legs hturn htrail ih =>
    cases htrail' with
    | nil => cases hsources
    | @cons _ _ _ s₂ _ _ m₁ _ st' legs' hturn' htrail' =>
      injection hsources with _ hsources
      -- the next place is the first one on what is left of both trails, or the end of both
      have hnext : s₂ = s₁ := htrail.source_eq htrail' hsources
      subst hnext
      obtain ⟨-, hparsed, hplace, -⟩ := turn_eq_some hturn
      obtain ⟨-, hparsed', hplace', -⟩ := turn_eq_some hturn'
      have hword : st'.word? = st.word? := habreast.word?_eq hparsed hparsed'
      rw [List.map_cons, List.foldlM_cons] at hopen
      obtain ⟨d₁, hd, hopen⟩ := Option.bind_eq_some_iff.1 hopen
      rw [← hword] at hd
      obtain ⟨phases₁, -, rfl, hbranch₁⟩ := turn_skipped hbranch hturn' hd
      obtain ⟨_, huntouched⟩ := ((inert_of_skipping hbranch.skipping).idles hturn').untouched
      have haliases : m₁.aliases = m.aliases := huntouched.aliases
      obtain ⟨harity, hwords⟩ :=
        ih htrail' hsources (habreast.of_turns hturn hturn') hbranch₁ hopen
      constructor
      · rintro leg (_ | ⟨_, hleg⟩) name bindings hst
        · cases hst
          exact habreast.arity?_eq hparsed hparsed' (hplace'.symm.trans hplace)
        · rw [← haliases]
          exact harity leg hleg name bindings hst
      · rw [List.map_cons, List.map_cons, hword, hwords]

/-- Where one machine obeys a `then`, the other does, if its innermost conditional waits for one. -/
theorem exists_turn_then {top : Pending} (habreast : Abreast a s t m)
    (hstack : m.conditions.entries = top :: below) (hphase : top.phase = .predicate)
    (hthen : turn (statements n) n s t = (.ok (some (.control .thenEnter, s₁)), t₁)) :
    ∃ m₁, turn (statements n) n s m = (.ok (some (.control .thenEnter, s₁)), m₁) := by
  obtain ⟨hmore, hparsed, rfl, -⟩ := turn_eq_some hthen
  obtain ⟨hparsed', hplace⟩ := habreast.parsed_control hparsed
  rw [← habreast.first_eq] at hmore
  have hact := Control.act_thenEnter_eq_ok.2 ⟨top, below, hstack, hphase, rfl⟩
  rw [← hplace]
  exact ⟨_, turn_of_act hmore hparsed' hact⟩

/-- A run comes from a `then` through given places of the branch to behind the `endif` at its end. -/
def PassesBranch (n k : Nat) (s₀ s : Source) (places : List Source) (s' behind : Source)
    (m₀ m'' : Machine σ) : Prop :=
  ∃ m legs m', turn (statements n) n s₀ m₀ = (.ok (some (.control .thenEnter, s)), m) ∧
    Trail n s m legs (k + 1) s' m' ∧ legs.map (·.source) = places ∧
    turn (statements k) k s' m' = (.ok (some (.control .endIf, behind)), m'')

/-- Such a run goes on behind the `endif`. -/
theorem PassesBranch.statements_eq {s₀ behind : Source} {places : List Source}
    (h : PassesBranch n k s₀ s places s' behind m m') :
    statements (n + 1) s₀ m = statements k behind m' := by
  obtain ⟨m₁, legs, m₂, hthen, htrail, -, hend⟩ := h
  rw [(Trail.cons hthen htrail).statements_eq]
  exact (Trail.cons hend (.nil ..)).statements_eq

/-- A skipped branch is read to the places of the taken one, and the run goes on behind the same
`endif`, exactly if each alias used in the branch has in front of it as many parameters as where it is
used, and the words in the branch form complete conditionals. Of the two machines, `t₀` takes the
branch and comes through it, by the trail given, to the matching `endif`; `m₀` skips it, since its
condition is false or an outer branch is skipped. -/
theorem skipped_in_step_iff {top : Pending} {s₀ behind : Source} {t₀ t'' m₀ : Machine σ}
    (hstack : m₀.conditions.entries = top :: below) (hphase : top.phase = .predicate)
    (hfalse : top.result = false ∨ top.outerSkip = true) (habreast : Abreast a s₀ t₀ m₀)
    (hthen : turn (statements n) n s₀ t₀ = (.ok (some (.control .thenEnter, s)), t))
    (htrail : Trail n s t legs (k + 1) s' t')
    (hopen : (legs.map (·.statement.word?)).foldlM openAfter 0 = some 0)
    (hend : turn (statements k) k s' t' = (.ok (some (.control .endIf, behind)), t'')) :
    (∃ m'', PassesBranch n k s₀ s (legs.map (·.source)) s' behind m₀ m'' ∧
      m''.conditions = ⟨below⟩ ∧ statements (n + 1) s₀ m₀ = statements k behind m'') ↔
    (∀ leg ∈ legs, ∀ name bindings, leg.statement = .invoke name bindings →
      m₀.aliases.arity? name = leg.machine.aliases.arity? name) ∧
    (legs.map (·.statement.word?)).foldlM nests [] = some [] := by
  constructor
  · rintro ⟨m'', ⟨m, legs', m', hthen', htrail', hsources, -⟩, -⟩
    obtain ⟨hbranch, huntouched⟩ := skipped_of_then hstack hfalse hthen'
    obtain ⟨harity, hwords⟩ := htrail.alike_of_sources htrail' hsources
      (habreast.of_turns hthen hthen') hbranch hopen
    rw [huntouched.aliases] at harity
    refine ⟨harity, ?_⟩
    -- nothing is open at the end of the skipped trail, and only words that fit have led there
    rw [← hwords] at hopen ⊢
    obtain ⟨phases, hnests, hlen, -⟩ := htrail'.skipped hbranch hopen
    rw [hnests, List.eq_nil_of_length_eq_zero hlen]
  · rintro ⟨harity, hnests⟩
    obtain ⟨m, hthen'⟩ := exists_turn_then habreast hstack hphase hthen
    obtain ⟨hbranch, huntouched⟩ := skipped_of_then hstack hfalse hthen'
    rw [← huntouched.aliases] at harity
    obtain ⟨legs', m', htrail', hsources, habreast', hbranch'⟩ :=
      htrail.followed (habreast.of_turns hthen hthen') hbranch harity hnests
    obtain ⟨hmore, hparsed, rfl, -⟩ := turn_eq_some hend
    obtain ⟨hparsed', hplace⟩ := habreast'.parsed_control hparsed
    rw [← habreast'.first_eq] at hmore
    obtain ⟨m'', hend', hbelow⟩ := turn_endIf_of_skipped (n := k) hbranch' hmore hparsed'
    rw [hplace] at hend'
    have hpasses : PassesBranch n k s₀ s (legs.map (·.source)) s' (t'.read s').after.source m₀ m'' :=
      ⟨m, legs', m', hthen', htrail', hsources, hend'⟩
    exact ⟨m'', hpasses, hbelow, hpasses.statements_eq⟩

/-- In front of a `then`, with the outcome of the condition; the branch defines an alias and uses it. -/
def definingBranch (result : Bool) : Machine Offline :=
  { Offline.machine 0 with
    arena :=
      (Arena.alloc {} [.word "then" 1, .word "alias" 1, .word "greet" 1, .symbol '\x7b' 1,
        .symbol '\x7d' 1, .word "greet" 1, .word "endif" 1]).2
    conditions := ⟨[{ result, outerSkip := false }]⟩ }

/-- If the branch is taken, the alias is defined where it is used; if it is skipped, the alias is not
known, and the run does not come to the `endif`. -/
theorem skipped_in_step_iff_defining :
    ∃ s places s' behind,
      (∃ t, PassesBranch 4 1 (.ofBlock ⟨⟨0, 7⟩, {}⟩) s places s' behind (definingBranch true) t) ∧
      ¬ ∃ m, PassesBranch 4 1 (.ofBlock ⟨⟨0, 7⟩, {}⟩) s places s' behind (definingBranch false) m ∧
        m.conditions = ⟨[]⟩ ∧
        statements 5 (.ofBlock ⟨⟨0, 7⟩, {}⟩) (definingBranch false) = statements 1 behind m := by
  obtain ⟨s, t, legs, s', t', behind, t'', hthen, htrail, hend, hopen, leg, hleg, huse, harity⟩ :
      ∃ s t legs s' t' behind t'',
        turn (statements 4) 4 (.ofBlock ⟨⟨0, 7⟩, {}⟩) (definingBranch true) =
          (.ok (some (.control .thenEnter, s)), t) ∧
        Trail 4 s t legs 2 s' t' ∧
        turn (statements 1) 1 s' t' = (.ok (some (.control .endIf, behind)), t'') ∧
        (legs.map (·.statement.word?)).foldlM openAfter 0 = some 0 ∧
        ∃ leg ∈ legs, leg.statement = .invoke "greet" {} ∧
          leg.machine.aliases.arity? "greet" = some 0 :=
    ⟨_, _, _, _, _, _, _, rfl, .cons rfl (.cons rfl (.nil ..)), rfl, rfl,
      _, .tail _ (.head _), rfl, rfl⟩
  have habreast : Abreast (definingBranch true).arena (.ofBlock ⟨⟨0, 7⟩, {}⟩) (definingBranch true)
      (definingBranch false) :=
    ⟨Arena.reaches_some (Nat.le_refl 7), .refl _, .refl _⟩
  refine ⟨s, legs.map (·.source), s', behind, ⟨t'', t, legs, t', hthen, htrail, rfl, hend⟩, ?_⟩
  intro hpasses
  obtain ⟨harities, -⟩ :=
    (skipped_in_step_iff rfl rfl (.inl rfl) habreast hthen htrail hopen hend).1 hpasses
  have hknown : some 0 = none := harity.symm.trans (harities leg hleg _ _ huse).symm
  cases hknown

end Following

end Machine

end PageScript

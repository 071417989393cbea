/-
Conditionals across the boundary of a block.

A block closes the conditionals that it leaves open. That it leaves those alone which were open before
it is up to its words: a `then` or an `endif` acts on the innermost conditional, and where the block
has none open of its own, that is one from outside. A word that is obeyed there reaches out of the
block. `Kept found` says of a stack that it has the entries `found` below the block's own, a failed
predicate of the innermost of them apart. It holds all along the run of a block, and the block leaves
what it found, exactly if no word reaches out.
-/
import PageScript.Proofs.Machine.Conditional
import PageScript.Proofs.Machine.Request

namespace PageScript

namespace Control

/-- The phase in which a word wants the innermost conditional; `if` wants none. -/
def asksFor : Control → Option Phase
  | .ifBegin => none
  | .thenEnter => some .predicate
  | .endIf => some .branch

/-- Whether a word, with `depth` conditionals open outside of its block and none inside, finds the
innermost of those in the phase that it asks for. -/
def reachesOut (depth : Nat) (word : Control) (c : ConditionStack) : Bool :=
  c.depth ≤ depth &&
    match c.entries with
    | [] => false
    | top :: _ => word.asksFor = some top.phase

/-- A word reaches out exactly if it is obeyed with no more conditionals open than there were
outside. -/
theorem reachesOut_iff {depth : Nat} {word : Control} {c : ConditionStack} :
    word.reachesOut depth c = true ↔
      word ≠ .ifBegin ∧ c.depth ≤ depth ∧ ∃ c', word.act c = .ok c' := by
  rw [reachesOut, Bool.and_eq_true, decide_eq_true_eq]
  rcases c with ⟨_ | ⟨top, rest⟩⟩
  · -- with nothing open, only `if` is obeyed
    cases word with
    | ifBegin => simp
    | thenEnter => simp [act_thenEnter_eq_ok]
    | endIf => simp [act_endIf_eq_ok]
  · rw [decide_eq_true_eq, and_left_comm]
    refine and_congr_right fun _ => ?_
    cases word with
    | ifBegin => simp [asksFor]
    | thenEnter =>
      refine ⟨fun h => ⟨nofun, _, act_thenEnter_eq_ok.2 ⟨top, rest, rfl, ?_, rfl⟩⟩, ?_⟩
      · exact (Option.some.inj h).symm
      · rintro ⟨-, c', h⟩
        obtain ⟨_, _, ⟨⟩, hpredicate, -⟩ := act_thenEnter_eq_ok.1 h
        exact congrArg some hpredicate.symm
    | endIf =>
      refine ⟨fun h => ⟨nofun, ⟨rest⟩, act_endIf_eq_ok.2 ⟨top, rfl, (Option.some.inj h).symm⟩⟩, ?_⟩
      rintro ⟨-, c', h⟩
      obtain ⟨top', ⟨⟩, hbranch⟩ := act_endIf_eq_ok.1 h
      exact congrArg some hbranch.symm

end Control

/-- The same entries, except that the innermost, still in front of its `then`, may have come to know
that its condition is false. -/
inductive Lowered : List Pending → List Pending → Prop
  | same (entries : List Pending) : Lowered entries entries
  | lower {top : Pending} {rest : List Pending} : top.phase = .predicate →
      Lowered (top :: rest) ({ top with result := false } :: rest)

namespace Lowered

variable {found base : List Pending}

/-- The conditionals stand where they stood. -/
theorem map_phase (h : Lowered found base) : base.map (·.phase) = found.map (·.phase) := by
  cases h with
  | same => rfl
  | lower => rfl

theorem length_eq (h : Lowered found base) : base.length = found.length := by
  cases h with
  | same => rfl
  | lower => rfl

/-- An outcome of a predicate can only lower the innermost entry. -/
theorem record {c : ConditionStack} (h : Lowered found c.entries) (outcome : Bool) :
    Lowered found (c.record outcome).entries := by
  rcases c with ⟨_ | ⟨top, rest⟩⟩
  · exact h
  · rw [ConditionStack.record]
    dsimp only
    split
    · next hphase =>
      cases outcome with
      | true =>
        rw [Bool.and_true]
        exact h
      | false =>
        rw [Bool.and_false]
        cases h with
        | same => exact .lower hphase
        | lower hphase => exact .lower hphase
    · exact h

end Lowered

/-- Above the entries that a block has found there are only those that it has opened. -/
def Kept (found entries : List Pending) : Prop :=
  ∃ opened base, entries = opened ++ base ∧ Lowered found base

namespace Kept

variable {found : List Pending} {c c' : ConditionStack}

theorem refl (found : List Pending) : Kept found found :=
  ⟨[], found, rfl, .same found⟩

theorem length_le {entries : List Pending} (h : Kept found entries) :
    found.length ≤ entries.length := by
  obtain ⟨opened, base, rfl, hbase⟩ := h
  rw [List.length_append, hbase.length_eq]
  exact Nat.le_add_left ..

/-- With no more entries than were found, they are those found. -/
theorem lowered {entries : List Pending} (h : Kept found entries)
    (hlen : entries.length ≤ found.length) : Lowered found entries := by
  obtain ⟨opened, base, rfl, hbase⟩ := h
  rw [List.length_append, hbase.length_eq] at hlen
  have hopened : opened = [] := List.eq_nil_of_length_eq_zero (by omega)
  subst hopened
  exact hbase

theorem begin (h : Kept found c.entries) : Kept found c.begin.entries := by
  obtain ⟨opened, base, hc, hbase⟩ := h
  exact ⟨{ outerSkip := c.skipping } :: opened, base, congrArg (List.cons _) hc, hbase⟩

theorem record (h : Kept found c.entries) (outcome : Bool) :
    Kept found (c.record outcome).entries := by
  rcases c with ⟨entries⟩
  obtain ⟨opened, base, rfl, hbase⟩ := h
  cases opened with
  | nil => exact ⟨[], _, rfl, hbase.record outcome⟩
  | cons own opened =>
    rw [List.cons_append, ConditionStack.record]
    dsimp only
    split
    · exact ⟨{ own with result := own.result && outcome } :: opened, base, rfl, hbase⟩
    · exact ⟨own :: opened, base, rfl, hbase⟩

/-- Closing what is open above a depth leaves the entries found further down. -/
theorem truncate {depth : Nat} (h : Kept found c.entries) (hdepth : found.length ≤ depth) :
    Kept found (c.truncate depth).entries := by
  obtain ⟨opened, base, hc, hbase⟩ := h
  have hlen : (opened ++ base).length - depth ≤ opened.length := by
    rw [List.length_append, hbase.length_eq]
    omega
  refine ⟨opened.drop ((opened ++ base).length - depth), base, ?_, hbase⟩
  rw [ConditionStack.truncate, hc, List.drop_append_of_le_length hlen]

/-- A word that is obeyed and does not reach out acts on what the block has opened itself. -/
theorem act {word : Control} (h : Kept found c.entries)
    (hword : word.reachesOut found.length c = false) (hact : word.act c = .ok c') :
    Kept found c'.entries := by
  -- but for `if`, there is an entry of the block's own for the word to act on
  have hown : word ≠ .ifBegin → found.length < c.depth := fun hif =>
    Nat.lt_of_not_le fun hle => by
      rw [Control.reachesOut_iff.2 ⟨hif, hle, c', hact⟩] at hword
      cases hword
  obtain ⟨opened, base, hc, hbase⟩ := h
  have hpos : word ≠ .ifBegin → 0 < opened.length := fun hif => by
    have hlt := hown hif
    rw [ConditionStack.depth, hc, List.length_append, hbase.length_eq] at hlt
    omega
  cases word with
  | ifBegin =>
    cases hact
    exact begin ⟨opened, base, hc, hbase⟩
  | thenEnter =>
    obtain ⟨own, opened, rfl⟩ := List.exists_cons_of_length_pos (hpos (by rintro ⟨⟩))
    obtain ⟨top, rest, htop, -, rfl⟩ := Control.act_thenEnter_eq_ok.1 hact
    cases hc.symm.trans htop
    exact ⟨{ own with phase := .branch } :: opened, base, rfl, hbase⟩
  | endIf =>
    obtain ⟨own, opened, rfl⟩ := List.exists_cons_of_length_pos (hpos (by rintro ⟨⟩))
    obtain ⟨top, htop, -⟩ := Control.act_endIf_eq_ok.1 hact
    injection hc.symm.trans htop with _ hrest
    exact ⟨opened, base, hrest.symm, hbase⟩

/-- A word that reaches out leaves the entries found at the start no longer as they were: `then` takes
the innermost of them to its branch, and `endif` closes it. -/
theorem not_of_reachesOut {word : Control} (h : Kept found c.entries)
    (hword : word.reachesOut found.length c = true) (hact : word.act c = .ok c') :
    ¬ Kept found c'.entries := by
  intro h'
  obtain ⟨hif, hle, -⟩ := Control.reachesOut_iff.1 hword
  have hfound := h.lowered hle
  cases word with
  | ifBegin => exact hif rfl
  | thenEnter =>
    obtain ⟨top, rest, hc, hpredicate, rfl⟩ := Control.act_thenEnter_eq_ok.1 hact
    rw [hc] at hfound
    have hphases := (h'.lowered (Nat.le_of_eq hfound.length_eq)).map_phase.trans hfound.map_phase.symm
    rw [List.map_cons, List.map_cons, hpredicate] at hphases
    cases List.head_eq_of_cons_eq hphases
  | endIf =>
    obtain ⟨top, hc, -⟩ := Control.act_endIf_eq_ok.1 hact
    have hlen := hfound.length_eq
    rw [hc, List.length_cons] at hlen
    have := h'.length_le
    omega

end Kept

namespace Machine

variable {σ : Type} {found : List Pending}

-- ======== statements

/-- The entries found at the start of a block are kept if they were kept so far. -/
def KeepsFound (found : List Pending) (m m' : Machine σ) : Prop :=
  Kept found m.conditions.entries → Kept found m'.conditions.entries

namespace KeepsFound

variable {m m' : Machine σ}

theorem of_same (h : m'.conditions = m.conditions) : KeepsFound found m m' := by
  rw [KeepsFound, h]
  exact id

instance : IsPreorder (Machine σ) (KeepsFound found) where
  refl _ := id
  trans _ _ _ h₁ h₂ := h₂ ∘ h₁

theorem stable [World σ] : Stable (σ := σ) (KeepsFound found) :=
  (Durable.of_quiet (fun h => of_same h.conditions) (fun _ _ => id) (fun _ _ => id)
    (fun h hm => (h hm).truncate hm.length_le) (fun _ outcome hm => hm.record outcome)
    fun _ _ => id).toStable

/-- A statement keeps what a block has found, unless it is a word that reaches out. -/
theorem keptAt [World σ] {st : Statement}
    (hword : ∀ {word}, st = .control word → word.reachesOut found.length m.conditions = false) :
    KeptAt (KeepsFound found) st m := by
  intro hscript run limit r m' hrun hended
  rcases execute_cases hscript hrun hended with
    h | ⟨-, _, _, _, rfl⟩ | ⟨-, rfl⟩ | ⟨_, -, rfl⟩ | ⟨word, c, hst, hact, rfl⟩
  · exact of_same h.conditions
  · exact id
  · exact id
  · exact id
  · exact fun hm => hm.act (hword hst) hact

end KeepsFound

-- ======== blocks

section Blocks

variable [World σ] {n k : Nat} {s s' : Source} {m m' : Machine σ}

/-- What a block finds is kept at every place that it comes to, if no word reaches out. -/
theorem Visits.kept (hv : Visits n s m k s' m')
    (hwords : ∀ word m₁, Performs n s m (.control word) m₁ →
      word.reachesOut m.conditions.depth m₁.conditions = false) :
    Kept m.conditions.entries m'.conditions.entries := by
  refine KeepsFound.stable.of_visits (fun _ _ _ => id) hv (fun hp => ?_) (.refl _)
  exact KeepsFound.keptAt fun hst => hwords _ _ (hst ▸ hp)

/-- A block leaves what it found, if no word reaches out. -/
theorem lowered_of_block {r : Except Halt Unit} (hrun : block (statements n) s m = (r, m'))
    (hended : Halt.Ended r)
    (hwords : ∀ word m₁, Performs n s m (.control word) m₁ →
      word.reachesOut m.conditions.depth m₁.conditions = false) :
    Lowered m.conditions.entries m'.conditions.entries := by
  obtain ⟨r₁, m₁, hrun₁, hended₁, rfl⟩ := block_cases hrun hended
  have hkept : KeepsFound m.conditions.entries m m₁ :=
    KeepsFound.stable.of_statements
      (fun hp => KeepsFound.keptAt fun hst => hwords _ _ (hst ▸ hp)) hrun₁ hended₁
  have hclosed : Kept m.conditions.entries (m₁.conditions.truncate m.conditions.depth).entries :=
    (hkept (.refl _)).truncate (Nat.le_refl _)
  exact hclosed.lowered (m₁.conditions.depth_truncate_le m.conditions.depth)

/-- The conditionals open around a block are kept while it runs and when it has ended, well or not,
exactly if no `then` and no `endif` in it is obeyed while the block has no conditional of its own
open. -/
theorem block_keeps_conditionals_iff (n : Nat) (s : Source) (m : Machine σ) :
    ((∀ k s' m', Visits n s m k s' m' → Kept m.conditions.entries m'.conditions.entries) ∧
      ∀ r m', block (statements n) s m = (r, m') → Halt.Ended r →
        Lowered m.conditions.entries m'.conditions.entries) ↔
    ∀ word m₁, Performs n s m (.control word) m₁ →
      word.reachesOut m.conditions.depth m₁.conditions = false := by
  constructor
  · rintro ⟨hplaces, -⟩ word m₁ ⟨k, s', m', hv, hmeets⟩
    obtain ⟨hmore, hparsed, rfl, -⟩ := hmeets
    have hkept := hplaces _ _ _ hv
    cases hreach : word.reachesOut m.conditions.depth m'.conditions with
    | false => exact hreach
    | true =>
      -- the word is obeyed, and the place behind it is one where the entries are not kept
      obtain ⟨-, -, c, hact⟩ := Control.reachesOut_iff.1 hreach
      have hnext := hplaces _ _ _ (hv.trans (.later (turn_of_act hmore hparsed hact) (.refl ..)))
      rw [drained_conditions] at hnext
      exact absurd hnext (hkept.not_of_reachesOut hreach hact)
  · intro hwords
    exact ⟨fun _ _ _ hv => hv.kept hwords, fun _ _ hrun hended => lowered_of_block hrun hended hwords⟩

-- A block with nothing in it but a `then`: the conditional around it, open as its condition is
-- looked at, is in its branch when the block has ended.
example :
    (block (statements 2) (.ofBlock ⟨⟨0, 1⟩, {}⟩)
      { Offline.machine 0 with
        arena := (Arena.alloc {} [.word "then" 1]).2
        conditions := ⟨[{ outerSkip := false }]⟩ }).2.conditions =
      ⟨[{ phase := .branch, outerSkip := false }]⟩ := rfl

end Blocks

end Machine

end PageScript

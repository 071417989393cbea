/-
The flags of the stack of open `if`s.

Whether statements are skipped and whether outcomes are captured is read off the innermost `if` alone.
For what lies below it there is only the note that it took when it was opened, which is never looked at
again. The note stays right because everything that is done to the stack is done at its top: the entries
below one do not change as long as it is there. `Accurate` says of a stack that each note in it tells
the truth about all the entries below; every move keeps it, and a stack with it has the flags that one
would find by looking through the whole of it.
-/
import PageScript.Proofs.Machine.Conditional

namespace PageScript

/-- Whether an open `if` is in its branch, and the condition was false. -/
def Pending.shuts (e : Pending) : Bool :=
  e.phase = .branch && !e.result

theorem Pending.shuts_iff {e : Pending} : e.shuts = true ↔ e.phase = .branch ∧ e.result = false := by
  simp [shuts]

-- ======== true notes

/-- Each entry has noted whether some entry below it is a branch whose condition was false. -/
def Accurate : List Pending → Prop
  | [] => True
  | e :: below => e.outerSkip = below.any (·.shuts) ∧ Accurate below

namespace Accurate

variable {c c' : ConditionStack}

/-- Statements are skipped exactly if some open `if` is a branch whose condition was false. -/
theorem skipping_eq (h : Accurate c.entries) : c.skipping = c.entries.any (·.shuts) := by
  rcases c with ⟨_ | ⟨top, below⟩⟩
  · rfl
  · have hnote : top.outerSkip = below.any (·.shuts) := h.1
    show (top.outerSkip || top.shuts) = _
    rw [hnote, List.any_cons, Bool.or_comm]

/-- Outcomes are captured exactly if the innermost `if` waits for its `then`, and no entry below it is a
branch whose condition was false. -/
theorem capturing_iff (h : Accurate c.entries) :
    c.capturing = true ↔
      ∃ top below, c.entries = top :: below ∧ top.phase = .predicate ∧
        below.any (·.shuts) = false := by
  rcases c with ⟨_ | ⟨top, below⟩⟩
  · exact ⟨nofun, fun ⟨_, _, h, _⟩ => nomatch h⟩
  · rw [ConditionStack.capturing, Bool.and_eq_true, decide_eq_true_eq, Bool.not_eq_true', h.1]
    constructor
    · exact fun ⟨hphase, hbelow⟩ => ⟨top, below, rfl, hphase, hbelow⟩
    · rintro ⟨_, _, ⟨⟩, hphase, hbelow⟩
      exact ⟨hphase, hbelow⟩

/-- An `if` waiting for its `then` is no branch, so that statements are not skipped where outcomes are
captured. -/
theorem not_skipping_of_capturing (h : Accurate c.entries) (hcapturing : c.capturing = true) :
    c.skipping = false := by
  obtain ⟨top, below, hc, hphase, hbelow⟩ := h.capturing_iff.1 hcapturing
  rw [h.skipping_eq, hc, List.any_cons, hbelow, Pending.shuts, hphase]
  rfl

theorem begin (h : Accurate c.entries) : Accurate c.begin.entries :=
  ⟨h.skipping_eq, h⟩

theorem record (h : Accurate c.entries) (outcome : Bool) : Accurate (c.record outcome).entries := by
  rcases c with ⟨_ | ⟨top, below⟩⟩
  · exact h
  · rw [ConditionStack.record]
    dsimp only
    split
    · exact h
    · exact h

/-- A word that is obeyed opens, turns or closes the innermost `if`, and leaves the notes alone. -/
theorem act {word : Control} (h : Accurate c.entries) (hact : word.act c = .ok c') :
    Accurate c'.entries := by
  cases word with
  | ifBegin =>
    cases hact
    exact h.begin
  | thenEnter =>
    obtain ⟨top, below, hc, -, rfl⟩ := Control.act_thenEnter_eq_ok.1 hact
    rw [hc] at h
    exact h
  | endIf =>
    obtain ⟨top, hc, -⟩ := Control.act_endIf_eq_ok.1 hact
    rw [hc] at h
    exact h.2

theorem drop {entries : List Pending} (h : Accurate entries) (n : Nat) :
    Accurate (entries.drop n) := by
  induction n generalizing entries with
  | zero => exact h
  | succ n ih =>
    cases entries with
    | nil => exact h
    | cons top below => exact ih h.2

end Accurate

-- ======== moves

/-- Something that a machine does to its open `if`s. -/
inductive ConditionMove
  | word (word : Control)
  | record (outcome : Bool)
  | truncate (depth : Nat)

namespace Machine

variable {σ : Type}

/-- Makes a move. -/
def make : ConditionMove → Run σ Unit
  | .word word => conditional word
  | .record outcome => modify fun m => { m with conditions := m.conditions.record outcome }
  | .truncate depth => modify fun m => { m with conditions := m.conditions.truncate depth }

/-- The machine after some moves, each of which is made whether or not those before it have failed. -/
def moving (m : Machine σ) (moves : List ConditionMove) : Machine σ :=
  moves.foldl (fun m move => (make move m).2) m

/-- A word that cannot be obeyed leaves everything as it was. -/
theorem eq_of_conditional_error {word : Control} {m m' : Machine σ} {e : Halt}
    (h : conditional word m = (.error e, m')) : m' = m := by
  rw [conditional_apply] at h
  cases hact : word.act m.conditions with
  | ok c =>
    rw [hact] at h
    cases h
  | error fault =>
    rw [hact] at h
    cases h
    rfl

/-- A move, made or failed, keeps the notes true. -/
theorem make_accurate (move : ConditionMove) {m : Machine σ} (h : Accurate m.conditions.entries) :
    Accurate (make move m).2.conditions.entries := by
  cases move with
  | word word =>
    rw [make, conditional_apply]
    cases hact : word.act m.conditions with
    | ok c => exact h.act hact
    | error fault => exact h
  | record outcome => exact h.record outcome
  | truncate depth => exact h.drop _

theorem moving_accurate (moves : List ConditionMove) {m : Machine σ}
    (h : Accurate m.conditions.entries) : Accurate (m.moving moves).conditions.entries := by
  induction moves generalizing m with
  | nil => exact h
  | cons move moves ih => exact ih (make_accurate move h)

/-- The flags of the stack agree with the whole of it. Whatever is done to the open `if`s, from none on:
statements are skipped exactly if some entry is a branch whose condition was false; outcomes are
captured exactly if the innermost entry waits for its `then` and no entry below it is such a branch; it
is never both; and a word that cannot be obeyed leaves the stack, and the machine, as it was. -/
theorem condition_flags_exact (m : Machine σ) (moves : List ConditionMove) :
    let m' := { m with conditions := {} }.moving moves
    (m'.conditions.skipping = true ↔
      ∃ e ∈ m'.conditions.entries, e.phase = .branch ∧ e.result = false) ∧
    (m'.conditions.capturing = true ↔
      ∃ top below, m'.conditions.entries = top :: below ∧ top.phase = .predicate ∧
        ¬∃ e ∈ below, e.phase = .branch ∧ e.result = false) ∧
    ¬(m'.conditions.skipping = true ∧ m'.conditions.capturing = true) ∧
    ∀ word e m'', conditional word m' = (.error e, m'') → m'' = m' := by
  intro m'
  have haccurate : Accurate m'.conditions.entries := moving_accurate moves trivial
  have hshut : ∀ entries : List Pending, entries.any (·.shuts) = true ↔
      ∃ e ∈ entries, e.phase = .branch ∧ e.result = false := fun entries => by
    simp only [List.any_eq_true, Pending.shuts_iff]
  refine ⟨?_, ?_, ?_, fun _ _ _ => eq_of_conditional_error⟩
  · rw [haccurate.skipping_eq, hshut]
  · simp only [haccurate.capturing_iff, ← hshut, Bool.not_eq_true]
  · rintro ⟨hskipping, hcapturing⟩
    rw [haccurate.not_skipping_of_capturing hcapturing] at hskipping
    cases hskipping

-- An `if` opened in a skipped branch, and two words for it that cannot be obeyed: what is skipped stays so.
example (m : Machine σ) :
    ({ m with conditions := {} }.moving [.word .ifBegin, .record false, .word .thenEnter,
      .word .ifBegin, .word .endIf, .word .thenEnter, .word .thenEnter]).conditions =
      ⟨[{ phase := .branch, outerSkip := true },
        { phase := .branch, result := false, outerSkip := false }]⟩ := rfl

end Machine

end PageScript

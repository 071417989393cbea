/-
The words that the stack of open `if`s takes in.

A stack that is fed with words and outcomes refuses some words, and what it refuses depends on the
phases of its entries only. So it is a machine with a stack of phases. Fed from the empty stack, and
empty again in the end, it takes in exactly the complete conditionals, one behind the other and one
inside the other on either side of `then`, with outcomes anywhere between the words.

A complete sequence leaves the phases as it found them, on whatever stack, which is shown along the
grammar. The other way round, what remains to be fed is taken apart at the words that the open entries
wait for: a `then` and an `endif` for each one in front of its `then`, an `endif` for each one behind it.
-/
import PageScript.Proofs.Machine.Conditional

namespace PageScript

/-- What a stack of open `if`s is fed with: a word of a conditional, or an outcome to be recorded. -/
inductive ConditionInput where
  | word (word : Control)
  | record (outcome : Bool)
  deriving DecidableEq

/-- Complete conditionals: nothing, an outcome and what follows it, or an `if` up to its `endif`, with
complete conditionals on both sides of its `then` and behind it. -/
inductive Nested : List ConditionInput → Prop
  | nil : Nested []
  | record (outcome : Bool) {w : List ConditionInput} : Nested w → Nested (.record outcome :: w)
  | conditional {u v w : List ConditionInput} : Nested u → Nested v → Nested w →
      Nested (.word .ifBegin :: u ++ .word .thenEnter :: v ++ .word .endIf :: w)

theorem Nested.append {u v : List ConditionInput} (hu : Nested u) (hv : Nested v) :
    Nested (u ++ v) := by
  induction hu with
  | nil => exact hv
  | record outcome _ ih => exact .record outcome ih
  | conditional hu hv _ _ _ ih => simpa using Nested.conditional hu hv ih

-- ======== steps

namespace ConditionStack

/-- The phases of the open `if`s, the innermost first. -/
def phases (s : ConditionStack) : List Phase :=
  s.entries.map (·.phase)

theorem length_phases (s : ConditionStack) : s.phases.length = s.depth :=
  List.length_map _

/-- The stack behind one input, unless it is refused. -/
def feed (s : ConditionStack) : ConditionInput → Except SyntaxFault ConditionStack
  | .word word => word.act s
  | .record outcome => .ok (s.record outcome)

theorem phases_record (s : ConditionStack) (outcome : Bool) :
    (s.record outcome).phases = s.phases := by
  rcases s with ⟨_ | ⟨top, rest⟩⟩
  · rfl
  · rw [record]
    dsimp only
    split <;> rfl

/-- A `then` is taken in where the innermost entry is in front of it. -/
theorem feed_thenEnter {s : ConditionStack} {below : List Phase}
    (h : s.phases = .predicate :: below) :
    ∃ s', s.feed (.word .thenEnter) = .ok s' ∧ s'.phases = .branch :: below := by
  obtain ⟨top, rest, hs, hphase, hrest⟩ := List.map_eq_cons_iff.1 h
  exact ⟨_, Control.act_thenEnter_eq_ok.2 ⟨top, rest, hs, hphase, rfl⟩, congrArg _ hrest⟩

/-- An `endif` is taken in where the innermost entry is behind its `then`. -/
theorem feed_endIf {s : ConditionStack} {below : List Phase} (h : s.phases = .branch :: below) :
    ∃ s', s.feed (.word .endIf) = .ok s' ∧ s'.phases = below := by
  obtain ⟨top, rest, hs, hphase, hrest⟩ := List.map_eq_cons_iff.1 h
  exact ⟨⟨rest⟩, Control.act_endIf_eq_ok.2 ⟨top, hs, hphase⟩, hrest⟩

/-- All that an input which is taken in can do to the phases. -/
theorem feed_cases {s s' : ConditionStack} {input : ConditionInput} (h : s.feed input = .ok s') :
    ((∃ outcome, input = .record outcome) ∧ s'.phases = s.phases) ∨
    (input = .word .ifBegin ∧ s'.phases = .predicate :: s.phases) ∨
    (input = .word .thenEnter ∧
      ∃ below, s.phases = .predicate :: below ∧ s'.phases = .branch :: below) ∨
    (input = .word .endIf ∧ s.phases = .branch :: s'.phases) := by
  cases input with
  | record outcome =>
    cases h
    exact .inl ⟨⟨outcome, rfl⟩, s.phases_record outcome⟩
  | word word =>
    cases word with
    | ifBegin =>
      cases h
      exact .inr (.inl ⟨rfl, rfl⟩)
    | thenEnter =>
      obtain ⟨top, rest, hs, hphase, rfl⟩ := Control.act_thenEnter_eq_ok.1 h
      refine .inr (.inr (.inl ⟨rfl, rest.map (·.phase), ?_, rfl⟩))
      rw [phases, hs, List.map_cons, hphase]
    | endIf =>
      obtain ⟨top, hs, hphase⟩ := Control.act_endIf_eq_ok.1 h
      refine .inr (.inr (.inr ⟨rfl, ?_⟩))
      rw [phases, hs, List.map_cons, hphase]
      rfl

-- ======== feeds

/-- The stack behind some inputs, unless one of them is refused. -/
def feedAll (s : ConditionStack) (w : List ConditionInput) : Except SyntaxFault ConditionStack :=
  w.foldlM feed s

theorem feedAll_cons_eq_ok {s s' : ConditionStack} {input : ConditionInput}
    {w : List ConditionInput} :
    s.feedAll (input :: w) = .ok s' ↔ ∃ s₁, s.feed input = .ok s₁ ∧ s₁.feedAll w = .ok s' := by
  rw [feedAll, List.foldlM_cons]
  cases s.feed input with
  | error fault => exact ⟨nofun, fun ⟨_, h, _⟩ => nomatch h⟩
  | ok s₁ => exact ⟨fun h => ⟨s₁, rfl, h⟩, fun ⟨_, h, h'⟩ => by cases h; exact h'⟩

theorem feedAll_append_eq_ok {s s' : ConditionStack} {u v : List ConditionInput} :
    s.feedAll (u ++ v) = .ok s' ↔ ∃ s₁, s.feedAll u = .ok s₁ ∧ s₁.feedAll v = .ok s' := by
  induction u generalizing s with
  | nil => exact ⟨fun h => ⟨s, rfl, h⟩, fun ⟨_, h, h'⟩ => by cases h; exact h'⟩
  | cons input u ih =>
    simp only [List.cons_append, feedAll_cons_eq_ok, ih]
    exact ⟨fun ⟨s₁, h, s₂, h', h''⟩ => ⟨s₂, ⟨s₁, h, h'⟩, h''⟩,
      fun ⟨s₂, ⟨s₁, h, h'⟩, h''⟩ => ⟨s₁, h, s₂, h', h''⟩⟩

/-- The depth goes up with each `if` and down with each `endif`. -/
theorem depth_of_feedAll {s s' : ConditionStack} {w : List ConditionInput}
    (h : s.feedAll w = .ok s') :
    s'.depth + w.count (.word .endIf) = s.depth + w.count (.word .ifBegin) := by
  induction w generalizing s with
  | nil =>
    cases h
    rfl
  | cons input w ih =>
    obtain ⟨s₁, hfeed, hrest⟩ := feedAll_cons_eq_ok.1 h
    have hsum := ih hrest
    rw [← length_phases s₁] at hsum
    rw [← length_phases s]
    obtain ⟨⟨outcome, rfl⟩, hphases⟩ | ⟨rfl, hphases⟩ | ⟨rfl, below, hs, hs₁⟩ | ⟨rfl, hs⟩ :=
      feed_cases hfeed
    · simpa [hphases] using hsum
    · simp [hphases] at hsum ⊢
      omega
    · simpa [hs, hs₁] using hsum
    · simp [hs] at hsum ⊢
      omega

end ConditionStack

-- ======== grammar

open ConditionStack

/-- Complete conditionals are taken in by any stack, and leave its phases as they were. -/
theorem Nested.feedAll {w : List ConditionInput} (h : Nested w) (s : ConditionStack) :
    ∃ s', s.feedAll w = .ok s' ∧ s'.phases = s.phases := by
  induction h generalizing s with
  | nil => exact ⟨s, rfl, rfl⟩
  | record outcome _ ih =>
    obtain ⟨s', hrest, hphases⟩ := ih (s.record outcome)
    exact ⟨s', feedAll_cons_eq_ok.2 ⟨_, rfl, hrest⟩, hphases.trans (s.phases_record outcome)⟩
  | conditional _ _ _ ihu ihv ihw =>
    obtain ⟨s₁, hu, hs₁⟩ := ihu s.begin
    obtain ⟨s₂, hthen, hs₂⟩ := feed_thenEnter hs₁
    obtain ⟨s₃, hv, hs₃⟩ := ihv s₂
    obtain ⟨s₄, hend, hs₄⟩ := feed_endIf (hs₃.trans hs₂)
    obtain ⟨s', hw, hphases⟩ := ihw s₄
    refine ⟨s', ?_, hphases.trans hs₄⟩
    rw [feedAll_append_eq_ok]
    refine ⟨s₃, ?_, feedAll_cons_eq_ok.2 ⟨s₄, hend, hw⟩⟩
    rw [List.cons_append, feedAll_cons_eq_ok]
    exact ⟨s.begin, rfl, feedAll_append_eq_ok.2 ⟨s₁, hu, feedAll_cons_eq_ok.2 ⟨s₂, hthen, hv⟩⟩⟩

/-- What closes all entries of a stack with the given phases: complete conditionals, and between them
the words that the entries wait for. -/
inductive Closes : List Phase → List ConditionInput → Prop
  | nested {w : List ConditionInput} : Nested w → Closes [] w
  | predicate {below : List Phase} {u w : List ConditionInput} :
      Nested u → Closes (.branch :: below) w → Closes (.predicate :: below) (u ++ .word .thenEnter :: w)
  | branch {below : List Phase} {v w : List ConditionInput} :
      Nested v → Closes below w → Closes (.branch :: below) (v ++ .word .endIf :: w)

namespace Closes

variable {below : List Phase} {w : List ConditionInput}

theorem prepend {ps : List Phase} {u : List ConditionInput} (hu : Nested u) (h : Closes ps w) :
    Closes ps (u ++ w) := by
  cases h with
  | nested hw => exact .nested (hu.append hw)
  | predicate hx hrest =>
    rw [← List.append_assoc]
    exact .predicate (hu.append hx) hrest
  | branch hx hrest =>
    rw [← List.append_assoc]
    exact .branch (hu.append hx) hrest

/-- An `if` in front of what closes it makes up a complete conditional. -/
theorem ifBegin (h : Closes (.predicate :: below) w) : Closes below (.word .ifBegin :: w) := by
  cases h with
  | predicate hu h =>
    cases h with
    | branch hv hrest => simpa using hrest.prepend (.conditional hu hv .nil)

/-- The induction is on what is fed, from its end: each input turns what closes the stack behind it into
what closes the stack in front of it. -/
theorem of_feedAll {s s' : ConditionStack} (h : s.feedAll w = .ok s') (hs' : s'.depth = 0) :
    Closes s.phases w := by
  induction w generalizing s with
  | nil =>
    cases h
    rw [phases, List.eq_nil_of_length_eq_zero hs']
    exact .nested .nil
  | cons input w ih =>
    obtain ⟨s₁, hfeed, hrest⟩ := feedAll_cons_eq_ok.1 h
    have hcloses := ih hrest
    obtain ⟨⟨outcome, rfl⟩, hphases⟩ | ⟨rfl, hphases⟩ | ⟨rfl, below, hs, hs₁⟩ | ⟨rfl, hs⟩ :=
      feed_cases hfeed
    · rw [← hphases]
      exact hcloses.prepend (.record outcome .nil)
    · rw [hphases] at hcloses
      exact hcloses.ifBegin
    · rw [hs₁] at hcloses
      rw [hs]
      exact .predicate .nil hcloses
    · rw [hs]
      exact .branch .nil hcloses

end Closes

/-- The stack takes in exactly the nested conditionals. Fed from the empty stack, a sequence of words and
outcomes is taken in and leaves no `if` open exactly if it is made of complete conditionals. On the way,
the depth is how many more `if`s than `endif`s there have been. -/
theorem accepted_iff_nested (w : List ConditionInput) :
    ((∃ s, feedAll {} w = .ok s ∧ s.depth = 0) ↔ Nested w) ∧
    (Nested w → ∀ front, front <+: w → ∃ s, feedAll {} front = .ok s ∧
      s.depth + front.count (.word .endIf) = front.count (.word .ifBegin)) := by
  refine ⟨⟨?_, fun h => ?_⟩, fun h front hfront => ?_⟩
  · rintro ⟨s, hfed, hdepth⟩
    cases Closes.of_feedAll hfed hdepth with
    | nested h => exact h
  · obtain ⟨s, hfed, hphases⟩ := h.feedAll {}
    exact ⟨s, hfed, by rw [← length_phases, hphases]; rfl⟩
  · obtain ⟨rest, rfl⟩ := hfront
    obtain ⟨_, hfed, -⟩ := h.feedAll {}
    obtain ⟨s, hfront, -⟩ := feedAll_append_eq_ok.1 hfed
    exact ⟨s, hfront, by simpa [depth] using depth_of_feedAll hfront⟩

end PageScript

/-
A skipped branch has no effect.

Behind a `then` whose condition is false, or that lies in a skipped branch itself, statements are only
read. The words of the conditionals among them still count, so that the matching `endif` is found:
`Skipped below phases` says of a stack that it stands in such a branch, inside of conditionals with the
given phases and with the entries `below` outside. Each turn keeps this or, at the matching `endif`,
leaves exactly `below`. All that happens to the page meanwhile is that its console is drained, once for
each word.
-/
import PageScript.Proofs.Machine.Conditional
import PageScript.Proofs.Statement.Reading

namespace PageScript

-- ======== matching

/-- How many conditionals are open behind a statement, if `d` were in front of it, by the word that it
is; none if it is the `endif` of a conditional opened further up. -/
def openAfter (d : Nat) : Option Control → Option Nat
  | some .ifBegin => some (d + 1)
  | some .endIf =>
    match d with
    | 0 => none
    | d + 1 => some d
  | _ => some d

/-- The phases of the open conditionals behind a statement, by the word that it is; none if it is a
word that does not fit. -/
def nests (phases : List Phase) : Option Control → Option (List Phase)
  | none => some phases
  | some .ifBegin => some (.predicate :: phases)
  | some .thenEnter =>
    match phases with
    | .predicate :: phases => some (.branch :: phases)
    | _ => none
  | some .endIf =>
    match phases with
    | .branch :: phases => some phases
    | _ => none

/-- The stack of a run in a skipped branch: the conditional it belongs to, those opened in it, each of
them knowing that it lies in a skipped branch, with their phases, and the entries outside. -/
inductive Skipped (below : List Pending) : List Phase → List Pending → Prop
  | own {e : Pending} : e.phase = .branch → e.result = false ∨ e.outerSkip = true →
      Skipped below [] (e :: below)
  | nested {e : Pending} {phases : List Phase} {es : List Pending} : e.outerSkip = true →
      Skipped below phases es → Skipped below (e.phase :: phases) (e :: es)

namespace Skipped

variable {below : List Pending} {phases phases' : List Phase} {c c' : ConditionStack}

theorem skipping (h : Skipped below phases c.entries) : c.skipping = true := by
  rcases c with ⟨entries⟩
  cases h with
  | own hphase hfalse => rcases hfalse with h | h <;> simp [ConditionStack.skipping, hphase, h]
  | nested houter _ => simp [ConditionStack.skipping, houter]

/-- A `then` that is obeyed, with a false condition or inside a skipped branch, leads into one. -/
theorem of_enter {top : Pending} (htop : c.entries = top :: below)
    (hfalse : top.result = false ∨ top.outerSkip = true)
    (h : Control.thenEnter.act c = .ok c') : Skipped below [] c'.entries := by
  obtain ⟨_, _, htop', -, rfl⟩ := Control.act_thenEnter_eq_ok.1 h
  cases htop.symm.trans htop'
  exact .own rfl hfalse

/-- The matching `endif` is always obeyed, and leaves what is outside. -/
theorem act_endIf (h : Skipped below [] c.entries) : Control.endIf.act c = .ok ⟨below⟩ := by
  rcases c with ⟨entries⟩
  cases h with
  | @own e hbranch _ => exact Control.act_endIf_eq_ok.2 ⟨e, rfl, hbranch⟩

/-- A word that fits is obeyed, and the stack stays in the branch. -/
theorem exists_act {word : Control} (h : Skipped below phases c.entries)
    (hnests : nests phases (some word) = some phases') :
    ∃ c', word.act c = .ok c' ∧ Skipped below phases' c'.entries := by
  have hskip := h.skipping
  rcases c with ⟨entries⟩
  cases word with
  | ifBegin =>
    cases hnests
    exact ⟨_, rfl, .nested (e := { outerSkip := ConditionStack.skipping ⟨entries⟩ }) hskip h⟩
  | thenEnter =>
    cases h with
    | own => cases hnests
    | @nested e phases es houter hes =>
      rcases e with ⟨_ | _, result, outerSkip⟩ <;> cases hnests
      exact ⟨_, Control.act_thenEnter_eq_ok.2 ⟨_, _, rfl, rfl, rfl⟩,
        .nested (e := ⟨.branch, result, outerSkip⟩) houter hes⟩
  | endIf =>
    cases h with
    | own => cases hnests
    | @nested e phases es houter hes =>
      rcases e with ⟨_ | _, result, outerSkip⟩ <;> cases hnests
      exact ⟨⟨es⟩, Control.act_endIf_eq_ok.2 ⟨_, rfl, rfl⟩, hes⟩

/-- A word that is obeyed fits, unless it is the `endif` of the branch. -/
theorem act {word : Control} {d : Nat} (h : Skipped below phases c.entries)
    (hopen : openAfter phases.length (some word) = some d) (hact : word.act c = .ok c') :
    ∃ phases', nests phases (some word) = some phases' ∧ phases'.length = d ∧
      Skipped below phases' c'.entries := by
  -- if the word fits, then what it does is known; it is left to see that it fits
  suffices hfits : ∃ phases', nests phases (some word) = some phases' ∧ phases'.length = d by
    obtain ⟨phases', hnests, hlen⟩ := hfits
    obtain ⟨c₁, hact₁, hin⟩ := h.exists_act hnests
    cases hact.symm.trans hact₁
    exact ⟨phases', hnests, hlen, hin⟩
  rcases c with ⟨entries⟩
  cases word with
  | ifBegin =>
    cases hopen
    exact ⟨_, rfl, rfl⟩
  | thenEnter =>
    cases hopen
    obtain ⟨top, rest, hc, hpredicate, -⟩ := Control.act_thenEnter_eq_ok.1 hact
    cases hc
    cases h with
    | own hbranch => cases hbranch.symm.trans hpredicate
    | nested =>
      refine ⟨.branch :: _, ?_, rfl⟩
      rw [hpredicate]
      rfl
  | endIf =>
    obtain ⟨top, hc, hbranch⟩ := Control.act_endIf_eq_ok.1 hact
    cases hc
    cases h with
    | own => cases hopen
    | nested =>
      cases hopen
      refine ⟨_, ?_, rfl⟩
      rw [hbranch]
      rfl

end Skipped

namespace Machine

variable {σ : Type}

-- ======== no effect

/-- Nothing has been done but to drain the console so many times. -/
structure Untouched (drains : Nat) (m m' : Machine σ) : Prop where
  settings : m'.settings = m.settings
  clock : m'.clock = m.clock
  transcript : m'.transcript = m.transcript
  aliases : m'.aliases = m.aliases
  budget : m'.budget = m.budget
  negateNext : m'.negateNext = m.negateNext
  autoLog : m'.autoLog = m.autoLog
  current : m'.current = m.current
  options : m'.options = m.options
  launched : m'.launched = m.launched
  pageLoadTimeout : m'.pageLoadTimeout = m.pageLoadTimeout
  screenshotDir : m'.screenshotDir = m.screenshotDir
  calls : m'.calls = List.replicate drains .consoleMessages ++ m.calls

namespace Untouched

variable {a b : Nat} {m m₁ m₂ : Machine σ}

theorem trans (h₁ : Untouched a m m₁) (h₂ : Untouched b m₁ m₂) : Untouched (a + b) m m₂ where
  settings := h₂.settings.trans h₁.settings
  clock := h₂.clock.trans h₁.clock
  transcript := h₂.transcript.trans h₁.transcript
  aliases := h₂.aliases.trans h₁.aliases
  budget := h₂.budget.trans h₁.budget
  negateNext := h₂.negateNext.trans h₁.negateNext
  autoLog := h₂.autoLog.trans h₁.autoLog
  current := h₂.current.trans h₁.current
  options := h₂.options.trans h₁.options
  launched := h₂.launched.trans h₁.launched
  pageLoadTimeout := h₂.pageLoadTimeout.trans h₁.pageLoadTimeout
  screenshotDir := h₂.screenshotDir.trans h₁.screenshotDir
  calls := by
    rw [h₂.calls, h₁.calls, ← List.append_assoc, List.replicate_append_replicate, Nat.add_comm]

theorem refl (m : Machine σ) : Untouched 0 m m := by
  constructor <;> rfl

instance : IsPreorder (Machine σ) (Untouched 0) where
  refl := refl
  trans _ _ _ := trans

/-- Reading a statement and obeying a word of a conditional are no effects. -/
theorem noting (m : Machine σ) (r : Reading) (c : ConditionStack) :
    Untouched 0 m { m.noting r with conditions := c } := by
  constructor <;> rfl

theorem log (level : LogLevel) (target : LogTarget) (message : String) :
    Run.Keeps (σ := σ) (Untouched 0) (Run.log level target message) := by
  refine .modify fun m => ?_
  constructor <;> rfl

variable [World σ]

theorem drainConsole (m : Machine σ) : Untouched 1 m (drainConsole m).2 := by
  obtain ⟨reply, m₁, hask⟩ : ∃ reply m₁, Run.ask .consoleMessages m = (.ok reply, m₁) := ⟨_, _, rfl⟩
  have hasked : Untouched 1 m m₁ := by
    cases hask
    constructor <;> rfl
  obtain ⟨m', hdrain⟩ := drainConsole_ok m
  rw [hdrain]
  rw [Machine.drainConsole, Run.bind_ok hask] at hdrain
  cases reply with
  | ok messages =>
    exact hasked.trans (Run.Keeps.forM (fun _ => log ..) messages hdrain (Halt.ended_ok _))
  | error e =>
    cases hdrain
    exact hasked

theorem drained (m : Machine σ) : Untouched m.autoLog.toNat m m.drained := by
  rw [Machine.drained]
  cases hauto : m.autoLog with
  | true => exact drainConsole m
  | false => exact refl m

/-- A word that is obeyed has no effect but that the console is drained. -/
theorem obeying (m : Machine σ) (r : Reading) (c : ConditionStack) :
    Untouched m.autoLog.toNat m (Machine.drained { m.noting r with conditions := c }) := by
  have h := (noting m r c).trans (drained { m.noting r with conditions := c })
  rwa [Nat.zero_add] at h

end Untouched

-- ======== turns

section Turns

variable [World σ] {run : Source → Run σ Unit} {limit : Nat} {s : Source} {m m' : Machine σ}
  {below : List Pending} {phases : List Phase}

/-- Whatever is carried out at a place is a word of a conditional. -/
def Inert (m : Machine σ) (s : Source) : Prop :=
  ∀ ⦃st : Statement⦄ ⦃m₁ : Machine σ⦄, Meets m s st m₁ → st.isControl = true

omit [World σ] in
theorem inert_of_skipping (h : m.conditions.skipping = true) : Inert m s := by
  intro st m₁ hmeets
  cases hst : st.isControl with
  | true => rfl
  | false =>
    have hskips : m₁.skips st = true := hmeets.noted ▸ skips_of_skipping h hst
    cases hskips.symm.trans hmeets.carried

/-- All that a turn can do at such a place: come to the end, stop where nothing can be read, pass over a
statement, or refuse or obey a word. -/
inductive Idles (s : Source) (m : Machine σ) :
    Except Halt (Option (Statement × Source)) → Machine σ → Prop
  | finish : (m.read s).first.isFinish = true → Idles s m (.ok none) m
  | unreadable {f : Failure} : (m.read s).first.isFinish = false → (m.read s).parsed = .error f →
      Idles s m (.error (.failed f)) (m.noting (m.read s))
  | pass {st : Statement} : (m.read s).first.isFinish = false → (m.read s).parsed = .ok st →
      st.isControl = false →
      Idles s m (.ok (some (st, (m.read s).after.source))) (m.noting (m.read s))
  | refuse {word : Control} {fault : SyntaxFault} : (m.read s).first.isFinish = false →
      (m.read s).parsed = .ok (.control word) → word.act m.conditions = .error fault →
      Idles s m (.error (.failed ((Failure.ofError (.syntaxFault fault)).withToken (m.read s).first)))
        (m.noting (m.read s))
  | obey {word : Control} {c : ConditionStack} : (m.read s).first.isFinish = false →
      (m.read s).parsed = .ok (.control word) → word.act m.conditions = .ok c →
      Idles s m (.ok (some (.control word, (m.read s).after.source)))
        (drained { m.noting (m.read s) with conditions := c })

theorem Inert.idles {r : Except Halt (Option (Statement × Source))} (hinert : Inert m s)
    (h : turn run limit s m = (r, m')) : Idles s m r m' := by
  cases hmore : (m.read s).first.isFinish with
  | true =>
    rw [turn_of_finish hmore] at h
    cases h
    exact .finish hmore
  | false =>
    cases hparsed : (m.read s).parsed with
    | error f =>
      rw [turn_of_error hmore hparsed] at h
      cases h
      exact .unreadable hmore hparsed
    | ok st =>
      cases hst : st.isControl with
      | false =>
        have hpass : (m.noting (m.read s)).skips st = true := by
          cases hskips : (m.noting (m.read s)).skips st with
          | true => rfl
          | false => cases hst.symm.trans (hinert ⟨hmore, hparsed, rfl, hskips⟩)
        rw [turn_of_skips hmore hparsed hpass] at h
        cases h
        exact .pass hmore hparsed hst
      | true =>
        obtain ⟨word, rfl⟩ := Statement.exists_word hst
        cases hact : word.act m.conditions with
        | ok c =>
          rw [turn_of_act hmore hparsed hact] at h
          cases h
          exact .obey hmore hparsed hact
        | error fault =>
          rw [turn_of_act_error hmore hparsed hact] at h
          cases h
          exact .refuse hmore hparsed hact

/-- No turn at such a place has an effect, however it ends. -/
theorem Idles.untouched {r : Except Halt (Option (Statement × Source))} (h : Idles s m r m') :
    ∃ drains, Untouched drains m m' := by
  cases h with
  | finish => exact ⟨0, .refl m⟩
  | unreadable | pass | refuse => exact ⟨0, .noting m _ m.conditions⟩
  | obey => exact ⟨_, .obeying ..⟩

/-- A turn in a skipped branch that goes on stays in the branch, unless it is the matching `endif`. -/
theorem turn_skipped {st : Statement} {s₁ : Source} {d : Nat}
    (hbranch : Skipped below phases m.conditions.entries)
    (h : turn run limit s m = (.ok (some (st, s₁)), m'))
    (hopen : openAfter phases.length st.word? = some d) :
    ∃ phases', nests phases st.word? = some phases' ∧ phases'.length = d ∧
      Skipped below phases' m'.conditions.entries := by
  cases (inert_of_skipping hbranch.skipping).idles h with
  | pass _ _ hst =>
    rw [Statement.word?_eq_none hst] at hopen ⊢
    cases hopen
    exact ⟨phases, rfl, rfl, hbranch⟩
  | obey _ _ hact =>
    rw [drained_conditions]
    exact hbranch.act hopen hact

end Turns

-- ======== branch

section Branch

variable [World σ] {n k d : Nat} {s s' : Source} {m m' : Machine σ} {below : List Pending}
  {phases : List Phase} {legs : List (Leg σ)}

/-- A trail that starts in a skipped branch and does not pass its `endif` ends in it. The induction is along
the trail, with the depth counted on it. -/
theorem Trail.skipped (htrail : Trail n s m legs k s' m')
    (hbranch : Skipped below phases m.conditions.entries)
    (hopen : (legs.map (·.statement.word?)).foldlM openAfter phases.length = some d) :
    ∃ phases', (legs.map (·.statement.word?)).foldlM nests phases = some phases' ∧
      phases'.length = d ∧ Skipped below phases' m'.conditions.entries := by
  induction htrail generalizing phases with
  | nil =>
    cases hopen
    exact ⟨phases, rfl, rfl, hbranch⟩
  | @cons n k s s₁ s' m m₁ m' st legs hturn _ ih =>
    rw [List.map_cons, List.foldlM_cons] at hopen
    obtain ⟨d₁, hd₁, hopen⟩ := Option.bind_eq_some_iff.1 hopen
    obtain ⟨phases₁, hnests, rfl, hbranch₁⟩ := turn_skipped hbranch hturn hd₁
    obtain ⟨phases', hrest, hlen, hin⟩ := ih hbranch₁ hopen
    refine ⟨phases', ?_, hlen, hin⟩
    rw [List.map_cons, List.foldlM_cons]
    exact Option.bind_eq_some_iff.2 ⟨phases₁, hnests, hrest⟩

/-- Where a `then` is obeyed whose condition is false, or that lies in a skipped branch, the branch
behind it is skipped. -/
theorem skipped_of_then {top : Pending} (hstack : m.conditions.entries = top :: below)
    (hfalse : top.result = false ∨ top.outerSkip = true)
    (hthen : turn (statements n) n s m = (.ok (some (.control .thenEnter, s')), m')) :
    Skipped below [] m'.conditions.entries ∧ Untouched m.autoLog.toNat m m' := by
  obtain ⟨hmore, hparsed, -, -⟩ := turn_eq_some hthen
  cases hact : Control.thenEnter.act m.conditions with
  | error e =>
    rw [turn_of_act_error hmore hparsed hact] at hthen
    cases hthen
  | ok c =>
    rw [turn_of_act hmore hparsed hact] at hthen
    cases hthen
    rw [drained_conditions]
    exact ⟨.of_enter hstack hfalse hact, .obeying ..⟩

/-- The matching `endif` is obeyed, and what is outside the conditional is as it was. -/
theorem turn_endIf_of_skipped (hbranch : Skipped below [] m.conditions.entries)
    (hmore : (m.read s).first.isFinish = false)
    (hparsed : (m.read s).parsed = .ok (.control .endIf)) :
    ∃ m', turn (statements n) n s m =
        (.ok (some (.control .endIf, (m.read s).after.source)), m') ∧ m'.conditions = ⟨below⟩ :=
  ⟨_, turn_of_act hmore hparsed hbranch.act_endIf, drained_conditions _⟩

end Branch

end Machine

end PageScript

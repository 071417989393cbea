/-
The words of conditionals, and the turns of a run that lead from one of them to another.

A word of a conditional acts on the stack of open `if`s alone; if it cannot be obeyed, the machine is
left as it was. A statement that is no such word is carried out or passed over, as the stack says.
What a statement that is carried out can do to the script's part of the state is said once, in
`execute_cases`. A `Trail` is a chain of turns on one level of a run, with what was read on each of them.
-/
import PageScript.Proofs.Machine.Course

namespace PageScript

theorem Statement.exists_word {st : Statement} (h : st.isControl = true) :
    ∃ word, st = .control word := by
  cases st with
  | control word => exact ⟨word, rfl⟩
  | _ => cases h

theorem ConditionStack.depth_truncate_le (c : ConditionStack) (depth : Nat) :
    (c.truncate depth).depth ≤ depth := by
  rw [ConditionStack.depth, truncate, List.length_drop]
  omega

theorem ConditionStack.truncate_of_le {c : ConditionStack} {depth : Nat} (h : c.depth ≤ depth) :
    c.truncate depth = c := by
  have hnone : c.entries.length - depth = 0 := Nat.sub_eq_zero_of_le h
  rw [truncate, hnone, List.drop_zero]

/-- An outcome that holds changes nothing. -/
theorem ConditionStack.record_true (c : ConditionStack) : c.record true = c := by
  rcases c with ⟨_ | ⟨⟨phase, result, outerSkip⟩, below⟩⟩
  · rfl
  · cases phase with
    | predicate => simp [record]
    | branch => rfl

namespace Control

/-- What a word of a conditional does to the open `if`s. -/
def act : Control → ConditionStack → Except SyntaxFault ConditionStack
  | .ifBegin, s => .ok s.begin
  | .thenEnter, s => s.enter.map (·.2)
  | .endIf, s => s.close

/-- A `then` is obeyed exactly where the innermost conditional waits for it. -/
theorem act_thenEnter_eq_ok {c c' : ConditionStack} :
    thenEnter.act c = .ok c' ↔
      ∃ top rest, c.entries = top :: rest ∧ top.phase = .predicate ∧
        c' = ⟨{ top with phase := .branch } :: rest⟩ := by
  rcases c with ⟨_ | ⟨top, rest⟩⟩
  · exact ⟨nofun, fun ⟨_, _, h, _⟩ => nomatch h⟩
  · rw [act, ConditionStack.enter]
    cases hphase : top.phase with
    | predicate =>
      simp only [hphase, Except.map]
      constructor
      · rintro ⟨⟩
        exact ⟨top, rest, rfl, hphase, rfl⟩
      · rintro ⟨_, _, ⟨⟩, _, rfl⟩
        rfl
    | branch =>
      simp only [hphase, Except.map]
      refine ⟨nofun, ?_⟩
      rintro ⟨_, _, ⟨⟩, h, _⟩
      cases hphase.symm.trans h

/-- An `endif` is obeyed exactly where the innermost conditional is in its branch. -/
theorem act_endIf_eq_ok {c c' : ConditionStack} :
    endIf.act c = .ok c' ↔ ∃ top, c.entries = top :: c'.entries ∧ top.phase = .branch := by
  rcases c with ⟨_ | ⟨top, rest⟩⟩
  · exact ⟨nofun, fun ⟨_, h, _⟩ => nomatch h⟩
  · rw [act, ConditionStack.close]
    cases hphase : top.phase with
    | predicate =>
      simp only [hphase]
      refine ⟨nofun, ?_⟩
      rintro ⟨_, ⟨⟩, h⟩
      cases hphase.symm.trans h
    | branch =>
      simp only [hphase]
      constructor
      · rintro ⟨⟩
        exact ⟨top, rfl, hphase⟩
      · rintro ⟨_, ⟨⟩, _⟩
        rfl

end Control

namespace Machine

variable {σ : Type}

theorem conditional_apply (word : Control) (m : Machine σ) :
    conditional word m =
      match word.act m.conditions with
      | .ok conditions => (.ok (), { m with conditions })
      | .error e => (.error (.failed (.ofError (.syntaxFault e))), m) := by
  cases word with
  | ifBegin => rfl
  | thenEnter =>
    rw [conditional, Run.get_bind_apply, Control.act]
    cases m.conditions.enter <;> rfl
  | endIf =>
    rw [conditional, Run.get_bind_apply, Control.act]
    cases m.conditions.close <;> rfl

theorem skips_control (word : Control) (m : Machine σ) : m.skips (.control word) = false := by
  rw [skips, Statement.isControl, Bool.not_true, Bool.and_false]

theorem skips_of_skipping {m : Machine σ} {st : Statement} (hskip : m.conditions.skipping = true)
    (hst : st.isControl = false) : m.skips st = true := by
  rw [skips, hskip, hst]
  rfl

theorem forM_log_ok (level : LogLevel) (target : LogTarget) (lines : List String) (m : Machine σ) :
    ∃ m', (lines.forM fun line => Run.log level target line : Run σ PUnit) m = (.ok ⟨⟩, m') := by
  induction lines generalizing m with
  | nil => exact ⟨m, rfl⟩
  | cons line lines ih =>
    obtain ⟨m', h⟩ := ih { m with journal := ⟨m.clock, .log level target line⟩ :: m.journal }
    exact ⟨m', h⟩

variable [World σ] {run : Source → Run σ Unit} {limit : Nat} {s : Source} {m m' : Machine σ}
  {st : Statement}

/-- All that a statement can do unless it runs a piece of script: what plain statements do, or set the
time, put the deadline aside, define an alias, or act on the open conditionals. -/
theorem execute_cases_of {R : Machine σ → Machine σ → Prop} [IsPreorder (Machine σ) R]
    {r : Except Halt Unit} (hplain : st.isPlain = true → Run.KeepsAt R (execute run limit st) m)
    (hscript : st.runsScript = false) (hrun : execute run limit st m = (r, m'))
    (hended : Halt.Ended r) :
    R m m' ∨
    (st.setsTime = true ∧ ∃ clock settings budget, m' = { m with clock, settings, budget }) ∨
    (st = .pushWait ∧ m' = { m with budget := m.budget.push }) ∨
    (∃ definition, st = .defineAlias definition ∧
      m' = { m with aliases := m.aliases.define definition }) ∨
    ∃ word conditions, st = .control word ∧ word.act m.conditions = .ok conditions ∧
      m' = { m with conditions } := by
  cases hisPlain : st.isPlain with
  | true => exact .inl (hplain hisPlain hrun hended)
  | false =>
    obtain htime | rfl | ⟨definition, rfl⟩ | ⟨word, rfl⟩ :=
      Statement.cases_of_not_plain hisPlain hscript
    · refine .inr (.inl ⟨htime, ?_⟩)
      cases st with
      | popWait =>
        rw [execute, Run.get_bind_apply] at hrun
        cases hpop : m.budget.pop? <;> rw [hpop] at hrun <;> (cases hrun; exact ⟨_, _, _, rfl⟩)
      | _ => cases htime <;> (cases hrun; exact ⟨_, _, _, rfl⟩)
    · cases hrun
      exact .inr (.inr (.inl ⟨rfl, rfl⟩))
    · cases hrun
      exact .inr (.inr (.inr (.inl ⟨definition, rfl, rfl⟩)))
    · rw [execute, conditional_apply] at hrun
      cases hact : word.act m.conditions with
      | ok conditions =>
        rw [hact] at hrun
        cases hrun
        exact .inr (.inr (.inr (.inr ⟨word, conditions, rfl, hact, rfl⟩)))
      | error e =>
        -- a word that cannot be obeyed fails, and nothing has been done
        rw [hact] at hrun
        cases hrun
        exact .inl (refl_of R m)

/-- All that a statement can do to the script's part of the state, unless it runs a piece of script. Only
in the first case has it anything to do with the page. -/
theorem execute_cases {r : Except Halt Unit} (hscript : st.runsScript = false)
    (hrun : execute run limit st m = (r, m')) (hended : Halt.Ended r) :
    Diligent m m' ∨
    (st.setsTime = true ∧ ∃ clock settings budget, m' = { m with clock, settings, budget }) ∨
    (st = .pushWait ∧ m' = { m with budget := m.budget.push }) ∨
    (∃ definition, st = .defineAlias definition ∧
      m' = { m with aliases := m.aliases.define definition }) ∨
    ∃ word conditions, st = .control word ∧ word.act m.conditions = .ok conditions ∧
      m' = { m with conditions } :=
  execute_cases_of (fun hplain => (execute_diligent run limit hplain).from m) hscript hrun hended

-- ======== drains

/-- Draining the console never fails: a browser that does not answer is passed over. -/
theorem drainConsole_ok (m : Machine σ) : ∃ m', drainConsole m = (.ok (), m') := by
  obtain ⟨reply, m₁, hask⟩ : ∃ reply m₁, Run.ask .consoleMessages m = (.ok reply, m₁) := ⟨_, _, rfl⟩
  rw [drainConsole, Run.bind_ok hask]
  cases reply with
  | ok messages => exact forM_log_ok ..
  | error e => exact ⟨m₁, rfl⟩

/-- The machine after the console has been drained, if it is drained after each statement. -/
def drained (m : Machine σ) : Machine σ :=
  if m.autoLog then (drainConsole m).2 else m

theorem drain_apply (m : Machine σ) :
    (do if (← get).autoLog then drainConsole : Run σ Unit) m = (.ok (), m.drained) := by
  rw [Run.get_bind_apply, drained]
  split
  · obtain ⟨m', h⟩ := drainConsole_ok m
    rw [h]
  · rfl

theorem Tolerant.drained {R : Machine σ → Machine σ → Prop} (hR : Tolerant R) (m : Machine σ) :
    R m m.drained := by
  have := hR.toIsPreorder
  rw [Machine.drained]
  split
  · obtain ⟨m', h⟩ := drainConsole_ok m
    rw [h]
    exact hR.drainConsole h (Halt.ended_ok _)
  · exact refl_of R m

theorem drained_conditions (m : Machine σ) : m.drained.conditions = m.conditions :=
  (discreet.drained m).conditions

-- ======== steps

/-- Carries out a statement, and settles how it came out. -/
def carryOut (run : Source → Run σ Unit) (limit : Nat) (first : Token) (st : Statement) :
    Run σ Unit := do
  let conditions := (← get).conditions
  let result ← (execute run limit st).outcome
  settle first (conditions.capturing && !st.isControl) result
  if (← get).autoLog then drainConsole

theorem step_of_skips {first : Token} (h : m.skips st = true) :
    step run limit first st m = (.ok (), m) := by
  rw [skips] at h
  rw [step, Run.get_bind_apply, if_pos h]
  rfl

theorem step_of_not_skips {first : Token} (h : m.skips st = false) :
    step run limit first st m = carryOut run limit first st m := by
  rw [step, carryOut, Run.get_bind_apply, Run.get_bind_apply, if_neg (by simpa [skips] using h)]

/-- A statement that went well, in front of a `then` or elsewhere. -/
theorem carryOut_of_ok {first : Token} (h : execute run limit st m = (.ok (), m')) :
    carryOut run limit first st m =
      (.ok (), drained
        (if m.conditions.capturing && !st.isControl then
          { m' with conditions := m'.conditions.record true } else m')) := by
  rw [carryOut, Run.get_bind_apply, Run.bind_ok (Run.outcome_ok h), settle]
  cases m.conditions.capturing && !st.isControl with
  | true => exact drain_apply _
  | false => exact drain_apply _

/-- A failure that is the outcome of a predicate. -/
theorem carryOut_of_captured {first : Token} {f : Failure}
    (h : execute run limit st m = (.error (.failed f), m'))
    (hcaptured : (m.conditions.capturing && !st.isControl && f.isPredicate) = true) :
    carryOut run limit first st m =
      (.ok (), drained { m' with conditions := m'.conditions.record false }) := by
  rw [carryOut, Run.get_bind_apply, Run.bind_ok (Run.outcome_failed h), settle, if_pos hcaptured,
    Run.modify_bind_apply]
  exact drain_apply _

/-- A failure that is no outcome of a predicate. -/
theorem carryOut_of_raised {first : Token} {f : Failure}
    (h : execute run limit st m = (.error (.failed f), m'))
    (hraised : (m.conditions.capturing && !st.isControl && f.isPredicate) = false) :
    carryOut run limit first st m = (.error (.failed (f.withToken first)), m') := by
  rw [carryOut, Run.get_bind_apply, Run.bind_ok (Run.outcome_failed h), settle, hraised]
  rfl

theorem carryOut_of_unfinished {first : Token}
    (h : execute run limit st m = (.error .unfinished, m')) :
    carryOut run limit first st m = (.error .unfinished, m') := by
  rw [carryOut, Run.get_bind_apply, Run.bind_error (Run.outcome_unfinished h)]

/-- A word of a conditional is obeyed, skipped branch or not, or the machine stays as it was. -/
theorem step_control {first : Token} (word : Control) :
    step run limit first (.control word) m =
      match word.act m.conditions with
      | .ok conditions => (.ok (), drained { m with conditions })
      | .error e => (.error (.failed ((Failure.ofError (.syntaxFault e)).withToken first)), m) := by
  rw [step_of_not_skips (skips_control word m), carryOut, Run.get_bind_apply, execute,
    Statement.isControl, Bool.not_true, Bool.and_false]
  have hact := conditional_apply word m
  cases hword : word.act m.conditions with
  | ok conditions =>
    rw [hword] at hact
    rw [Run.bind_ok (Run.outcome_ok hact)]
    exact drain_apply _
  | error e =>
    rw [hword] at hact
    rw [Run.bind_ok (Run.outcome_failed hact)]
    rfl

-- ======== turns

theorem turn_of_step_ok (hmore : (m.read s).first.isFinish = false)
    (hparsed : (m.read s).parsed = .ok st)
    (hstep : step run limit (m.read s).first st (m.noting (m.read s)) = (.ok (), m')) :
    turn run limit s m = (.ok (some (st, (m.read s).after.source)), m') := by
  rw [turn_of_ok hmore hparsed, hstep]

/-- A turn in which a statement is passed over: it is only read. -/
theorem turn_of_skips (hmore : (m.read s).first.isFinish = false)
    (hparsed : (m.read s).parsed = .ok st) (hskip : (m.noting (m.read s)).skips st = true) :
    turn run limit s m = (.ok (some (st, (m.read s).after.source)), m.noting (m.read s)) :=
  turn_of_step_ok hmore hparsed (step_of_skips hskip)

/-- A turn in which a statement is carried out, and goes on. -/
theorem turn_of_carryOut {m₁ : Machine σ} (hmeets : Meets m s st m₁)
    (h : carryOut run limit (m.read s).first st m₁ = (.ok (), m')) :
    turn run limit s m = (.ok (some (st, (m.read s).after.source)), m') := by
  refine turn_of_step_ok hmeets.more hmeets.parsed ?_
  rw [← hmeets.noted, step_of_not_skips hmeets.carried, h]

/-- A turn in which a statement is carried out, and stops. -/
theorem turn_of_carryOut_error {m₁ : Machine σ} {e : Halt} (hmeets : Meets m s st m₁)
    (h : carryOut run limit (m.read s).first st m₁ = (.error e, m')) :
    turn run limit s m = (.error e, m') := by
  rw [turn_of_ok hmeets.more hmeets.parsed, ← hmeets.noted, step_of_not_skips hmeets.carried, h]

/-- Whatever statement is read at a place, it is carried out there. -/
def CarriesOut (m : Machine σ) (s : Source) : Prop :=
  ∀ ⦃st : Statement⦄, (m.read s).first.isFinish = false → (m.read s).parsed = .ok st →
    ∀ (run : Source → Run σ Unit) (limit : Nat),
      turn run limit s m =
        (carryOut run limit (m.read s).first st >>= fun _ =>
          pure (some (st, (m.read s).after.source))) (m.noting (m.read s))

theorem CarriesOut.of_not_skipping (h : m.conditions.skipping = false) : m.CarriesOut s := by
  intro st hmore hparsed run limit
  have hskip : (m.noting (m.read s)).skips st = false := by
    rw [skips]
    exact (Bool.and_eq_false_iff ..).2 (.inl h)
  rw [turn_of_ok hmore hparsed, step_of_not_skips hskip, Run.bind_apply]
  rcases carryOut run limit (m.read s).first st (m.noting (m.read s)) with ⟨_ | _, _⟩ <;> rfl

/-- A turn with a word of a conditional that is obeyed. -/
theorem turn_of_act {word : Control} {c : ConditionStack}
    (hmore : (m.read s).first.isFinish = false) (hparsed : (m.read s).parsed = .ok (.control word))
    (hact : word.act m.conditions = .ok c) :
    turn run limit s m =
      (.ok (some (.control word, (m.read s).after.source)),
        drained { m.noting (m.read s) with conditions := c }) := by
  refine turn_of_step_ok hmore hparsed ?_
  rw [step_control]
  simp only [noting, hact]

/-- A turn with a word of a conditional that cannot be obeyed. -/
theorem turn_of_act_error {word : Control} {e : SyntaxFault}
    (hmore : (m.read s).first.isFinish = false) (hparsed : (m.read s).parsed = .ok (.control word))
    (hact : word.act m.conditions = .error e) :
    turn run limit s m =
      (.error (.failed ((Failure.ofError (.syntaxFault e)).withToken (m.read s).first)),
        m.noting (m.read s)) := by
  rw [turn_of_ok hmore hparsed, step_control]
  simp only [noting, hact]

-- ======== trails

/-- A turn behind a run: the machine before it, the place, and the statement read there. -/
structure Leg (σ : Type) where
  machine : Machine σ
  source : Source
  statement : Statement

/-- A run comes, on one level of it, from one place to another by turns that all go well; the fuel
left at each place is given, and the legs of the way. -/
inductive Trail : Nat → Source → Machine σ → List (Leg σ) → Nat → Source → Machine σ → Prop
  | nil (n : Nat) (s : Source) (m : Machine σ) : Trail n s m [] n s m
  | cons {n k : Nat} {s s₁ s' : Source} {m m₁ m' : Machine σ} {st : Statement}
      {legs : List (Leg σ)} :
      turn (statements n) n s m = (.ok (some (st, s₁)), m₁) → Trail n s₁ m₁ legs k s' m' →
      Trail (n + 1) s m (⟨m, s, st⟩ :: legs) k s' m'

/-- The run from the start of a trail is the run from its end. -/
theorem Trail.statements_eq {n k : Nat} {s s' : Source} {m m' : Machine σ} {legs : List (Leg σ)}
    (h : Trail n s m legs k s' m') : statements n s m = statements k s' m' := by
  induction h with
  | nil => rfl
  | cons hturn _ ih =>
    rw [statements, Run.bind_ok hturn]
    exact ih

end Machine

end PageScript

/-
What stands between an `if` and its `then`.

There every statement is a predicate. One that fails in the ordinary way makes the branch be skipped, and
the run goes on with the next; any other failure is raised. A failure is weighed at the innermost
statement, so that a piece of script which a predicate runs weighs its own failures, and ends well
itself.

`results` lists how the statements of a run have come out, at any depth, in the order in which they have
been done. `Weighed` says how the run and the open conditional follow from that list. It is proved by one
induction for the predicates of an `if` and for the pieces of script in them.
-/
import PageScript.Proofs.Machine.Attempts

namespace PageScript

namespace ConditionStack

variable {c : ConditionStack}

theorem exists_of_capturing (h : c.capturing = true) :
    ∃ result below, c.entries = { phase := .predicate, result, outerSkip := false } :: below := by
  rcases c with ⟨_ | ⟨⟨phase, result, outerSkip⟩, below⟩⟩
  · cases h
  · have hboth : (decide (phase = .predicate) && !outerSkip) = true := h
    rw [Bool.and_eq_true, decide_eq_true_eq, Bool.not_eq_true'] at hboth
    obtain ⟨rfl, rfl⟩ := hboth
    exact ⟨result, below, rfl⟩

theorem record_of_entries {result : Bool} {below : List Pending}
    (h : c.entries = { phase := .predicate, result, outerSkip := false } :: below) (outcome : Bool) :
    (c.record outcome).entries =
      { phase := .predicate, result := result && outcome, outerSkip := false } :: below := by
  rw [record, h]
  rfl

theorem skipping_of_capturing (h : c.capturing = true) : c.skipping = false := by
  obtain ⟨result, below, hc⟩ := exists_of_capturing h
  rw [skipping, hc]
  rfl

theorem capturing_record (h : c.capturing = true) (outcome : Bool) :
    (c.record outcome).capturing = true := by
  obtain ⟨result, below, hc⟩ := exists_of_capturing h
  rw [capturing, record_of_entries hc]
  rfl

/-- What the predicates come to is whether all have held. -/
theorem record_record (h : c.capturing = true) (a b : Bool) :
    (c.record a).record b = c.record (a && b) := by
  obtain ⟨result, below, hc⟩ := exists_of_capturing h
  have hentries : ((c.record a).record b).entries = (c.record (a && b)).entries := by
    rw [record_of_entries (record_of_entries hc a), record_of_entries hc, Bool.and_assoc]
  exact congrArg ConditionStack.mk hentries

theorem depth_record (h : c.capturing = true) (outcome : Bool) : (c.record outcome).depth = c.depth := by
  obtain ⟨result, below, hc⟩ := exists_of_capturing h
  rw [depth, record_of_entries hc, depth, hc, List.length_cons, List.length_cons]

end ConditionStack

namespace Failure

/-- Whether a failure is the outcome of a predicate does not change on its way. -/
theorem Carried.isPredicate_eq {f g : Failure} (h : f.Carried g) : g.isPredicate = f.isPredicate := by
  rw [isPredicate, isRetryable, isPredicate, isRetryable, h.error]

end Failure

namespace Statement

/-- Whether a statement is neither a word of a conditional nor a loop. -/
def isStraight : Statement → Bool
  | .control _ | .while _ => false
  | _ => true

/-- What a check tries. -/
def probe? : Statement → Option Probe
  | .locate locator => some (.locate locator)
  | .verify probe => some probe
  | _ => none

end Statement

namespace Machine

variable {σ : Type}

-- ======== results

/-- How a statement has come out: the machine before it and after it, and its failure, if it has failed.
Where no statement could be read, there is only the failure. -/
structure Result (σ : Type) where
  statement : Option Statement
  before : Machine σ
  failure : Option Failure
  after : Machine σ

namespace Result

/-- The result of a statement that has been carried out to its end. -/
def of? (st : Statement) (m : Machine σ) : Except Halt Unit × Machine σ → Option (Result σ)
  | (.ok _, m') => some ⟨some st, m, none, m'⟩
  | (.error (.failed f), m') => some ⟨some st, m, some f, m'⟩
  | (.error .unfinished, _) => none

/-- Whether a statement has not failed. -/
def isGood (x : Result σ) : Bool :=
  x.failure.isNone

/-- Whether a failure is no outcome of a predicate. -/
def isFatal (x : Result σ) : Bool :=
  x.failure.any (!·.isPredicate)

/-- Whether a statement was neither a word of a conditional nor a loop. -/
def isStraight (x : Result σ) : Bool :=
  x.statement.all (·.isStraight)

end Result

/-- Whether the next statement at a place is a `then`. -/
def atThen (m : Machine σ) (s : Source) : Bool :=
  match (m.read s).parsed with
  | .ok (.control .thenEnter) => !(m.read s).first.isFinish
  | _ => false

/-- Nowhere. -/
def never (_ : Machine σ) (_ : Source) : Bool :=
  false

variable [World σ]

/-- Runs the statements of a source up to a place at which to stop, with what is left of the fuel there; or
to its end, if it comes to no such place. -/
def upTo (stop : Machine σ → Source → Bool) : (fuel : Nat) → Source → Run σ (Option (Nat × Source))
  | 0, _ => throw .unfinished
  | n + 1, s => do
    if stop (← get) s then return some (n + 1, s)
    match ← turn (statements n) n s with
    | none => return none
    | some (_, behind) => upTo stop n behind

/-- The results of the statement at a place, and in front of it those of the pieces of script that it runs,
if `rest` gives them. -/
def resultsAt (rest : Source → Machine σ → List (Result σ)) (n : Nat) (s : Source) (m : Machine σ) :
    List (Result σ) :=
  let noted := m.noting (m.read s)
  match (m.read s).parsed with
  | .error f => [⟨none, noted, some f, noted⟩]
  | .ok st =>
    if noted.skips st then []
    else
      (entries (statements n) n st noted).flatMap (fun p => rest p.1 p.2) ++
        (Result.of? st noted (execute (statements n) n st noted)).toList

/-- The results behind the statement at a place, if `rest` gives those of runs. -/
def resultsBehind (rest : Source → Machine σ → List (Result σ)) (n : Nat) (s : Source)
    (m : Machine σ) : List (Result σ) :=
  match turn (statements n) n s m with
  | (.ok (some (_, behind)), m₁) => rest behind m₁
  | _ => []

/-- The results of a run up to a place at which to stop, one after the other. -/
def results : (fuel : Nat) → (stop : Machine σ → Source → Bool) → Source → Machine σ → List (Result σ)
  | 0, _, _, _ => []
  | n + 1, stop, s, m =>
    if stop m s || (m.read s).first.isFinish then []
    else resultsAt (results n never) n s m ++ resultsBehind (results n stop) n s m

-- ======== stopping

section Stopping

variable {stop : Machine σ → Source → Bool} {n : Nat} {s s₁ : Source} {m m₁ : Machine σ}
  {st : Statement}

theorem upTo_of_stop (h : stop m s = true) : upTo stop (n + 1) s m = (.ok (some (n + 1, s)), m) := by
  rw [upTo, Run.get_bind_apply, if_pos h]
  rfl

theorem upTo_of_some (hstop : stop m s = false)
    (hturn : turn (statements n) n s m = (.ok (some (st, s₁)), m₁)) :
    upTo stop (n + 1) s m = upTo stop n s₁ m₁ := by
  rw [upTo, Run.get_bind_apply, if_neg (by simp [hstop]), Run.bind_ok hturn]

theorem upTo_of_none (hstop : stop m s = false)
    (hturn : turn (statements n) n s m = (.ok none, m₁)) :
    upTo stop (n + 1) s m = (.ok none, m₁) := by
  rw [upTo, Run.get_bind_apply, if_neg (by simp [hstop]), Run.bind_ok hturn]
  rfl

theorem upTo_of_error {e : Halt} (hstop : stop m s = false)
    (hturn : turn (statements n) n s m = (.error e, m₁)) :
    upTo stop (n + 1) s m = (.error e, m₁) := by
  rw [upTo, Run.get_bind_apply, if_neg (by simp [hstop]), Run.bind_error hturn]

/-- Goes on at a place, if there is one. -/
def goOn : Option (Nat × Source) → Run σ Unit
  | some (k, s) => statements k s
  | none => pure ()

/-- Wherever a run stops, it may go on from there. -/
theorem statements_eq_upTo (stop : Machine σ → Source → Bool) (n : Nat) (s : Source) (m : Machine σ) :
    statements n s m = (upTo stop n s >>= goOn) m := by
  induction n generalizing s m with
  | zero => rfl
  | succ n ih =>
    cases hstop : stop m s with
    | true => rw [Run.bind_ok (upTo_of_stop hstop), goOn]
    | false =>
      rcases hturn : turn (statements n) n s m with ⟨e | _ | ⟨st, s₁⟩, m₁⟩
      · rw [statements, Run.bind_error hturn, Run.bind_error (upTo_of_error hstop hturn)]
      · rw [statements, Run.bind_ok hturn, Run.bind_ok (upTo_of_none hstop hturn), goOn]
      · rw [statements_of_some hturn, ih, Run.bind_apply, Run.bind_apply, upTo_of_some hstop hturn]

theorem eq_none_of_never {o : Option (Nat × Source)} (h : upTo never n s m = (.ok o, m₁)) :
    o = none := by
  induction n generalizing s m with
  | zero => cases h
  | succ n ih =>
    have hstop : never m s = false := rfl
    rcases hturn : turn (statements n) n s m with ⟨e | _ | ⟨st, s₁⟩, m₂⟩
    · rw [upTo_of_error hstop hturn] at h
      cases h
    · rw [upTo_of_none hstop hturn] at h
      cases h
      rfl
    · rw [upTo_of_some hstop hturn] at h
      exact ih h

/-- A run that stops nowhere. -/
theorem statements_eq_never (n : Nat) (s : Source) (m : Machine σ) :
    statements n s m = (upTo never n s >>= fun _ => pure ()) m := by
  rw [statements_eq_upTo never]
  rcases hrun : upTo never n s m with ⟨e | o, m₁⟩
  · rw [Run.bind_error hrun, Run.bind_error hrun]
  · rw [Run.bind_ok hrun, Run.bind_ok hrun, eq_none_of_never hrun, goOn]

end Stopping

-- ======== tried only once

section Once

variable {run : Source → Run σ Unit} {limit : Nat} {probe : Probe} {st : Statement} {m m' : Machine σ}

/-- A check has been tried once, and in no time: there has been one call, or one more behind a `not` that
has held, after which no element is the current one. -/
def TriedOnce (probe : Probe) (m m' : Machine σ) : Prop :=
  m'.clock = m.clock ∧
    (m'.calls = probe.call :: m.calls ∨ m'.calls = .clearCurrent :: probe.call :: m.calls)

/-- Where outcomes are captured, the first attempt is the last. -/
theorem verify_of_capturing (limit : Nat) (probe : Probe) (hcapturing : m.conditions.capturing = true) :
    ∃ r, verify limit probe m = (r, { m with negateNext := false }.asking probe.call) := by
  obtain ⟨o, hattempt⟩ := attempt_outcome probe { m with negateNext := false }
  have hstops : ({ m with negateNext := false }.asking probe.call).Stops
      (judge probe m.negateNext o) := fun f _ => .inr (.inl hcapturing)
  have hattempts : ∃ k, m.attempts limit = k + 1 := by
    rw [attempts]
    split
    · exact ⟨_, rfl⟩
    · exact ⟨_, rfl⟩
  obtain ⟨k, hk⟩ := hattempts
  rw [verify, Run.modifyGet_bind_apply, hk]
  exact ⟨_, retry_of_stops hattempt hstops⟩

theorem triedOnce_of_capturing {r : Except Halt Unit} (hprobe : st.probe? = some probe)
    (hcapturing : m.conditions.capturing = true) (hrun : execute run limit st m = (r, m')) :
    TriedOnce probe m m' := by
  cases st with
  | verify other =>
    cases hprobe
    obtain ⟨r₁, hverify⟩ := verify_of_capturing limit probe hcapturing
    rw [execute, hverify] at hrun
    cases hrun
    exact ⟨rfl, .inl rfl⟩
  | locate locator =>
    cases hprobe
    have hcapturing₁ : { m with current := some locator }.conditions.capturing = true := hcapturing
    obtain ⟨r₁, hverify⟩ := verify_of_capturing limit (.locate locator) hcapturing₁
    rw [execute, Run.modifyGet_bind_apply] at hrun
    rcases r₁ with e | ⟨⟩
    · rw [Run.bind_error hverify] at hrun
      cases hrun
      exact ⟨rfl, .inl rfl⟩
    · rw [Run.bind_ok hverify] at hrun
      cases hnegated : m.negateNext with
      | true =>
        rw [hnegated] at hrun
        cases hrun
        exact ⟨rfl, .inr rfl⟩
      | false =>
        rw [hnegated] at hrun
        cases hrun
        exact ⟨rfl, .inl rfl⟩
  | _ => cases hprobe

/-- If the statement was a check, it has been tried once. -/
def Result.IsBrief (x : Result σ) : Prop :=
  ∀ st probe, x.statement = some st → st.probe? = some probe → TriedOnce probe x.before x.after

theorem Result.isBrief_of_capturing {failure : Option Failure} {r : Except Halt Unit}
    (hcapturing : m.conditions.capturing = true) (hrun : execute run limit st m = (r, m')) :
    (⟨some st, m, failure, m'⟩ : Result σ).IsBrief := by
  rintro _ probe ⟨⟩ hprobe
  exact triedOnce_of_capturing hprobe hcapturing hrun

end Once

-- ======== weighing

/-- A failure is that of a statement with some result, passed on, and nothing else has been done since:
only frames and conditionals have been closed. -/
structure Result.Raises (x : Result σ) (g : Failure) (m : Machine σ) : Prop where
  failure : ∃ f, x.failure = some f ∧ f.Carried g
  machine : ∃ frames conditions, m = { x.after with frames, conditions }

/-- How a run in front of a `then`, and what its predicates come to, follow from the results. If none is
fatal, then the run ends well, and the conditional knows whether all are good. Otherwise the first that is
fatal is raised. Either way each check has been tried once. -/
inductive Weighed {α : Type} (xs : List (Result σ)) (m : Machine σ) :
    Except Halt α → Machine σ → Prop
  | ended {a : α} {m' : Machine σ} : (∀ x ∈ xs, x.IsBrief) → (∀ x ∈ xs, x.isFatal = false) →
      m'.conditions = m.conditions.record (xs.all (·.isGood)) → Weighed xs m (.ok a) m'
  | raised {x : Result σ} {g : Failure} {m' : Machine σ} : (∀ x ∈ xs, x.IsBrief) →
      xs.find? (·.isFatal) = some x → x.Raises g m' → Weighed xs m (.error (.failed g)) m'
  | unfinished {m' : Machine σ} : Weighed xs m (.error .unfinished) m'

section Weighed

variable {x : Result σ} {xs : List (Result σ)} {rest : Source → Machine σ → List (Result σ)} {n : Nat}
  {s : Source} {m m₁ m' : Machine σ} {st : Statement} {r : Except Halt Unit} {g : Failure}

omit [World σ] in
theorem Result.Raises.withToken (h : x.Raises g m) (t : Token) : x.Raises (g.withToken t) m := by
  obtain ⟨f, hf, hcarried⟩ := h.failure
  exact ⟨⟨f, hf, hcarried.trans (.withToken ..)⟩, h.machine⟩

omit [World σ] in
theorem Result.Raises.inFrame (h : x.Raises g m) (trace : List TraceEntry) (depth : Nat) :
    x.Raises (g.withTrace trace) (m.closing depth).leaving := by
  obtain ⟨f, hf, hcarried⟩ := h.failure
  obtain ⟨frames, conditions, rfl⟩ := h.machine
  exact ⟨⟨f, hf, hcarried.trans (.withTrace ..)⟩, ⟨_, _, rfl⟩⟩

omit [World σ] in
/-- A fatal failure is so wherever it is passed on to. -/
theorem Result.Raises.isPredicate_eq (h : x.Raises g m) (hfatal : x.isFatal = true) :
    g.isPredicate = false := by
  obtain ⟨f, hf, hcarried⟩ := h.failure
  rw [isFatal, hf, Option.any_some, Bool.not_eq_true'] at hfatal
  rw [hcarried.isPredicate_eq, hfatal]

omit [World σ] in
theorem Weighed.nil {α : Type} {a : α} (hconditions : m'.conditions = m.conditions) :
    Weighed [] m (.ok a) m' := by
  refine .ended (fun x hx => absurd hx List.not_mem_nil) (fun x hx => absurd hx List.not_mem_nil) ?_
  rw [hconditions]
  exact (ConditionStack.record_true _).symm

omit [World σ] in
theorem Weighed.congr {α : Type} {r : Except Halt α} (h : Weighed xs m₁ r m')
    (hm : m₁.conditions = m.conditions) : Weighed xs m r m' := by
  cases h with
  | ended hbrief hfatal hconditions => exact .ended hbrief hfatal (hm ▸ hconditions)
  | raised hbrief hfind hraises => exact .raised hbrief hfind hraises
  | unfinished => exact .unfinished

omit [World σ] in
/-- A run that stops has no value. -/
theorem Weighed.of_error {α β : Type} {e : Halt} (h : Weighed (α := α) xs m (.error e) m') :
    Weighed (α := β) xs m (.error e) m' := by
  cases h with
  | raised hbrief hfind hraises => exact .raised hbrief hfind hraises
  | unfinished => exact .unfinished

omit [World σ] in
/-- What has been weighed stays, and what comes behind it is weighed too. -/
theorem Weighed.append {α β : Type} {a : α} {ys : List (Result σ)} {r : Except Halt β}
    (hcapturing : m.conditions.capturing = true) (h : Weighed xs m (.ok a) m₁)
    (h' : Weighed ys m₁ r m') : Weighed (xs ++ ys) m r m' := by
  cases h with
  | ended hbrief hfatal hconditions =>
    have hboth {P : Result σ → Prop} (hxs : ∀ x ∈ xs, P x) (hys : ∀ x ∈ ys, P x) :
        ∀ x ∈ xs ++ ys, P x :=
      fun x hx => (List.mem_append.1 hx).elim (hxs x) (hys x)
    cases h' with
    | ended hbrief' hfatal' hconditions' =>
      refine .ended (hboth hbrief hbrief') (hboth hfatal hfatal') ?_
      rw [hconditions', hconditions, ConditionStack.record_record hcapturing, List.all_append]
    | raised hbrief' hfind hraises =>
      -- What was fatal comes behind all that went well.
      have hnone : xs.find? (·.isFatal) = none := by
        rw [List.find?_eq_none]
        intro x hx
        rw [hfatal x hx]
        exact Bool.false_ne_true
      refine .raised (hboth hbrief hbrief') ?_ hraises
      rw [List.find?_append, hnone, Option.none_or, hfind]
    | unfinished => exact .unfinished

omit [World σ] in
/-- A piece of script in a frame is weighed as its statements are. -/
theorem Weighed.inFrame {run : Source → Run σ Unit} {name : String} {dir : Path}
    {r₁ : Except Halt Unit} (hcapturing : m.conditions.capturing = true)
    (hpiece : run s (m.entering name dir) = (r₁, m₁)) (h : Weighed xs (m.entering name dir) r₁ m₁)
    (hframe : Machine.inFrame run name dir s m = (r, m')) : Weighed xs m r m' := by
  rw [inFrame_apply, block_apply, hpiece] at hframe
  cases h with
  | ended hbrief hfatal hconditions =>
    -- The piece has recorded outcomes and opened nothing, so that there is nothing to close behind it.
    have hdepth : m₁.conditions.depth = m.conditions.depth := by
      rw [hconditions]
      exact ConditionStack.depth_record hcapturing _
    have hclosed : ¬(m.entering name dir).conditions.depth < m₁.conditions.depth := by
      rw [hdepth]
      exact Nat.lt_irrefl _
    rw [blockEnd, if_neg hclosed] at hframe
    cases hframe
    refine .ended hbrief hfatal ?_
    show m₁.conditions.truncate m.conditions.depth = _
    rw [ConditionStack.truncate_of_le (Nat.le_of_eq hdepth), hconditions]
    rfl
  | raised hbrief hfind hraises =>
    rw [blockEnd] at hframe
    cases hframe
    exact .raised hbrief hfind (hraises.inFrame ..)
  | unfinished =>
    rw [blockEnd] at hframe
    cases hframe
    exact .unfinished

/-- A statement that is no word of a conditional, and runs no script, does nothing to the conditionals. -/
theorem conditions_of_straight {run : Source → Run σ Unit} {limit : Nat}
    (hstraight : st.isStraight = true) (hscript : st.runsScript = false)
    (hrun : execute run limit st m = (r, m')) (hended : Halt.Ended r) :
    m'.conditions = m.conditions := by
  obtain h | ⟨-, _, _, _, rfl⟩ | ⟨-, rfl⟩ | ⟨_, -, rfl⟩ | ⟨_, _, rfl, -⟩ :=
    execute_cases hscript hrun hended
  · exact h.conditions
  · rfl
  · rfl
  · rfl
  · cases hstraight

/-- Where outcomes are captured, a statement is weighed by the pieces of script that it runs, or it runs
none and fails by itself. -/
theorem execute_weighed (hcapturing : m.conditions.capturing = true)
    (hstraight : st.isStraight = true)
    (hpieces : ∀ s m₁ r m₂, m₁.conditions.capturing = true →
      (s, m₁) ∈ entries (statements n) n st m → statements n s m₁ = (r, m₂) →
        Weighed (rest s m₁) m₁ r m₂)
    (hrun : execute (statements n) n st m = (r, m')) :
    Weighed ((entries (statements n) n st m).flatMap fun p => rest p.1 p.2) m r m' ∨
    entries (statements n) n st m = [] ∧ m'.conditions = m.conditions ∧
      ∃ f, r = .error (.failed f) := by
  cases hscript : st.runsScript with
  | false =>
    rw [entries_of_not_runsScript hscript, List.flatMap_nil]
    rcases r with (f | _) | ⟨⟩
    · exact .inr ⟨rfl, conditions_of_straight hstraight hscript hrun (by rintro ⟨⟩), f, rfl⟩
    · exact .inl .unfinished
    · exact .inl (.nil (conditions_of_straight hstraight hscript hrun (Halt.ended_ok _)))
  | true =>
    have hloop : ∀ body, st ≠ .while body := by
      rintro body rfl
      cases hstraight
    have hcases := script_cases (statements n) n m discreet.log discreet.runProgram hscript hloop
    obtain ⟨hentries, hkeeps, hnever⟩ | ⟨name, dir, s, m₁, hentries, hruns, hm₁⟩ := hcases
    · rcases r with (f | _) | ⟨⟩
      · exact .inr ⟨hentries, (hkeeps hrun (by rintro ⟨⟩)).conditions, f, rfl⟩
      · exact .inl .unfinished
      · exact absurd hrun (hnever m')
    · have hcapturing₁ : m₁.conditions.capturing = true := by rwa [hm₁.conditions]
      rcases hpiece : statements n s (m₁.entering name dir) with ⟨r₁, m₂⟩
      have hweighed := hpieces s (m₁.entering name dir) r₁ m₂ hcapturing₁
        (by rw [hentries]; exact List.mem_singleton_self _) hpiece
      rw [hruns] at hrun
      rw [hentries, List.flatMap_singleton]
      exact .inl ((hweighed.inFrame hcapturing₁ hpiece hrun).congr hm₁.conditions)

theorem resultsAt_of_error {f : Failure} (h : (m.read s).parsed = .error f) :
    resultsAt rest n s m = [⟨none, m.noting (m.read s), some f, m.noting (m.read s)⟩] := by
  rw [resultsAt, h]

theorem resultsAt_of_meets (h : Meets m s st m₁) :
    resultsAt rest n s m =
      (entries (statements n) n st m₁).flatMap (fun p => rest p.1 p.2) ++
        (Result.of? st m₁ (execute (statements n) n st m₁)).toList := by
  obtain rfl := h.noted
  rw [resultsAt, h.parsed]
  dsimp only
  rw [h.carried]
  rfl

theorem isControl_of_straight (h : st.isStraight = true) : st.isControl = false := by
  cases st with
  | control word => cases h
  | _ => rfl

/-- The turn with a statement that has gone well. -/
theorem turn_weighed_of_ok {r : Except Halt (Option (Statement × Source))} {m₂ : Machine σ}
    (hmeets : Meets m s st m₁) (hcapturing : m₁.conditions.capturing = true)
    (hstraight : st.isStraight = true) (hexec : execute (statements n) n st m₁ = (.ok (), m₂))
    (h : Weighed xs m₁ (.ok ()) m₂) (hturn : turn (statements n) n s m = (r, m')) :
    Weighed (xs ++ [⟨some st, m₁, none, m₂⟩]) m₁ r m' := by
  rw [turn_of_carryOut hmeets (carryOut_of_ok hexec), hcapturing, isControl_of_straight hstraight]
    at hturn
  cases hturn
  refine h.append hcapturing (.ended (fun x hx => ?_) (fun x hx => ?_) (drained_conditions _))
  · rw [List.mem_singleton.1 hx]
    exact Result.isBrief_of_capturing hcapturing hexec
  · rw [List.mem_singleton.1 hx]
    rfl

/-- The turn with a statement that has failed: because of a piece of script that it has run, or by
itself. -/
theorem turn_weighed_of_failed {r : Except Halt (Option (Statement × Source))} {m₂ : Machine σ}
    {f : Failure} (hmeets : Meets m s st m₁) (hcapturing : m₁.conditions.capturing = true)
    (hstraight : st.isStraight = true)
    (hexec : execute (statements n) n st m₁ = (.error (.failed f), m₂))
    (h : Weighed (α := Unit) xs m₁ (.error (.failed f)) m₂ ∨ xs = [] ∧ m₂.conditions = m₁.conditions)
    (hturn : turn (statements n) n s m = (r, m')) :
    Weighed (xs ++ [⟨some st, m₁, some f, m₂⟩]) m₁ r m' := by
  have hcaptured : (m₁.conditions.capturing && !st.isControl && f.isPredicate) = f.isPredicate := by
    rw [hcapturing, isControl_of_straight hstraight]
    rfl
  have hbrief : (⟨some st, m₁, some f, m₂⟩ : Result σ).IsBrief :=
    Result.isBrief_of_capturing hcapturing hexec
  have hfatal : (⟨some st, m₁, some f, m₂⟩ : Result σ).isFatal = !f.isPredicate := rfl
  obtain hpiece | ⟨rfl, hconditions⟩ := h
  · -- A piece of script has dealt with its own predicates, so that what comes out of it is fatal, and is
    -- not captured around it either.
    cases hpiece with
    | raised hbrief' hfind hraises =>
      have hpredicate := hraises.isPredicate_eq (List.find?_some hfind)
      rw [turn_of_carryOut_error hmeets (carryOut_of_raised hexec (hcaptured.trans hpredicate))] at hturn
      cases hturn
      refine .raised (fun x hx => ?_) ?_ (hraises.withToken _)
      · rcases List.mem_append.1 hx with hx | hx
        · exact hbrief' x hx
        · rw [List.mem_singleton.1 hx]
          exact hbrief
      · rw [List.find?_append, hfind, Option.some_or]
  · have hall : ∀ x ∈ ([⟨some st, m₁, some f, m₂⟩] : List (Result σ)), x.IsBrief := by
      intro x hx
      rw [List.mem_singleton.1 hx]
      exact hbrief
    cases hpredicate : f.isPredicate with
    | true =>
      rw [turn_of_carryOut hmeets (carryOut_of_captured hexec (hcaptured.trans hpredicate))] at hturn
      cases hturn
      refine .ended hall (fun x hx => ?_) ?_
      · rw [List.mem_singleton.1 hx, hfatal, hpredicate]
        rfl
      · rw [drained_conditions, hconditions]
        rfl
    | false =>
      rw [turn_of_carryOut_error hmeets (carryOut_of_raised hexec (hcaptured.trans hpredicate))] at hturn
      cases hturn
      refine .raised hall (List.find?_cons_of_pos ?_) ⟨⟨f, rfl, .withToken ..⟩, ⟨_, _, rfl⟩⟩
      rw [hfatal, hpredicate]
      rfl

/-- Where outcomes are captured, so is what the statement at a place comes to. -/
theorem turn_weighed {r : Except Halt (Option (Statement × Source))}
    (hcapturing : m.conditions.capturing = true) (hmore : (m.read s).first.isFinish = false)
    (hstraight : ∀ x ∈ resultsAt rest n s m, x.isStraight = true)
    (hpieces : ∀ s m₁ r m₂, m₁.conditions.capturing = true → (∀ x ∈ rest s m₁, x.isStraight = true) →
      statements n s m₁ = (r, m₂) → Weighed (rest s m₁) m₁ r m₂)
    (hturn : turn (statements n) n s m = (r, m')) : Weighed (resultsAt rest n s m) m r m' := by
  cases hparsed : (m.read s).parsed with
  | error f =>
    rw [turn_of_error hmore hparsed] at hturn
    cases hturn
    obtain ⟨fault, t, rfl⟩ := read_eq_error hparsed
    rw [resultsAt_of_error hparsed]
    refine .raised (fun x hx => ?_) rfl ⟨⟨_, rfl, .refl _⟩, ⟨_, _, rfl⟩⟩
    rw [List.mem_singleton.1 hx]
    rintro _ _ ⟨⟩
  | ok st =>
    have hmeets : Meets m s st (m.noting (m.read s)) := by
      refine ⟨hmore, hparsed, rfl, ?_⟩
      rw [skips]
      exact (Bool.and_eq_false_iff ..).2 (.inl (ConditionStack.skipping_of_capturing hcapturing))
    generalize hm₁ : m.noting (m.read s) = m₁ at hmeets
    have hconditions : m₁.conditions = m.conditions := hm₁ ▸ rfl
    have hcapturing₁ : m₁.conditions.capturing = true := by rwa [hconditions]
    rw [resultsAt_of_meets hmeets] at hstraight ⊢
    have hweighed (hst : st.isStraight = true) {r m₂}
        (hexec : execute (statements n) n st m₁ = (r, m₂)) :=
      execute_weighed hcapturing₁ hst (fun s m₃ r m₄ hcapturing₃ hmem => by
        refine hpieces s m₃ r m₄ hcapturing₃ fun x hx => hstraight x ?_
        exact List.mem_append_left _ (List.mem_flatMap.2 ⟨_, hmem, hx⟩)) hexec
    rcases hexec : execute (statements n) n st m₁ with ⟨(f | _) | ⟨⟩, m₂⟩
    · rw [hexec] at hstraight
      have hst : st.isStraight = true :=
        hstraight ⟨some st, m₁, some f, m₂⟩ (List.mem_append_right _ (List.mem_singleton_self _))
      refine (turn_weighed_of_failed hmeets hcapturing₁ hst hexec ?_ hturn).congr hconditions
      refine (hweighed hst hexec).imp_right fun hnone => ⟨?_, hnone.2.1⟩
      rw [hnone.1, List.flatMap_nil]
    · rw [turn_of_carryOut_error hmeets (carryOut_of_unfinished hexec)] at hturn
      cases hturn
      exact .unfinished
    · rw [hexec] at hstraight
      have hst : st.isStraight = true :=
        hstraight ⟨some st, m₁, none, m₂⟩ (List.mem_append_right _ (List.mem_singleton_self _))
      obtain hdone | ⟨-, -, f, ⟨⟩⟩ := hweighed hst hexec
      exact (turn_weighed_of_ok hmeets hcapturing₁ hst hexec hdone hturn).congr hconditions

end Weighed

-- ======== runs

section Runs

variable {stop : Machine σ → Source → Bool} {n k : Nat} {s s₁ : Source} {m m₁ m' : Machine σ}
  {st : Statement}

theorem results_of_stop (h : stop m s = true) : results (n + 1) stop s m = [] := by
  rw [results, if_pos (by rw [h, Bool.true_or])]

theorem results_of_finish (h : (m.read s).first.isFinish = true) : results (n + 1) stop s m = [] := by
  rw [results, if_pos (by rw [h, Bool.or_true])]

theorem results_of_more (hstop : stop m s = false) (hmore : (m.read s).first.isFinish = false) :
    results (n + 1) stop s m =
      resultsAt (results n never) n s m ++ resultsBehind (results n stop) n s m := by
  rw [results, hstop, hmore]
  rfl

/-- With so much fuel, a run in which outcomes are captured is weighed by its results. -/
def Weighs (σ : Type) [World σ] (n : Nat) : Prop :=
  ∀ (stop : Machine σ → Source → Bool) s m r m', m.conditions.capturing = true →
    (∀ x ∈ results n stop s m, x.isStraight = true) → upTo stop n s m = (r, m') →
      Weighed (results n stop s m) m r m'

theorem Weighs.statements (h : Weighs σ n) {r : Except Halt Unit}
    (hcapturing : m.conditions.capturing = true)
    (hstraight : ∀ x ∈ results n never s m, x.isStraight = true)
    (hrun : statements n s m = (r, m')) : Weighed (results n never s m) m r m' := by
  rw [statements_eq_never] at hrun
  rcases hupTo : upTo never n s m with ⟨e | o, m₁⟩
  · rw [Run.bind_error hupTo] at hrun
    cases hrun
    exact (h never s m _ _ hcapturing hstraight hupTo).of_error
  · rw [Run.bind_ok hupTo] at hrun
    cases hrun
    cases h never s m _ _ hcapturing hstraight hupTo with
    | ended hbrief hfatal hconditions => exact .ended hbrief hfatal hconditions

theorem Weighs.turn (h : Weighs σ n) {r : Except Halt (Option (Statement × Source))}
    (hcapturing : m.conditions.capturing = true) (hmore : (m.read s).first.isFinish = false)
    (hstraight : ∀ x ∈ resultsAt (results n never) n s m, x.isStraight = true)
    (hturn : turn (Machine.statements n) n s m = (r, m')) :
    Weighed (resultsAt (results n never) n s m) m r m' :=
  turn_weighed hcapturing hmore hstraight (fun _ _ _ _ => h.statements) hturn

/-- Where outcomes are captured, a run is weighed by its results. The induction is on the fuel, for the
pieces of script in the run as for its own statements. -/
theorem weighs (n : Nat) : Weighs σ n := by
  induction n with
  | zero =>
    intro stop s m r m' _ _ hrun
    cases hrun
    exact .unfinished
  | succ n ih =>
    intro stop s m r m' hcapturing hstraight hrun
    cases hstop : stop m s with
    | true =>
      rw [upTo_of_stop hstop] at hrun
      cases hrun
      rw [results_of_stop hstop]
      exact .nil rfl
    | false =>
      cases hmore : (m.read s).first.isFinish with
      | true =>
        rw [upTo_of_none hstop (turn_of_finish hmore)] at hrun
        cases hrun
        rw [results_of_finish hmore]
        exact .nil rfl
      | false =>
        rw [results_of_more hstop hmore] at hstraight ⊢
        have hhere := fun x hx => hstraight x (List.mem_append_left _ hx)
        have hbehind := fun x hx => hstraight x (List.mem_append_right _ hx)
        rcases hturn : Machine.turn (Machine.statements n) n s m with ⟨e | _ | ⟨st, s₁⟩, m₁⟩
        · rw [upTo_of_error hstop hturn] at hrun
          cases hrun
          rw [resultsBehind, hturn, List.append_nil]
          exact (ih.turn hcapturing hmore hhere hturn).of_error
        · rw [turn_eq_none hturn] at hmore
          cases hmore
        · rw [upTo_of_some hstop hturn] at hrun
          rw [resultsBehind, hturn] at hbehind ⊢
          have hweighed := ih.turn hcapturing hmore hhere hturn
          have hcapturing₁ : m₁.conditions.capturing = true := by
            cases hweighed with
            | ended _ _ hconditions =>
              rw [hconditions]
              exact ConditionStack.capturing_record hcapturing _
          exact hweighed.append hcapturing (ih stop s₁ m₁ r m' hcapturing₁ hbehind hrun)

/-- A run has stopped where it was to stop. -/
theorem upTo_eq_some (h : upTo stop n s m = (.ok (some (k, s₁)), m')) :
    stop m' s₁ = true ∧ ∃ j, k = j + 1 := by
  induction n generalizing s m with
  | zero => cases h
  | succ n ih =>
    cases hstop : stop m s with
    | true =>
      rw [upTo_of_stop hstop] at h
      cases h
      exact ⟨hstop, n, rfl⟩
    | false =>
      rcases hturn : turn (statements n) n s m with ⟨e | _ | ⟨st, s₂⟩, m₁⟩
      · rw [upTo_of_error hstop hturn] at h
        cases h
      · rw [upTo_of_none hstop hturn] at h
        cases h
      · rw [upTo_of_some hstop hturn] at h
        exact ih h

end Runs

-- ======== branches

section Branches

variable {n : Nat} {s s₀ : Source} {m m₀ m' : Machine σ} {run : Source → Run σ Unit} {limit : Nat}

theorem conditions_of_ifBegin
    (h : turn run limit s₀ m₀ = (.ok (some (.control .ifBegin, s)), m)) :
    m.conditions = m₀.conditions.begin := by
  obtain ⟨hmore, hparsed, -, -⟩ := turn_eq_some h
  rw [turn_of_act hmore hparsed (c := m₀.conditions.begin) rfl] at h
  cases h
  exact drained_conditions _

omit [World σ] in
theorem parsed_of_atThen (h : atThen m s = true) :
    (m.read s).first.isFinish = false ∧ (m.read s).parsed = .ok (.control .thenEnter) := by
  rw [atThen] at h
  split at h
  · exact ⟨by rwa [Bool.not_eq_true'] at h, ‹_›⟩
  · cases h

/-- With the `then`, what the predicates have come to decides about the branch. -/
theorem turn_of_atThen (run : Source → Run σ Unit) (limit : Nat) {result : Bool}
    {below : List Pending} (h : atThen m s = true)
    (hentries : m.conditions.entries = { phase := .predicate, result, outerSkip := false } :: below) :
    ∃ s' m', turn run limit s m = (.ok (some (.control .thenEnter, s')), m') ∧
      m'.conditions.skipping = !result := by
  obtain ⟨hmore, hparsed⟩ := parsed_of_atThen h
  have hact := Control.act_thenEnter_eq_ok.2 ⟨_, _, hentries, rfl, rfl⟩
  refine ⟨_, _, turn_of_act hmore hparsed hact, ?_⟩
  rw [drained_conditions]
  rfl

omit [World σ] in
theorem Result.isFatal_eq_false {x : Result σ}
    (h : ∀ f, x.failure = some f → f.isPredicate = true) : x.isFatal = false := by
  rw [isFatal]
  cases hfailure : x.failure with
  | none => rfl
  | some f =>
    rw [Option.any_some, h f hfailure]
    rfl

/-- A branch is taken exactly if all its predicates have held. From an `if` outside of skipped branches,
let the run end or come to the `then`, with no word of a conditional and no loop in between, at any depth.
Each check has then been tried once, and in no time. If every failure is the outcome of a predicate, then
the run comes to the `then`, provided that the source does not end first; and the branch is carried out
exactly if nothing has failed, at any depth. The first failure of another kind is raised at once, and the
block around the `if` fails with it. -/
theorem branch_taken_iff {r : Except Halt (Option (Nat × Source))}
    (hif : turn (statements n) n s₀ m₀ = (.ok (some (.control .ifBegin, s)), m))
    (houter : m₀.conditions.skipping = false) (hrun : upTo atThen n s m = (r, m'))
    (hended : Halt.Ended r) (hstraight : ∀ x ∈ results n atThen s m, x.isStraight = true) :
    (∀ x ∈ results n atThen s m, ∀ st probe, x.statement = some st → st.probe? = some probe →
      TriedOnce probe x.before x.after) ∧
    (r ≠ .ok none →
      (∀ x ∈ results n atThen s m, ∀ f, x.failure = some f → f.isPredicate = true) →
        ∃ k s₁ s₂ m₂, r = .ok (some (k + 1, s₁)) ∧
          statements (n + 1) s₀ m₀ = statements (k + 1) s₁ m' ∧
          turn (statements k) k s₁ m' = (.ok (some (.control .thenEnter, s₂)), m₂) ∧
          (m₂.conditions.skipping = false ↔ ∀ x ∈ results n atThen s m, x.failure = none)) ∧
    ∀ x, (results n atThen s m).find? (·.isFatal) = some x →
      ∃ g, x.Raises g m' ∧ g.isPredicate = false ∧ r = .error (.failed g) ∧
        ∀ n₀ b m₁ legs, Trail n₀ b m₁ legs (n + 1) s₀ m₀ →
          block (statements n₀) b m₁ = (.error (.failed g), m'.closing m₁.conditions.depth) := by
  have hbegun : m.conditions.entries =
      { phase := .predicate, result := true, outerSkip := false } :: m₀.conditions.entries := by
    rw [conditions_of_ifBegin hif, ConditionStack.begin, houter]
  have hcapturing : m.conditions.capturing = true := by
    rw [ConditionStack.capturing, hbegun]
    rfl
  have hgoes : statements (n + 1) s₀ m₀ = (upTo atThen n s >>= goOn) m :=
    (statements_of_some hif).trans (statements_eq_upTo ..)
  cases weighs n atThen s m r m' hcapturing hstraight hrun with
  | @ended o m' hbrief hfatal hconditions =>
    refine ⟨hbrief, fun hthen _ => ?_, fun x hfind => ?_⟩
    · obtain _ | ⟨k, s₁⟩ := o
      · exact absurd rfl hthen
      · obtain ⟨hat, k, rfl⟩ := upTo_eq_some hrun
        have hentries : m'.conditions.entries = _ :=
          hconditions ▸ ConditionStack.record_of_entries hbegun _
        obtain ⟨s₂, m₂, hturn, hskipping⟩ := turn_of_atThen (statements k) k hat hentries
        refine ⟨k, s₁, s₂, m₂, rfl, ?_, hturn, ?_⟩
        · rw [hgoes, Run.bind_ok hrun, goOn]
        · rw [hskipping]
          simp [Result.isGood]
    · have hx := hfatal x (List.mem_of_find?_eq_some hfind)
      rw [List.find?_some hfind] at hx
      cases hx
  | @raised x g m' hbrief hfind hraises =>
    have hfatal : x.isFatal = true := List.find?_some hfind
    refine ⟨hbrief, fun _ hpredicates => ?_, fun y hfind' => ?_⟩
    · have hx := Result.isFatal_eq_false (hpredicates x (List.mem_of_find?_eq_some hfind))
      rw [hfatal] at hx
      cases hx
    · cases hfind.symm.trans hfind'
      refine ⟨g, hraises, hraises.isPredicate_eq hfatal, rfl, fun n₀ b m₁ legs htrail => ?_⟩
      rw [block_apply, htrail.statements_eq, hgoes, Run.bind_error hrun, blockEnd]
  | unfinished => exact absurd rfl hended

/-- In front of an `if` whose only predicate is an alias that clicks. -/
def beforeIf : Machine Offline :=
  { Offline.machine 0 with
    arena := (Arena.alloc {} (["if", "clickable", "then", "click"].map (Token.word · 1))).2
    aliases := ⟨[⟨"clickable", [], ⟨3, 4⟩⟩]⟩ }

/-- The click fails, the use of the alias does not, and the branch is skipped. -/
theorem branch_taken_iff_alias :
    ∃ s m x y k s₁ m' s₂ m₂,
      turn (statements 4) 4 (.ofBlock ⟨⟨0, 3⟩, {}⟩) beforeIf =
        (.ok (some (.control .ifBegin, s)), m) ∧
      results 4 atThen s m = [x, y] ∧
      x.statement = some (.verify .click) ∧ TriedOnce .click x.before x.after ∧
      y.statement = some (.invoke "clickable" {}) ∧ y.failure = none ∧
      upTo atThen 4 s m = (.ok (some (k + 1, s₁)), m') ∧
      turn (statements k) k s₁ m' = (.ok (some (.control .thenEnter, s₂)), m₂) ∧
      m₂.conditions.skipping = true := by
  obtain ⟨s, m, x, f, y, o, m', hif, hrun, hresults, hclick, hfails, hpredicate, hinvoke, hgood⟩ :
      ∃ s m x f y o m', turn (statements 4) 4 (.ofBlock ⟨⟨0, 3⟩, {}⟩) beforeIf =
          (.ok (some (.control .ifBegin, s)), m) ∧
        upTo atThen 4 s m = (.ok (some o), m') ∧ results 4 atThen s m = [x, y] ∧
        x.statement = some (.verify .click) ∧ x.failure = some f ∧ f.isPredicate = true ∧
        y.statement = some (.invoke "clickable" {}) ∧ y.failure = none :=
    ⟨_, _, _, _, _, _, _, rfl, rfl, rfl, rfl, rfl, rfl, rfl, rfl⟩
  obtain ⟨honce, htaken, -⟩ := branch_taken_iff hif rfl hrun (Halt.ended_ok _) (by
    rw [hresults]
    simp [Result.isStraight, hclick, hinvoke, Statement.isStraight])
  rw [hresults] at honce htaken
  obtain ⟨k, s₁, s₂, m₂, ⟨⟩, -, hturn, hiff⟩ := htaken (by rintro ⟨⟩) (by
    simp [hfails, hpredicate, hgood])
  refine ⟨s, m, x, y, k, s₁, m', s₂, m₂, hif, hresults, hclick,
    honce x (List.mem_cons_self ..) _ _ hclick rfl, hinvoke, hgood, hrun, hturn, ?_⟩
  rw [← Bool.not_eq_false, hiff]
  simp [hfails]

end Branches

end Machine

end PageScript

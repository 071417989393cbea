/-
A `not` that is left over.

`not` turns the next check round. A check uses it up, however it comes out, and so does the end of a
loop. Nothing else touches it. So if a statement other than a check fails while a `not` is pending, it
stays pending wherever the failure is passed on to, and if the run goes on there, the next check is
turned round.

`origin?` follows a failure back to the statement that has failed by itself. Whether a `not` is pending
where the failure is absorbed can be read off there.
-/
import PageScript.Proofs.Machine.History

namespace PageScript

namespace Machine

variable {σ : Type}

-- ======== what keeps it

/-- A `not` is pending if it was, and only then. -/
def KeepsNot (m m' : Machine σ) : Prop :=
  m'.negateNext = m.negateNext

instance : IsPreorder (Machine σ) KeepsNot where
  refl _ := rfl
  trans _ _ _ h₁ h₂ := Eq.trans h₂ h₁

theorem conditional_keepsNot (word : Control) :
    Run.Keeps (σ := σ) KeepsNot (conditional word) := by
  intro m r m' h _
  rw [conditional_apply] at h
  cases hact : word.act m.conditions <;> rw [hact] at h <;> (cases h; rfl)

variable [World σ]

theorem ask_keepsNot (c : Call) : Run.Keeps (σ := σ) KeepsNot (Run.ask c) :=
  .modifyGet fun _ => rfl

theorem keepsNot : Tolerant (σ := σ) KeepsNot where
  log _ _ _ := .modify fun _ => rfl
  aside _ _ _ _ _ _ := rfl
  ask _ := ask_keepsNot _

theorem call_keepsNot (c : Call) : Run.Keeps (σ := σ) KeepsNot (Run.call c) :=
  (ask_keepsNot c).bind fun _ => .ofExcept ..

theorem applyPageLoadTimeout_keepsNot : Run.Keeps (σ := σ) KeepsNot applyPageLoadTimeout := by
  refine .bind .get fun m => ?_
  split
  · exact call_keepsNot _
  · exact .pure _

theorem ensureBrowser_keepsNot : Run.Keeps (σ := σ) KeepsNot ensureBrowser := by
  refine .bind .get fun m => ?_
  split
  · exact .pure _
  · refine .bind (keepsNot.log ..) fun _ => .bind (call_keepsNot _) fun _ => ?_
    exact .bind (.modify fun _ => rfl) fun _ => applyPageLoadTimeout_keepsNot

theorem teardown_keepsNot : Run.Keeps (σ := σ) KeepsNot teardown := by
  refine .bind .get fun m => ?_
  split
  · exact .pure _
  · refine .bind (ask_keepsNot _) fun answer => ?_
    cases answer with
    | ok _ => exact .modify fun _ => rfl
    | error e => exact .bind (keepsNot.log ..) fun _ => .modify fun _ => rfl

theorem control_keepsNot (command : BrowserCommand) :
    Run.Keeps (σ := σ) KeepsNot (control command) := by
  cases command with
  | start => exact .pure _
  | connect endpoint =>
    refine .bind .get fun m => .bind (call_keepsNot _) fun _ => ?_
    exact .bind (.modify fun _ => rfl) fun _ => applyPageLoadTimeout_keepsNot
  | get url => exact .bind ensureBrowser_keepsNot fun _ => call_keepsNot _
  | close => exact teardown_keepsNot
  | wait seconds => exact .bind (.modify fun _ => rfl) fun _ => applyPageLoadTimeout_keepsNot
  | _ => exact keepsNot.control rfl

-- ======== what becomes of it

/-- A check uses up a `not`, however it comes out. -/
theorem negateNext_of_verify {limit : Nat} {probe : Probe} {m m' : Machine σ} {r : Except Halt Unit}
    (h : verify limit probe m = (r, m')) (hended : Halt.Ended r) : m'.negateNext = false := by
  rw [verify, Run.modifyGet_bind_apply] at h
  exact keepsNot.retry (fun _ _ _ hpause => by cases hpause; rfl) _ _ _ h hended

theorem negateNext_of_check {run : Source → Run σ Unit} {limit : Nat} {st : Statement}
    {m m' : Machine σ} {r : Except Halt Unit} (hcheck : st.isCheck = true)
    (h : execute run limit st m = (r, m')) (hended : Halt.Ended r) : m'.negateNext = false := by
  cases st with
  | verify probe => exact negateNext_of_verify h hended
  | locate locator =>
    rw [execute, Run.modifyGet_bind_apply] at h
    rcases hverify : verify limit (.locate locator) { m with current := some locator } with
      ⟨e | ⟨⟩, m₁⟩
    · rw [Run.bind_error hverify] at h
      cases h
      exact negateNext_of_verify hverify hended
    · rw [Run.bind_ok hverify] at h
      have hclear : Run.Keeps (σ := σ) KeepsNot (do
          if m.negateNext then
            let _ ← Run.ask .clearCurrent) := by
        split
        · exact .bind (ask_keepsNot _) fun _ => .pure _
        · exact .pure _
      exact (hclear h hended).trans (negateNext_of_verify hverify (Halt.ended_ok _))
  | _ => cases hcheck

/-- A statement that is no check, and runs no piece of script, leaves a `not` pending if it fails. -/
theorem execute_keepsNot {run : Source → Run σ Unit} {limit : Nat} {st : Statement}
    (hscript : st.runsScript = false) (hcheck : st.isCheck = false) {m m' : Machine σ} {f : Failure}
    (h : execute run limit st m = (.error (.failed f), m')) : KeepsNot m m' := by
  have hkeeps {x : Run σ Unit} (hx : Run.Keeps KeepsNot x) (h : x m = (.error (.failed f), m')) :
      KeepsNot m m' := hx h (by rintro ⟨⟩)
  cases st with
  | browser command => exact hkeeps (control_keepsNot command) h
  | call hook args => exact hkeeps (.bind (call_keepsNot _) fun _ => keepsNot.log ..) h
  | dump => exact hkeeps (.bind (call_keepsNot _) fun _ => keepsNot.log ..) h
  | info => exact hkeeps keepsNot.describe h
  | screenshot path => exact hkeeps (keepsNot.screenshot _) h
  | logDump => exact hkeeps keepsNot.drainConsole h
  | set text => exact hkeeps (.bind (call_keepsNot _) fun _ => call_keepsNot _) h
  | exec command args again =>
    have hagain : again = false := hscript
    subst hagain
    exact hkeeps (.bind .get fun _ => .bind (keepsNot.runProgram ..) fun _ => .pure _) h
  | popWait =>
    refine hkeeps (.bind .get fun m => ?_) h
    split
    · exact .modify fun _ => rfl
    · exact .fail _
  | control word => exact hkeeps (conditional_keepsNot word) h
  | fail message => exact hkeeps (.fail _) h
  | clickNow | send | clear | press | mouse | scrollIntoView => exact hkeeps (call_keepsNot _) h
  | locate | verify => cases hcheck
  | includeFile | invoke | «while» => cases hscript
  | _ => cases h

-- ======== origins

/-- Where a failure comes from: the statement that has failed by itself, if it was one, and the machine in
front of it. -/
structure Origin (σ : Type) where
  statement : Option Statement
  machine : Machine σ

/-- Whether a `not` is pending behind a failure that comes from there: one was, and it was no check that
has failed. -/
def Origin.leavesNot (o : Origin σ) : Bool :=
  o.machine.negateNext && !o.statement.any (·.isCheck)

/-- The origin of a statement's failure: that of the piece of script that has failed among those which the
statement runs, if there is one; else the statement itself. -/
def originIn (find : Source → Machine σ → Option (Origin σ)) (n : Nat) (st : Statement)
    (m : Machine σ) : Origin σ :=
  ((entries (statements n) n st m).findSome? fun p => find p.1 p.2).getD ⟨some st, m⟩

/-- The origin of the failure of a block that was entered with so many conditionals open, if it fails. -/
def origin? : (fuel depth : Nat) → Source → Machine σ → Option (Origin σ)
  | 0, _, _, _ => none
  | n + 1, depth, s, m =>
    match turn (statements n) n s m with
    | (.ok (some (_, behind)), m₁) => origin? n depth behind m₁
    | (.ok none, _) => if depth < m.conditions.depth then some ⟨none, m⟩ else none
    | (.error (.failed _), _) =>
      match m.met? s with
      | some st =>
        some (originIn (fun s₁ m₁ => origin? n m₁.conditions.depth s₁ m₁) n st (m.noting (m.read s)))
      | none => some ⟨none, m.noting (m.read s)⟩
    | (.error .unfinished, _) => none

/-- The origin of the failure of a piece of script, if it fails. -/
def pieceOrigin? (fuel : Nat) (s : Source) (m : Machine σ) : Option (Origin σ) :=
  origin? fuel m.conditions.depth s m

/-- The origin of the failure of a statement. -/
def origin (fuel : Nat) (st : Statement) (m : Machine σ) : Origin σ :=
  originIn (pieceOrigin? fuel) fuel st m

/-- The origin of the failure of a test: in its file or in the alias for its success; else there is no
file. -/
def trialOrigin (fuel : Nat) (path : Path) (m : Machine σ) : Origin σ :=
  (((m.fileStart? path).toList ++ (m.successStart? fuel path).toList).findSome? fun p =>
    pieceOrigin? fuel p.1 p.2).getD ⟨none, m⟩

/-- Failures of blocks are followed to origins that tell whether a `not` is pending behind them. -/
structure Follows (find : Source → Machine σ → Option (Origin σ)) (run : Source → Run σ Unit) : Prop where
  none : ∀ {s m m'}, block run s m = (.ok (), m') → find s m = none
  some : ∀ {s m f m'}, block run s m = (.error (.failed f), m') →
    ∃ o, find s m = some o ∧ m'.negateNext = o.leavesNot

section Follows

variable {find : Source → Machine σ → Option (Origin σ)} {run : Source → Run σ Unit} {n limit : Nat}
  {s : Source} {st : Statement} {f : Failure} {m m' : Machine σ}

omit [World σ] in
/-- What is run in a frame fails as its block does. -/
theorem Follows.inFrame {name : String} {dir : Path} (hfollows : Follows find run)
    (hfails : Machine.inFrame run name dir s m = (.error (.failed f), m')) :
    ∃ o, find s (m.entering name dir) = .some o ∧ m'.negateNext = o.leavesNot := by
  obtain ⟨e, m₁, hblock, -, rfl⟩ := inFrame_eq_failed hfails
  obtain ⟨o, hfind, hflag⟩ := hfollows.some hblock
  exact ⟨o, hfind, hflag⟩

omit [World σ] in
theorem Follows.inFrame_of_ok {name : String} {dir : Path} (hfollows : Follows find run)
    (hends : Machine.inFrame run name dir s m = (.ok (), m')) :
    find s (m.entering name dir) = .none := by
  rw [inFrame_apply] at hends
  rcases hblock : block run s (m.entering name dir) with ⟨(e | _) | ⟨⟩, m₁⟩
  · rw [hblock] at hends
    cases hends
  · rw [hblock] at hends
    cases hends
  · exact hfollows.none hblock

omit [World σ] in
/-- A loop fails in the first of its rounds that does. -/
theorem Follows.loop (hfollows : Follows find run) {body : Block}
    (hfails : Machine.loop run body limit m = (.error (.failed f), m')) :
    ∃ o, ((rounds run body limit m).map (Source.ofBlock body, ·)).findSome? (fun p => find p.1 p.2) =
      .some o ∧ m'.negateNext = o.leavesNot := by
  induction limit generalizing m with
  | zero =>
    rw [Machine.loop, Run.throw_apply] at hfails
    cases hfails
  | succ limit ih =>
    rw [rounds, List.map_cons, List.findSome?_cons]
    rcases hblock : block run (.ofBlock body) m with ⟨(e | _) | ⟨⟩, m₁⟩
    · rw [loop_of_failed hblock] at hfails
      split at hfails
      · cases hfails
      · cases hfails
        obtain ⟨o, hfind, hflag⟩ := hfollows.some hblock
        rw [hfind]
        exact ⟨o, rfl, hflag⟩
    · rw [Machine.loop, Run.bind_error (Run.outcome_unfinished hblock)] at hfails
      cases hfails
    · rw [loop_of_ok hblock] at hfails
      rw [hfollows.none hblock]
      exact ih hfails

/-- Behind the failure of a statement, a `not` is pending as its origin tells. -/
theorem Follows.execute (hfollows : Follows find (statements n))
    (hfails : Machine.execute (statements n) n st m = (.error (.failed f), m')) :
    m'.negateNext = (originIn find n st m).leavesNot := by
  cases hscript : st.runsScript with
  | false =>
    rw [originIn, entries_of_not_runsScript hscript]
    show m'.negateNext = (m.negateNext && !st.isCheck)
    cases hcheck : st.isCheck with
    | true => rw [negateNext_of_check hcheck hfails (by rintro ⟨⟩), Bool.not_true, Bool.and_false]
    | false => rw [Bool.not_false, Bool.and_true, execute_keepsNot hscript hcheck hfails]
  | true =>
    by_cases hloop : ∃ body, st = .while body
    · obtain ⟨body, rfl⟩ := hloop
      rw [execute_while] at hfails
      split at hfails
      · cases hfails
      · next hempty =>
        obtain ⟨o, hfind, hflag⟩ := hfollows.loop hfails
        rw [originIn, entries, if_neg hempty, hfind]
        exact hflag
    · have hcases := script_cases (statements n) n m keepsNot.log keepsNot.runProgram hscript
        (not_exists.1 hloop)
      obtain ⟨hentries, hkeeps, -⟩ | ⟨name, dir, s, m₁, hentries, hruns, -⟩ := hcases
      · -- there is nothing to run, and the statement fails by itself
        have hcheck : st.isCheck = false := by cases st <;> first | rfl | cases hscript
        rw [originIn, hentries, hkeeps hfails (by rintro ⟨⟩)]
        show m.negateNext = (m.negateNext && !st.isCheck)
        rw [hcheck, Bool.not_false, Bool.and_true]
      · rw [hruns] at hfails
        obtain ⟨o, hfind, hflag⟩ := hfollows.inFrame hfails
        rw [originIn, hentries, List.findSome?_singleton, hfind]
        exact hflag

end Follows

/-- The failure of a run of statements, as that of a block, is followed to its origin. -/
def FollowsTo (n depth : Nat) (s : Source) (m m' : Machine σ) : Prop :=
  (blockEnd depth (statements n s m) = (.ok (), m') → origin? n depth s m = none) ∧
  ∀ f, blockEnd depth (statements n s m) = (.error (.failed f), m') →
    ∃ o, origin? n depth s m = some o ∧ m'.negateNext = o.leavesNot

theorem Follows.of_followsTo {n : Nat} (h : ∀ depth s (m m' : Machine σ), FollowsTo n depth s m m') :
    Follows (pieceOrigin? n) (statements (σ := σ) n) := by
  constructor
  · intro s m m' hblock
    rw [block_apply] at hblock
    exact (h _ s m m').1 hblock
  · intro s m f m' hblock
    rw [block_apply] at hblock
    exact (h _ s m m').2 f hblock

/-- Every failure can be followed to its origin. The induction is on the fuel, for pieces of script as for
the turns of one. -/
theorem followsTo (n depth : Nat) (s : Source) (m m' : Machine σ) : FollowsTo n depth s m m' := by
  unfold FollowsTo
  induction n generalizing depth s m m' with
  | zero =>
    rw [statements, Run.throw_apply, blockEnd]
    exact ⟨by rintro ⟨⟩, by rintro _ ⟨⟩⟩
  | succ n ih =>
    have hfollows : Follows (pieceOrigin? n) (statements (σ := σ) n) := .of_followsTo ih
    rcases hturn : turn (statements n) n s m with ⟨(e | _) | _ | ⟨st, s₁⟩, m₁⟩
    · rw [blockEnd_of_failed depth hturn, origin?, hturn]
      refine ⟨by rintro ⟨⟩, ?_⟩
      rintro _ ⟨⟩
      obtain ⟨hmore, ⟨hparsed, rfl⟩ | ⟨st, m₂, e₁, hmeets, hexec, -⟩⟩ := turn_eq_failed hturn
      · have hnone : m.met? s = none := by rw [met?, hparsed]
        rw [hnone]
        exact ⟨_, rfl, (Bool.and_true _).symm⟩
      · obtain rfl := hmeets.noted
        rw [(met?_eq_some hmore).2 hmeets]
        have hflag := hfollows.execute hexec
        exact ⟨_, rfl, hflag⟩
    · rw [statements, Run.bind_error hturn, blockEnd]
      exact ⟨by rintro ⟨⟩, by rintro _ ⟨⟩⟩
    · rw [statements_of_finish (turn_eq_none hturn), blockEnd, origin?, hturn]
      dsimp only
      split
      · refine ⟨by rintro ⟨⟩, ?_⟩
        rintro _ ⟨⟩
        exact ⟨_, rfl, (Bool.and_true _).symm⟩
      · exact ⟨fun _ => rfl, by rintro _ ⟨⟩⟩
    · rw [statements_of_some hturn, origin?, hturn]
      exact ih depth s₁ m₁ m'

theorem pieceOrigin?_follows (n : Nat) : Follows (pieceOrigin? n) (statements (σ := σ) n) :=
  .of_followsTo (followsTo n)

-- ======== absorptions

section Absorbed

variable {n limit : Nat} {path : Path} {s : Source} {st : Statement} {f : Failure}
  {m m' m₁ m₂ : Machine σ}

omit [World σ] in
/-- A loop ends well only with a failure, and then no `not` is pending. -/
theorem negateNext_of_loop {run : Source → Run σ Unit} {body : Block}
    (h : loop run body limit m = (.ok (), m')) : m'.negateNext = false := by
  induction limit generalizing m with
  | zero =>
    rw [loop, Run.throw_apply] at h
    cases h
  | succ limit ih =>
    rcases hblock : block run (.ofBlock body) m with ⟨(e | _) | ⟨⟩, m₁⟩
    · rw [loop_of_failed hblock] at h
      split at h
      · cases h
        rfl
      · cases h
    · rw [loop, Run.bind_error (Run.outcome_unfinished hblock)] at h
      cases h
    · rw [loop_of_ok hblock] at h
      exact ih h

/-- An alias that is run if it is there fails in its body. -/
theorem runHook_eq_failed {name : String} (h : runHook n name m = (.error (.failed f), m')) :
    ∃ frame dir s, m.aliasStart? name {} = some (s, m.entering frame dir) ∧
      inFrame (statements n) frame dir s m = (.error (.failed f), m') := by
  rw [runHook, Run.get_bind_apply] at h
  split at h
  · next hdefined =>
    obtain ⟨found, hfound⟩ := Option.isSome_iff_exists.1 hdefined
    rw [runAlias, invoke, Run.get_bind_apply, hfound] at h
    exact ⟨_, _, _, aliasStart?_of_some hfound, h⟩
  · cases h

/-- A file is run in a frame, or it cannot be read. -/
theorem runFile_cases (n : Nat) (path : Path) (m : Machine σ) :
    ((m.fileStart? path).toList = [] ∧ Run.KeepsAt KeepsNot (runFile n path) m ∧
      ∀ m', runFile n path m ≠ (.ok (), m')) ∨
    ∃ name dir s m₁, (m.fileStart? path).toList = [(s, entering m₁ name dir)] ∧
      runFile n path m = inFrame (statements n) name dir s m₁ := by
  have hscript : (Statement.includeFile path.text).runsScript = true := rfl
  have hcases := script_cases (statements n) n m keepsNot.log keepsNot.runProgram hscript
    (by rintro _ ⟨⟩)
  obtain hnone | ⟨name, dir, s, m₁, hentries, hruns, -⟩ := hcases
  · exact .inl hnone
  · exact .inr ⟨name, dir, s, m₁, hentries, hruns⟩

/-- Behind the failure of a test, a `not` is pending as its origin tells. -/
theorem negateNext_of_trial (h : trial n path m = (.error (.failed f), m')) :
    m'.negateNext = (trialOrigin n path m).leavesNot := by
  have hfollows := pieceOrigin?_follows (σ := σ) n
  unfold trialOrigin
  rcases hfile : runFile n path m with ⟨e | ⟨⟩, m₁⟩
  · have htrial : trial n path m = (.error e, m₁) := Run.bind_error hfile
    have hstart : m.successStart? n path = none := by
      unfold successStart?
      rw [hfile]
    rw [htrial] at h
    cases h
    rw [hstart, Option.toList_none, List.append_nil]
    obtain ⟨hnone, hkeeps, -⟩ | ⟨name, dir, s, m₂, hpiece, hruns⟩ := runFile_cases n path m
    · rw [hnone, hkeeps hfile (by rintro ⟨⟩)]
      exact (Bool.and_true _).symm
    · rw [hruns] at hfile
      obtain ⟨o, hfind, hflag⟩ := hfollows.inFrame hfile
      rw [hpiece, List.findSome?_singleton, hfind]
      exact hflag
  · have htrial : trial n path m = runHook n onSuccess m₁ := Run.bind_ok hfile
    have hstart : m.successStart? n path = m₁.aliasStart? onSuccess {} := by
      unfold successStart?
      rw [hfile]
    rw [htrial] at h
    obtain ⟨frame, dir, s, halias, hfails⟩ := runHook_eq_failed h
    obtain ⟨o, hfind, hflag⟩ := hfollows.inFrame hfails
    obtain ⟨-, -, hnever⟩ | ⟨name, dir₁, s₁, m₂, hpiece, hruns⟩ := runFile_cases n path m
    · exact absurd hfile (hnever m₁)
    · rw [hruns] at hfile
      rw [List.findSome?_append, hpiece, List.findSome?_singleton, hfollows.inFrame_of_ok hfile, hstart,
        halias, Option.toList_some, List.findSome?_singleton, hfind]
      exact hflag

/-- The turn with a statement whose failure is the outcome of a predicate: the run goes on, with a `not`
pending as the origin of the failure tells. -/
theorem negateNext_of_captured (hmeets : Meets m s st m₁)
    (hcaptured : (m₁.conditions.capturing && !st.isControl && f.isPredicate) = true)
    (hfails : execute (statements n) n st m₁ = (.error (.failed f), m₂)) :
    ∃ m', turn (statements n) n s m = (.ok (some (st, (m.read s).after.source)), m') ∧
      m'.negateNext = (origin n st m₁).leavesNot := by
  refine ⟨_, turn_of_carryOut hmeets (carryOut_of_captured hfails hcaptured), ?_⟩
  have hdrained := keepsNot.drained { m₂ with conditions := m₂.conditions.record false }
  have hflag := (pieceOrigin?_follows n).execute hfails
  exact hdrained.trans hflag

end Absorbed

/-- Where a `not` outlives a failure that is absorbed. When a failure has ended a loop, none is pending.
When a failure has counted as the outcome of a predicate, and when the failure of a test has been reported
and the alias for failures is next, one is pending exactly if one was where the failure comes from, and what
failed there was no check. The next check is then turned round by it. -/
theorem not_outlives_failure_iff (n : Nat) (m : Machine σ) :
    (∀ body m', body.span.isEmpty = false →
      execute (statements n) n (.while body) m = (.ok (), m') → m'.negateNext = false) ∧
    (∀ s st m₁ f m₂, Meets m s st m₁ → m₁.conditions.capturing = true → st.isControl = false →
      execute (statements n) n st m₁ = (.error (.failed f), m₂) → f.isPredicate = true →
        ∃ m', turn (statements n) n s m = (.ok (some (st, (m.read s).after.source)), m') ∧
          (m'.negateNext = true ↔ (origin n st m₁).leavesNot = true)) ∧
    (∀ path f m₁ m₂, (trial n path).outcome m = (.ok (.error f), m₁) →
      report path f m₁ = (.ok (), m₂) →
        (m₂.negateNext = true ↔ (trialOrigin n path m).leavesNot = true)) ∧
    ∀ limit probe, verify limit probe m =
      retry probe m.negateNext (m.attempts limit) { m with negateNext := false } := by
  refine ⟨?_, ?_, ?_, fun limit probe => by rw [verify, Run.modifyGet_bind_apply]⟩
  · intro body m' hempty h
    rw [execute_while, hempty] at h
    exact negateNext_of_loop h
  · intro s st m₁ f m₂ hmeets hcapturing hcontrol hfails hpredicate
    obtain ⟨m', hturn, hflag⟩ := negateNext_of_captured (f := f) hmeets
      (by rw [hcapturing, hcontrol, hpredicate]; rfl) hfails
    exact ⟨m', hturn, by rw [hflag]⟩
  · intro path f m₁ m₂ htrial hreport
    have hfails := Run.eq_of_outcome_error htrial
    rw [keepsNot.report path f hreport (Halt.ended_ok _), negateNext_of_trial hfails]

/-- In front of a `clear` between `if not` and `then`. -/
def clearing : Source × Machine Offline :=
  { Offline.machine 0 with
    conditions := ({} : ConditionStack).begin, negateNext := true }.tokensStart [.word "clear" 1] {}

/-- There is nothing to clear, which counts as an outcome, and the `not` is still pending. -/
theorem not_outlives_failure_iff_clear :
    ∃ m', turn (statements 1) 1 clearing.1 clearing.2 =
        (.ok (some (.clear, (clearing.2.read clearing.1).after.source)), m') ∧
      m'.negateNext = true := by
  have hmeets : Meets clearing.2 clearing.1 .clear
      (clearing.2.noting (clearing.2.read clearing.1)) := ⟨rfl, rfl, rfl, rfl⟩
  obtain ⟨m', hturn, hflag⟩ := (not_outlives_failure_iff 1 clearing.2).2.1 _ _ _
    (.ofError (.browser (.noSuchElement "the page"))) _ hmeets rfl rfl rfl rfl
  exact ⟨m', hturn, hflag.2 rfl⟩

end Machine

end PageScript

/-
What an action of the machine leaves as it was.

The state of a machine falls into two parts. One belongs to the script: the captured tokens, the
aliases, the open frames and conditionals, the budget and the settings. The other belongs to the
page: the browser and the disk, the journal, the current element, the options for a launch and so
on. Calls, log lines and the commands to the browser touch only the second part, and take no time.
Checks touch only the second part too; the time that they take lies within the budget. In either case
the contact with the browser changes by steps, so that no call is made that may not be made.
-/
import PageScript.Machine.Execute
import PageScript.Proofs.Machine.Contact

namespace PageScript

/-- The first whole millisecond that is not before an instant. -/
def firstMilli (instant : Nat) : Nat :=
  (instant + (10 ^ 6 - 1)) / 10 ^ 6 * 10 ^ 6

theorem le_firstMilli (instant : Nat) : instant ≤ firstMilli instant := by
  unfold firstMilli
  omega

theorem firstMilli_mono {a b : Nat} (h : a ≤ b) : firstMilli a ≤ firstMilli b := by
  unfold firstMilli
  have : (a + (10 ^ 6 - 1)) / 10 ^ 6 ≤ (b + (10 ^ 6 - 1)) / 10 ^ 6 :=
    Nat.div_le_div_right (by omega)
  omega

/-- A sleep ends at the first whole millisecond at which it is over. -/
theorem wakeTime_eq_firstMilli (now duration : Nat) :
    wakeTime now duration = firstMilli (now + duration) := rfl

/-- Something remains of a budget exactly before its deadline. -/
theorem WaitBudget.isExhausted_eq_false_iff {b : WaitBudget} {now : Nat} :
    b.isExhausted now = false ↔ now < b.deadline := by
  rw [isExhausted, remaining, decide_eq_false_iff_not]
  omega

namespace Call

/-- Whether a call is neither about the life of the browser nor about going to pages. -/
def isMinor : Call → Bool
  | .start _ | .connect .. | .get _ | .close | .setPageLoadTimeout _ => false
  | _ => true

theorem isOrdinary_of_isMinor {c : Call} (h : c.isMinor = true) : c.isOrdinary = true := by
  cases c <;> first | rfl | cases h

end Call

/-- Whether a command to the browser makes minor calls only. -/
def BrowserCommand.isMinor : BrowserCommand → Bool
  | .connect _ | .get _ | .close | .wait _ => false
  | _ => true

namespace Statement

/-- Whether a statement is about the page alone: it runs no piece of script, defines no alias, is no
word of a conditional, and sets neither the clock nor the budget. -/
def isPlain : Statement → Bool
  | .defaultWait _ | .sleep _ | .wait _ | .pushWait | .popWait => false
  | .defineAlias _ | .control _ => false
  | .includeFile _ | .invoke .. | .while _ => false
  | .exec _ _ run => !run
  | _ => true

/-- Whether a statement is a check, which is tried again while the budget lasts. -/
def isCheck : Statement → Bool
  | .locate _ | .verify _ => true
  | _ => false

end Statement

namespace Machine

variable {σ : Type} {m m₁ m₂ : Machine σ}

-- ======== two footprints

/-- The part of a machine's state that belongs to the script. -/
structure ScriptPart where
  settings : Settings
  arena : Arena
  aliases : AliasTable
  frames : FrameStack
  conditions : ConditionStack
  budget : WaitBudget

def scriptPart (m : Machine σ) : ScriptPart where
  settings := m.settings
  arena := m.arena
  aliases := m.aliases
  frames := m.frames
  conditions := m.conditions
  budget := m.budget

/-- The part of the state that belongs to the script is untouched. -/
structure SameScript (m m' : Machine σ) : Prop where
  script : m'.scriptPart = m.scriptPart

/-- Nor has any time passed. -/
structure Quiet (m m' : Machine σ) : Prop extends SameScript m m' where
  clock : m'.clock = m.clock

/-- The part of the state that belongs to the script is untouched, and if time has passed, then not
past the millisecond in which the budget ends. -/
structure Patient (m m' : Machine σ) : Prop extends SameScript m m' where
  clock_le : m'.clock ≤ max m.clock (firstMilli m.budget.deadline)

namespace SameScript

theorem settings (h : SameScript m m₁) : m₁.settings = m.settings :=
  congrArg ScriptPart.settings h.script

theorem arena (h : SameScript m m₁) : m₁.arena = m.arena :=
  congrArg ScriptPart.arena h.script

theorem aliases (h : SameScript m m₁) : m₁.aliases = m.aliases :=
  congrArg ScriptPart.aliases h.script

theorem frames (h : SameScript m m₁) : m₁.frames = m.frames :=
  congrArg ScriptPart.frames h.script

theorem conditions (h : SameScript m m₁) : m₁.conditions = m.conditions :=
  congrArg ScriptPart.conditions h.script

theorem budget (h : SameScript m m₁) : m₁.budget = m.budget :=
  congrArg ScriptPart.budget h.script

theorem trans (h₁ : SameScript m m₁) (h₂ : SameScript m₁ m₂) : SameScript m m₂ :=
  ⟨h₂.script.trans h₁.script⟩

end SameScript

instance : IsPreorder (Machine σ) Quiet where
  refl _ := ⟨⟨rfl⟩, rfl⟩
  trans _ _ _ h₁ h₂ := ⟨h₁.toSameScript.trans h₂.toSameScript, h₂.clock.trans h₁.clock⟩

theorem Quiet.patient (h : Quiet m m₁) : Patient m m₁ :=
  ⟨h.toSameScript, h.clock ▸ Nat.le_max_left ..⟩

theorem Patient.of_clock {time : Nat} (h : time ≤ max m.clock (firstMilli m.budget.deadline)) :
    Patient m { m with clock := time } :=
  ⟨⟨rfl⟩, h⟩

instance : IsPreorder (Machine σ) Patient where
  refl _ := ⟨⟨rfl⟩, Nat.le_max_left ..⟩
  trans _ _ _ h₁ h₂ := by
    refine ⟨h₁.toSameScript.trans h₂.toSameScript, ?_⟩
    have hle := h₂.clock_le
    rw [h₁.budget] at hle
    have := h₁.clock_le
    omega

variable [World σ]

/-- The script's part is untouched and no time has passed; what there was to do with the browser was
done in steps. -/
structure Discreet (m m' : Machine σ) : Prop extends Quiet m m' where
  deals : Deals m m'

/-- The same, but that time may have passed, within the budget. -/
structure Diligent (m m' : Machine σ) : Prop extends Patient m m' where
  deals : Deals m m'

/-- What changes neither the script's part nor the time nor the contact. -/
theorem Discreet.of_same (hscript : m₁.scriptPart = m.scriptPart) (hclock : m₁.clock = m.clock)
    (hcontact : m₁.contact = m.contact) : Discreet m m₁ :=
  ⟨⟨⟨hscript⟩, hclock⟩, .of_eq hcontact⟩

instance : IsPreorder (Machine σ) Discreet where
  refl _ := .of_same rfl rfl rfl
  trans _ _ _ h₁ h₂ := ⟨trans_of Quiet h₁.toQuiet h₂.toQuiet, trans_of Deals h₁.deals h₂.deals⟩

theorem Discreet.diligent (h : Discreet m m₁) : Diligent m m₁ :=
  ⟨h.toQuiet.patient, h.deals⟩

theorem Diligent.of_clock {time : Nat} (h : time ≤ max m.clock (firstMilli m.budget.deadline)) :
    Diligent m { m with clock := time } :=
  ⟨.of_clock h, .of_eq rfl⟩

instance : IsPreorder (Machine σ) Diligent where
  refl m := (refl_of Discreet m).diligent
  trans _ _ _ h₁ h₂ :=
    ⟨trans_of Patient h₁.toPatient h₂.toPatient, trans_of Deals h₁.deals h₂.deals⟩

-- ======== tolerance

/-- A relation between machines that survives what is done beside the script and the life of the browser:
log lines, changes of the disk, of options and of what is echoed, and minor calls. -/
structure Tolerant (R : Machine σ → Machine σ → Prop) : Prop extends IsPreorder (Machine σ) R where
  log : ∀ level target message, Run.Keeps R (Run.log level target message)
  aside : ∀ (m : Machine σ) disk options screenshotDir autoLog transcript,
    R m { m with disk, options, screenshotDir, autoLog, transcript }
  ask : ∀ {c : Call}, c.isMinor = true → Run.Keeps R (Run.ask c)

namespace Tolerant

variable {R : Machine σ → Machine σ → Prop}

theorem call (hR : Tolerant R) {c : Call} (h : c.isMinor = true) : Run.Keeps R (Run.call c) :=
  have := hR.toIsPreorder
  (hR.ask h).bind fun _ => .ofExcept ..

theorem onDisk (hR : Tolerant R) (change : Disk → Except IoError Unit × Disk) :
    Run.Keeps R (Run.onDisk change) :=
  have := hR.toIsPreorder
  .bind .get fun _ => .bind (.modify fun _ => hR.aside ..) fun _ => .ofExcept ..

theorem configure (hR : Tolerant R) (what : String) (change : BrowserOptions → BrowserOptions) :
    Run.Keeps R (Machine.configure what change) := by
  have := hR.toIsPreorder
  refine .bind .get fun m => ?_
  dsimp only
  split
  · exact .bind (hR.log ..) fun _ => .modify fun _ => hR.aside ..
  · exact .modify fun _ => hR.aside ..

theorem resize (hR : Tolerant R) (change : BrowserOptions → BrowserOptions) :
    Run.Keeps R (Machine.resize change) := by
  have := hR.toIsPreorder
  refine .bind (.modify fun _ => hR.aside ..) fun _ => .bind .get fun m => ?_
  split
  · exact hR.call rfl
  · exact .pure _

theorem control (hR : Tolerant R) {command : BrowserCommand} (h : command.isMinor = true) :
    Run.Keeps R (Machine.control command) := by
  have := hR.toIsPreorder
  cases command with
  | start => exact .pure _
  | size width height => exact hR.resize fun o => { o with width, height }
  | chrome width height =>
    exact hR.resize fun o => { o with chromeWidth := width, chromeHeight := height }
  | headless on => exact hR.configure "headless" fun o => { o with headless := on }
  | option argument =>
    exact hR.configure ("option " ++ argument) fun o => { o with args := o.args ++ [argument] }
  | prefs name value =>
    exact hR.configure ("prefs " ++ name) fun o => { o with prefs := setPref name value o.prefs }
  | back | forward | refresh | send => exact hR.call rfl
  | _ => cases h

/-- Of a machine, a program that is run changes the disk, and what it writes is logged. -/
theorem runProgram (hR : Tolerant R) (command : String) (args : List String) (dir : Path) :
    Run.Keeps R (Machine.runProgram command args dir) := by
  have := hR.toIsPreorder
  intro m
  rcases hstart : Programs.start m.browser m.disk (Command.resolve m.disk command dir) args dir with
    e | _ | ⟨finished, disk⟩
  · have hfail : Machine.runProgram command args dir m =
        (.error (.failed (.ofError (.io none e))), m) := by
      rw [Machine.runProgram, Run.get_bind_apply, hstart]
      rfl
    exact .of_eq hfail (refl_of R m)
  · have hfail : Machine.runProgram command args dir m = (.error .unfinished, m) := by
      rw [Machine.runProgram, Run.get_bind_apply, hstart]
      rfl
    exact .of_unfinished hfail
  · -- the program has run, and what follows only logs
    have logs : Run.Keeps R (do
        (Command.lines finished.stdout).forM fun line =>
          Run.log .info .exec ("stdout: " ++ line)
        (Command.lines finished.stderr).forM fun line =>
          Run.log .info .exec ("stderr: " ++ line)
        if finished.status.isSuccess then
          return Command.captured (Command.lines finished.stdout)
        else Run.fail (.subprocess command finished.status.number)) := by
      refine .bind (.forM (fun _ => hR.log ..) _) fun _ => ?_
      refine .bind (.forM (fun _ => hR.log ..) _) fun _ => ?_
      split
      · exact .pure _
      · exact .fail _
    intro r m' h hr
    rw [Machine.runProgram, Run.get_bind_apply, hstart] at h
    exact (logs.from { m with disk }).trans (hR.aside m disk _ _ _ _) h hr

theorem screenshot (hR : Tolerant R) (file : Path) : Run.Keeps R (Machine.screenshot file) := by
  have := hR.toIsPreorder
  refine .bind .get fun m => ?_
  have shoot : Run.Keeps R (do
      Run.call (.screenshot (m.screenshotPath file))
      Run.info ("Screenshot saved to " ++ (m.screenshotPath file).text)) :=
    .bind (hR.call rfl) fun _ => hR.log ..
  dsimp only
  split
  · exact .bind (hR.onDisk _) fun _ => shoot
  · exact shoot

theorem failureScreenshot (hR : Tolerant R) (script : Path) :
    Run.Keeps R (Machine.failureScreenshot script) := by
  have := hR.toIsPreorder
  refine .bind .get fun m => ?_
  split
  · exact .pure _
  · split
    · refine .bind (.modify fun _ => hR.aside ..) fun _ => ?_
      split
      · exact hR.log ..
      · refine .bind (hR.ask rfl) fun answer => ?_
        cases answer with
        | ok _ => exact hR.log ..
        | error e => exact hR.log ..
    · exact .pure _

theorem drainConsole (hR : Tolerant R) : Run.Keeps R Machine.drainConsole := by
  have := hR.toIsPreorder
  refine .bind (hR.ask rfl) fun answer => ?_
  cases answer with
  | ok messages => exact .forM (fun _ => hR.log ..) _
  | error _ => exact .pure _

theorem describe (hR : Tolerant R) : Run.Keeps R Machine.describe :=
  have := hR.toIsPreorder
  .bind (hR.call rfl) fun _ => .bind (hR.call rfl) fun _ => .bind (hR.call rfl) fun _ =>
    .bind .get fun _ => hR.log ..

theorem require (hR : Tolerant R) (holds : Bool) (mismatch : Mismatch) :
    Run.Keeps R (Machine.require holds mismatch) := by
  have := hR.toIsPreorder
  unfold Machine.require
  split
  · exact .pure _
  · exact .fail _

theorem attempt (hR : Tolerant R) (probe : Probe) : Run.Keeps R (Machine.attempt probe) := by
  have := hR.toIsPreorder
  cases probe with
  | locate locator => exact hR.call rfl
  | click => exact hR.call rfl
  | geometry measure expected => exact .bind (hR.call rfl) fun _ => .ofExcept ..
  | state which wanted =>
    cases which <;> exact .bind (hR.call rfl) fun _ => hR.require ..
  | _ => exact .bind (hR.call rfl) fun _ => hR.require ..

theorem relocate (hR : Tolerant R) (probe : Probe) : Run.Keeps R (Machine.relocate probe) := by
  have := hR.toIsPreorder
  unfold Machine.relocate
  split
  · refine .bind .get fun m => ?_
    split
    · exact .bind (hR.ask rfl) fun _ => .pure _
    · exact .pure _
  · exact .pure _

/-- However often a check is tried, it pauses only while the budget lasts. -/
theorem retry (hR : Tolerant R)
    (hpause : ∀ m m', m.budget.isExhausted m.clock = false → pause m = (.ok (), m') → R m m')
    (probe : Probe) (negate : Bool) (fuel : Nat) :
    Run.Keeps R (Machine.retry probe negate fuel) := by
  have := hR.toIsPreorder
  induction fuel with
  | zero => exact .throw _
  | succ fuel ih =>
    refine .bind (hR.attempt probe).outcome fun outcome => ?_
    split
    · exact .pure _
    · -- the budget is looked at in the machine that the pause then starts from
      intro m r m' h hr
      rw [Run.get_bind_apply] at h
      split at h
      · next again =>
        simp only [Bool.and_eq_true, Bool.not_eq_true'] at again
        obtain ⟨m₁, hpaused⟩ : ∃ m₁, pause m = (.ok (), m₁) := ⟨_, rfl⟩
        rw [Run.bind_ok hpaused] at h
        have tryAgain : Run.Keeps R (do
            Machine.relocate probe
            Machine.retry probe negate fuel) := .bind (hR.relocate probe) fun _ => ih
        exact (tryAgain.from m₁).trans (hpause m m₁ again.2 hpaused) h hr
      · cases h
        exact refl_of R m

/-- What a plain statement keeps, if commands to the browser do, and if what is kept does not tell which
element is the current one and whether a check is turned round, nor, for a check, that it pauses. -/
theorem execute (hR : Tolerant R) (hflags : ∀ m negateNext current, R m { m with negateNext, current })
    {st : Statement} (hplain : st.isPlain = true)
    (hcontrol : ∀ command, st = .browser command → Run.Keeps R (Machine.control command))
    (hpause : st.isCheck = true →
      ∀ m m', m.budget.isExhausted m.clock = false → pause m = (.ok (), m') → R m m')
    (statements : Source → Run σ Unit) (limit : Nat) :
    Run.Keeps R (Machine.execute statements limit st) := by
  have := hR.toIsPreorder
  have hverify : st.isCheck = true → ∀ probe, Run.Keeps R (verify limit probe) :=
    fun hcheck probe => .bind (.modifyGet fun _ => hflags ..) fun _ => hR.retry (hpause hcheck) ..
  cases st with
  | version => exact hR.log ..
  | defaultScreenshot directory => exact .modify fun _ => hR.aside ..
  | browser command => exact hcontrol command rfl
  | call hook args => exact .bind (hR.call rfl) fun _ => hR.log ..
  | locate locator =>
    refine .bind (.modifyGet fun _ => hflags ..) fun negated => .bind (hverify rfl _) fun _ => ?_
    split
    · exact .bind (hR.ask rfl) fun _ => .pure _
    · exact .pure _
  | verify probe => exact hverify rfl probe
  | not => exact .modify fun _ => hflags ..
  | logAuto on => exact .modify fun _ => hR.aside ..
  | logDump => exact hR.drainConsole
  | dump => exact .bind (hR.call rfl) fun _ => hR.log ..
  | info => exact hR.describe
  | screenshot path => exact hR.screenshot _
  | echo text => exact .bind (hR.log ..) fun _ => .modify fun _ => hR.aside ..
  | set text => exact .bind (hR.call rfl) fun _ => hR.call rfl
  | exec command args run =>
    have : run = false := by simpa [Statement.isPlain] using hplain
    subst this
    exact .bind .get fun _ => .bind (hR.runProgram ..) fun _ => .pure _
  | fail message => exact .fail _
  | clickNow | send | clear | press | mouse | scrollIntoView => exact hR.call rfl
  | _ => cases hplain

end Tolerant

/-- A pause is no longer than what remains of the budget. -/
theorem Diligent.of_pause (h : m.budget.isExhausted m.clock = false) (hpause : pause m = (.ok (), m₁)) :
    Diligent m m₁ := by
  let d := min m.settings.retryInterval (m.budget.remaining m.clock)
  have hpaused : { m with clock := wakeTime m.clock d } = m₁ := congrArg Prod.snd hpause
  rw [← hpaused]
  refine .of_clock ?_
  have ends : m.clock + d ≤ m.budget.deadline := by
    have before : m.clock < m.budget.deadline := WaitBudget.isExhausted_eq_false_iff.1 h
    have : d ≤ m.budget.deadline - m.clock := Nat.min_le_right ..
    omega
  calc wakeTime m.clock d = firstMilli (m.clock + d) := wakeTime_eq_firstMilli ..
    _ ≤ firstMilli m.budget.deadline := firstMilli_mono ends
    _ ≤ _ := Nat.le_max_right ..

-- ======== calls

theorem asking_quiet (m : Machine σ) (c : Call) : Quiet m (m.asking c) :=
  ⟨⟨rfl⟩, rfl⟩

theorem ask_discreet {c : Call} (h : c.isOrdinary = true) :
    Run.Keeps (σ := σ) Discreet (Run.ask c) :=
  fun m => .of_eq (ask_apply c m) ⟨asking_quiet m c, .asking h⟩

theorem log_discreet (level : LogLevel) (target : LogTarget) (message : String) :
    Run.Keeps (σ := σ) Discreet (Run.log level target message) :=
  .modify fun _ => .of_same rfl rfl rfl

theorem discreet : Tolerant (σ := σ) Discreet where
  log := log_discreet
  aside _ _ _ _ _ _ := .of_same rfl rfl rfl
  ask h := ask_discreet (Call.isOrdinary_of_isMinor h)

theorem diligent : Tolerant (σ := σ) Diligent where
  log level target message := (discreet.log level target message).mono Discreet.diligent
  aside _ _ _ _ _ _ := (discreet.aside ..).diligent
  ask h := (discreet.ask h).mono Discreet.diligent

/-- A page is gone to in a browser that is running. -/
theorem get_discreet {url : String} (h : m.launched = true) :
    Run.KeepsAt (σ := σ) Discreet (Run.call (.get url)) m := by
  have hasked : Discreet m (m.asking (.get url)) :=
    ⟨asking_quiet m _, .of_call (c := .get url) h rfl rfl⟩
  exact .bind (.of_eq (ask_apply _ m) hasked) fun _ m₁ _ => (Run.Keeps.ofExcept ..).from m₁

/-- The answer to a call is its value, or else what the call failed with. -/
theorem call_cases (c : Call) (m : Machine σ) :
    (∃ a, Run.call c m = (.ok a, m.asking c) ∧ m.errorOf c = none) ∨
    ∃ e, Run.call c m = (.error (.failed (.ofError (.browser e))), m.asking c) ∧
      m.errorOf c = some e := by
  rcases hreply : (Browser.answer c m.browser m.disk).1 with e | a
  · refine .inr ⟨e, ?_, by rw [errorOf, hreply, BrowserError.of?]⟩
    rw [Run.call, Run.bind_ok (ask_apply c m), hreply]
    rfl
  · refine .inl ⟨a, ?_, by rw [errorOf, hreply, BrowserError.of?]⟩
    rw [Run.call, Run.bind_ok (ask_apply c m), hreply]
    rfl

/-- Bringing a browser up: the machine says that one is running right after the call, and only if this
has succeeded. -/
theorem launch_discreet {c : Call} {next : Run σ Unit} (hlaunches : c.launches = true)
    (hallowed : c.isAllowed m.launched = true) (hnext : Run.Keeps Discreet next) :
    Run.KeepsAt Discreet (do
      let _ ← Run.call c
      modify fun m => { m with launched := true }
      next) m := by
  have hrunning := Call.leavesRunning_of_launches hlaunches m.launched
  rcases call_cases c m with ⟨a, hcall, herror⟩ | ⟨e, hcall, herror⟩
  · have hlaunched : Discreet m { m.asking c with launched := true } := by
      refine ⟨⟨⟨rfl⟩, rfl⟩, .of_call hallowed rfl ?_⟩
      rw [hrunning, herror, Option.isNone_none, Bool.or_true]
    intro r m' h hr
    rw [Run.bind_ok hcall, Run.modify_bind_apply] at h
    exact (hnext.from _).trans hlaunched h hr
  · refine .of_eq (Run.bind_error hcall) ⟨asking_quiet m c, .of_call hallowed rfl ?_⟩
    rw [hrunning, herror, Option.isNone_some, Bool.or_false]
    rfl

theorem applyPageLoadTimeout_discreet : Run.Keeps (σ := σ) Discreet applyPageLoadTimeout := by
  refine .bind .get fun m => ?_
  split
  · exact (ask_discreet rfl).bind fun _ => .ofExcept ..
  · exact .pure _

theorem eq_asking_of_call {c : Call} {r : Except Halt c.Reply} (h : Run.call c m = (r, m₁)) :
    m₁ = m.asking c := by
  rcases call_cases c m with ⟨a, hcall, -⟩ | ⟨e, hcall, -⟩
  · rw [hcall] at h
    cases h
    rfl
  · rw [hcall] at h
    cases h
    rfl

/-- The browser is told of a time limit, if it is running and a limit is in mind. -/
theorem applyPageLoadTimeout_cases {r : Except Halt Unit} (h : applyPageLoadTimeout m = (r, m₁)) :
    (m₁ = m ∧ (m.launched = true → m.pageLoadTimeout = none)) ∨
    ∃ seconds, m.pageLoadTimeout = some seconds ∧ m₁ = m.asking (.setPageLoadTimeout seconds) := by
  rw [applyPageLoadTimeout, Run.get_bind_apply] at h
  cases hlaunched : m.launched with
  | false =>
    rw [hlaunched] at h
    cases h
    refine .inl ⟨rfl, ?_⟩
    rintro ⟨⟩
  | true =>
    cases htimeout : m.pageLoadTimeout with
    | none =>
      rw [hlaunched, htimeout] at h
      cases h
      exact .inl ⟨rfl, fun _ => rfl⟩
    | some seconds =>
      rw [hlaunched, htimeout] at h
      exact .inr ⟨seconds, rfl, eq_asking_of_call (c := .setPageLoadTimeout seconds) h⟩

theorem launched_of_applyPageLoadTimeout {r : Except Halt Unit}
    (h : applyPageLoadTimeout m = (r, m₁)) : m₁.launched = m.launched := by
  obtain ⟨rfl, -⟩ | ⟨seconds, -, rfl⟩ := applyPageLoadTimeout_cases h
  · rfl
  · rfl

/-- A browser is launched if none is running, and in either case one is running if this has ended
well. -/
theorem ensureBrowser_discreet : Run.Keeps (σ := σ) Discreet ensureBrowser := by
  intro m r m' h hr
  rw [ensureBrowser, Run.get_bind_apply] at h
  split at h
  · cases h
    exact refl_of Discreet m
  · next hidle =>
    refine Run.KeepsAt.bind ((log_discreet ..).from m) (fun _ m₁ hlog => ?_) h hr
    cases hlog
    exact launch_discreet rfl (by simpa [Call.isAllowed] using hidle) applyPageLoadTimeout_discreet

theorem launched_of_ensureBrowser (h : ensureBrowser m = (.ok (), m₁)) : m₁.launched = true := by
  rw [ensureBrowser, Run.get_bind_apply] at h
  split at h
  · next hlaunched =>
    cases h
    exact hlaunched
  · rw [Run.info, Run.log, Run.modify_bind_apply] at h
    rcases call_cases (σ := σ) (.start m.options) _ with ⟨a, hcall, -⟩ | ⟨e, hcall, -⟩
    · rw [Run.bind_ok hcall, Run.modify_bind_apply] at h
      exact launched_of_applyPageLoadTimeout h
    · rw [Run.bind_error hcall] at h
      cases h

/-- Where a browser is running, closing it is a call and nothing else that matters: it may fail, and
none is running then. -/
theorem teardown_of_launched (h : m.launched = true) :
    ∃ m', teardown m = (.ok (), m') ∧ Quiet m m' ∧ m'.launched = false ∧
      m'.contact = { (m.asking .close).contact with launched := false } := by
  rw [teardown, Run.get_bind_apply, h]
  change ∃ m', (Run.ask .close >>= _) m = _ ∧ _
  rw [Run.bind_ok (ask_apply .close m)]
  rcases (Browser.answer .close m.browser m.disk).1 with e | a
  · exact ⟨_, rfl, ⟨⟨rfl⟩, rfl⟩, rfl, rfl⟩
  · exact ⟨_, rfl, ⟨⟨rfl⟩, rfl⟩, rfl, rfl⟩

theorem teardown_of_not_launched (h : m.launched = false) : teardown m = (.ok (), m) := by
  rw [teardown, Run.get_bind_apply, h]
  rfl

theorem teardown_discreet : Run.Keeps (σ := σ) Discreet teardown := by
  intro m
  cases hlaunched : m.launched with
  | false => exact .of_eq (teardown_of_not_launched hlaunched) (refl_of Discreet m)
  | true =>
    obtain ⟨m', hdown, hquiet, hclosed, hcontact⟩ := teardown_of_launched hlaunched
    refine .of_eq hdown ⟨hquiet, .of_call (c := .close) hlaunched ?_ hclosed⟩
    rw [hclosed]
    exact hcontact

/-- No command to the browser touches the script's part of the state. -/
theorem control_discreet (command : BrowserCommand) :
    Run.Keeps (σ := σ) Discreet (control command) := by
  cases command with
  | start => exact .pure _
  | connect endpoint =>
    intro m r m' h hr
    rw [control, Run.get_bind_apply] at h
    exact launch_discreet (c := .connect endpoint m.options) rfl rfl applyPageLoadTimeout_discreet h hr
  | get url =>
    exact fun m => .bind (ensureBrowser_discreet.from m) fun _ _ h =>
      get_discreet (launched_of_ensureBrowser h)
  | close => exact teardown_discreet
  | wait seconds =>
    exact .bind (.modify fun _ => .of_same rfl rfl rfl) fun _ => applyPageLoadTimeout_discreet
  | _ => exact discreet.control rfl

-- ======== statements

/-- A plain statement other than a check touches only the page's part of the state, and takes no
time. -/
theorem execute_discreet (statements : Source → Run σ Unit) (limit : Nat) {st : Statement}
    (plain : st.isPlain = true) (noCheck : st.isCheck = false) :
    Run.Keeps (σ := σ) Discreet (execute statements limit st) :=
  discreet.execute (fun _ _ _ => .of_same rfl rfl rfl) plain (fun command _ => control_discreet command)
    (fun check => absurd (noCheck.symm.trans check) Bool.false_ne_true) ..

/-- A plain statement waits no longer than the budget allows. -/
theorem execute_diligent (statements : Source → Run σ Unit) (limit : Nat) {st : Statement}
    (plain : st.isPlain = true) :
    Run.Keeps (σ := σ) Diligent (execute statements limit st) :=
  diligent.execute (fun _ _ _ => Discreet.diligent (.of_same rfl rfl rfl)) plain
    (fun command _ => (control_discreet command).mono Discreet.diligent)
    (fun _ _ _ => .of_pause) ..

end Machine

end PageScript

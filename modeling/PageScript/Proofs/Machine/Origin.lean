/-
Where failures come from.

An action that fails gives a reason and nothing else: no token, no line, no frames. A turn adds the
token of its statement, and the end of a piece of script the frames that are open then. So there are
three ways for a turn to fail: what is there cannot be read, the statement that is read fails by
itself, or a piece of script that it runs has failed, whose failure is then passed on.
-/
import PageScript.Proofs.Machine.Conditional

namespace PageScript

namespace Failure

/-- Whether a failure has no place yet. -/
def IsBare (f : Failure) : Prop :=
  f = .ofError f.error

/-- A failure that has been passed on: its reason is the same, and so is its token once it has one. -/
structure Carried (g f : Failure) : Prop where
  error : f.error = g.error
  token : g.token.isSome = true → f.token = g.token ∧ f.line = g.line

namespace Carried

theorem refl (f : Failure) : Carried f f :=
  ⟨rfl, fun _ => ⟨rfl, rfl⟩⟩

theorem trans {f₁ f₂ f₃ : Failure} (h : Carried f₁ f₂) (h' : Carried f₂ f₃) : Carried f₁ f₃ := by
  refine ⟨h'.error.trans h.error, fun hsome => ?_⟩
  obtain ⟨htoken, hline⟩ := h.token hsome
  obtain ⟨htoken', hline'⟩ := h'.token (by rwa [htoken])
  exact ⟨htoken'.trans htoken, hline'.trans hline⟩

theorem withToken (f : Failure) (t : Token) : Carried f (f.withToken t) := by
  cases htoken : f.token with
  | none =>
    rw [Failure.withToken, htoken]
    exact ⟨rfl, fun hsome => by rw [htoken] at hsome; cases hsome⟩
  | some shown =>
    rw [Failure.withToken, htoken]
    exact refl f

theorem withTrace (f : Failure) (trace : List TraceEntry) : Carried f (f.withTrace trace) := by
  rw [Failure.withTrace]
  split
  · exact ⟨rfl, fun _ => ⟨rfl, rfl⟩⟩
  · exact refl f

end Carried

theorem IsBare.trace_eq {f : Failure} (h : f.IsBare) : f.trace = [] :=
  congrArg Failure.trace h

@[simp] theorem trace_withToken (f : Failure) (t : Token) : (f.withToken t).trace = f.trace := by
  rw [withToken]
  cases f.token <;> rfl

theorem isSome_token_withToken (f : Failure) (t : Token) : (f.withToken t).token.isSome = true := by
  cases htoken : f.token with
  | none => rw [withToken, htoken]; rfl
  | some shown => rw [withToken, htoken]; exact congrArg Option.isSome htoken

/-- The frames that a failure has taken along stay. -/
theorem trace_withTrace (f : Failure) (trace : List TraceEntry) :
    (f.withTrace trace).trace = if f.trace = [] then trace else f.trace := by
  rw [withTrace]
  cases htrace : f.trace with
  | nil => rfl
  | cons entry rest => exact htrace

/-- With a frame open, a failure shows frames from then on. -/
theorem trace_withTrace_ne_nil (f : Failure) {s : FrameStack} (h : s.frames ≠ []) :
    (f.withTrace s.trace).trace ≠ [] := by
  rw [trace_withTrace]
  split
  · simpa [FrameStack.trace] using h
  · assumption

end Failure

-- ======== failures of actions

namespace Run

variable {σ α β : Type} {P Q : Failure → Prop}

/-- Every failure of a run has a property. -/
def FailsOnly (P : Failure → Prop) (x : Run σ α) : Prop :=
  ∀ ⦃m f m'⦄, x m = (.error (.failed f), m') → P f

namespace FailsOnly

theorem of_ok {x : Run σ α} (h : ∀ m, ∃ a m', x m = (.ok a, m')) : FailsOnly P x := by
  intro m f m' hrun
  obtain ⟨a, m₁, hok⟩ := h m
  rw [hok] at hrun
  cases hrun

theorem pure (a : α) : FailsOnly P (pure a : Run σ α) :=
  .of_ok fun _ => ⟨_, _, rfl⟩

theorem get : FailsOnly P (get : Run σ (Machine σ)) :=
  .of_ok fun _ => ⟨_, _, rfl⟩

theorem set (m : Machine σ) : FailsOnly P (set m : Run σ Unit) :=
  .of_ok fun _ => ⟨_, _, rfl⟩

theorem modify (g : Machine σ → Machine σ) : FailsOnly P (modify g : Run σ Unit) :=
  .of_ok fun _ => ⟨_, _, rfl⟩

theorem modifyGet (g : Machine σ → α × Machine σ) : FailsOnly P (modifyGet g : Run σ α) :=
  .of_ok fun _ => ⟨_, _, rfl⟩

theorem unfinished : FailsOnly P (throw .unfinished : Run σ α) := by
  intro m f m' hrun
  rw [throw_apply] at hrun
  cases hrun

theorem throw {f : Failure} (h : P f) : FailsOnly P (throw (.failed f) : Run σ α) := by
  intro m f' m' hrun
  cases hrun
  exact h

theorem bind {x : Run σ α} {g : α → Run σ β} (hx : FailsOnly P x) (hg : ∀ a, FailsOnly P (g a)) :
    FailsOnly P (x >>= g) := by
  intro m f m' h
  rcases hxm : x m with ⟨e | a, m₁⟩
  · rw [bind_error hxm] at h
    cases h
    exact hx hxm
  · rw [bind_ok hxm] at h
    exact hg a h

/-- What is done with the outcome of a run may rely on what its failures are. -/
theorem outcome_bind {x : Run σ α} {g : Except Failure α → Run σ β} (hx : FailsOnly Q x)
    (hg : ∀ r, (∀ f, r = .error f → Q f) → FailsOnly P (g r)) : FailsOnly P (x.outcome >>= g) := by
  intro m f m' h
  rcases hxm : x m with ⟨(e | _) | a, m₁⟩
  · rw [bind_ok (outcome_failed hxm)] at h
    refine hg (.error e) ?_ h
    rintro _ ⟨⟩
    exact hx hxm
  · rw [bind_error (outcome_unfinished hxm)] at h
    cases h
  · rw [bind_ok (outcome_ok hxm)] at h
    refine hg (.ok a) ?_ h
    rintro _ ⟨⟩

theorem forM {g : α → Run σ PUnit} (hg : ∀ a, FailsOnly P (g a)) (l : List α) :
    FailsOnly P (l.forM g) := by
  induction l with
  | nil => exact .pure _
  | cons a l ih => exact (hg a).bind fun _ => ih

theorem fail (error : ScriptError) : FailsOnly Failure.IsBare (fail error : Run σ α) :=
  .throw rfl

theorem ofExcept {ε : Type} (toError : ε → ScriptError) (e : Except ε α) :
    FailsOnly Failure.IsBare (ofExcept toError e : Run σ α) := by
  cases e with
  | ok a => exact .pure a
  | error e => exact .fail _

end FailsOnly

end Run

namespace Machine

open Run (FailsOnly)
open Failure (IsBare)

variable {σ : Type} {P : Failure → Prop}

theorem log_failsOnly (level : LogLevel) (target : LogTarget) (message : String) :
    FailsOnly (σ := σ) P (Run.log level target message) :=
  .modify _

theorem onDisk_bare (change : Disk → Except IoError Unit × Disk) :
    FailsOnly (σ := σ) IsBare (Run.onDisk change) :=
  .bind .get fun _ => .bind (.modify _) fun _ => .ofExcept ..

theorem configure_failsOnly (what : String) (change : BrowserOptions → BrowserOptions) :
    FailsOnly (σ := σ) P (configure what change) := by
  refine .bind .get fun m => ?_
  dsimp only
  split
  · exact .bind (log_failsOnly ..) fun _ => .modify _
  · exact .modify _

theorem runProgram_bare [Programs σ] (command : String) (args : List String) (dir : Path) :
    FailsOnly (σ := σ) IsBare (runProgram command args dir) := by
  refine .bind .get fun m => ?_
  split
  · exact .fail _
  · exact .unfinished
  · refine .bind (.set _) fun _ => ?_
    refine .bind (.forM (fun _ => log_failsOnly ..) _) fun _ => ?_
    refine .bind (.forM (fun _ => log_failsOnly ..) _) fun _ => ?_
    split
    · exact .pure _
    · exact .fail _

theorem require_bare (holds : Bool) (mismatch : Mismatch) :
    FailsOnly (σ := σ) IsBare (require holds mismatch) := by
  unfold require
  split
  · exact .pure _
  · exact .fail _

theorem conditional_bare (word : Control) : FailsOnly (σ := σ) IsBare (conditional word) := by
  cases word with
  | ifBegin => exact .modify _
  | thenEnter => exact .bind .get fun _ => .bind (.ofExcept ..) fun _ => .modify _
  | endIf => exact .bind .get fun _ => .bind (.ofExcept ..) fun _ => .modify _

variable [World σ]

theorem ask_failsOnly (c : Call) : FailsOnly (σ := σ) P (Run.ask c) :=
  .modifyGet _

theorem call_bare (c : Call) : FailsOnly (σ := σ) IsBare (Run.call c) :=
  .bind (ask_failsOnly c) fun _ => .ofExcept ..

theorem applyPageLoadTimeout_bare : FailsOnly (σ := σ) IsBare applyPageLoadTimeout := by
  refine .bind .get fun m => ?_
  split
  · exact call_bare _
  · exact .pure _

theorem ensureBrowser_bare : FailsOnly (σ := σ) IsBare ensureBrowser := by
  refine .bind .get fun m => ?_
  split
  · exact .pure _
  · refine .bind (log_failsOnly ..) fun _ => .bind (call_bare _) fun _ => ?_
    exact .bind (.modify _) fun _ => applyPageLoadTimeout_bare

/-- Closing the browser does not fail. -/
theorem teardown_failsOnly : FailsOnly (σ := σ) P teardown := by
  refine .bind .get fun m => ?_
  split
  · exact .pure _
  · refine .bind (ask_failsOnly _) fun answer => ?_
    cases answer with
    | ok _ => exact .modify _
    | error e => exact .bind (log_failsOnly ..) fun _ => .modify _

theorem resize_bare (change : BrowserOptions → BrowserOptions) :
    FailsOnly (σ := σ) IsBare (resize change) := by
  refine .bind (.modify _) fun _ => .bind .get fun m => ?_
  split
  · exact call_bare _
  · exact .pure _

theorem control_bare (command : BrowserCommand) : FailsOnly (σ := σ) IsBare (control command) := by
  cases command with
  | start => exact .pure _
  | connect endpoint =>
    refine .bind .get fun m => .bind (call_bare _) fun _ => ?_
    exact .bind (.modify _) fun _ => applyPageLoadTimeout_bare
  | size width height => exact resize_bare (σ := σ) fun o => { o with width, height }
  | chrome width height =>
    exact resize_bare (σ := σ) fun o => { o with chromeWidth := width, chromeHeight := height }
  | get url => exact .bind ensureBrowser_bare fun _ => call_bare _
  | close => exact teardown_failsOnly
  | wait seconds => exact .bind (.modify _) fun _ => applyPageLoadTimeout_bare
  | headless on => exact configure_failsOnly "headless" fun o => { o with headless := on }
  | option argument =>
    exact configure_failsOnly ("option " ++ argument) fun o => { o with args := o.args ++ [argument] }
  | prefs name value =>
    exact configure_failsOnly ("prefs " ++ name) fun o =>
      { o with prefs := setPref name value o.prefs }
  | back | forward | refresh | send => exact call_bare _

theorem screenshot_bare (file : Path) : FailsOnly (σ := σ) IsBare (screenshot file) := by
  refine .bind .get fun m => ?_
  have hshoot : FailsOnly (σ := σ) IsBare (do
      Run.call (.screenshot (m.screenshotPath file))
      Run.info ("Screenshot saved to " ++ (m.screenshotPath file).text)) :=
    .bind (call_bare _) fun _ => log_failsOnly ..
  dsimp only
  split
  · exact .bind (onDisk_bare _) fun _ => hshoot
  · exact hshoot

/-- That the screenshot after a failure goes wrong is no failure. -/
theorem failureScreenshot_failsOnly (script : Path) :
    FailsOnly (σ := σ) P (failureScreenshot script) := by
  refine .bind .get fun m => ?_
  split
  · exact .pure _
  · split
    · refine .bind (.modify _) fun _ => ?_
      split
      · exact log_failsOnly ..
      · refine .bind (ask_failsOnly _) fun answer => ?_
        cases answer with
        | ok _ => exact log_failsOnly ..
        | error e => exact log_failsOnly ..
    · exact .pure _

theorem drainConsole_failsOnly : FailsOnly (σ := σ) P drainConsole := by
  refine .bind (ask_failsOnly _) fun answer => ?_
  cases answer with
  | ok messages => exact .forM (fun _ => log_failsOnly ..) _
  | error _ => exact .pure _

theorem describe_bare : FailsOnly (σ := σ) IsBare describe :=
  .bind (call_bare _) fun _ => .bind (call_bare _) fun _ => .bind (call_bare _) fun _ =>
    .bind .get fun _ => log_failsOnly ..

theorem attempt_bare (probe : Probe) : FailsOnly (σ := σ) IsBare (attempt probe) := by
  cases probe with
  | locate locator => exact call_bare _
  | click => exact call_bare _
  | geometry measure expected => exact .bind (call_bare _) fun _ => .ofExcept ..
  | _ => exact .bind (call_bare _) fun _ => require_bare ..

theorem relocate_failsOnly (probe : Probe) : FailsOnly (σ := σ) P (relocate probe) := by
  unfold relocate
  split
  · refine .bind .get fun m => ?_
    split
    · exact .bind (ask_failsOnly _) fun _ => .pure _
    · exact .pure _
  · exact .pure _

omit [World σ] in
theorem pause_failsOnly : FailsOnly (σ := σ) P pause :=
  .bind .get fun _ => .modify _

theorem judge_bare {probe : Probe} {negate : Bool} {r : Except Failure Unit} {f : Failure}
    (hr : ∀ f, r = .error f → f.IsBare) (h : judge probe negate r = .error f) : f.IsBare := by
  cases r with
  | ok u =>
    simp only [judge] at h
    split at h
    · cases h
      rfl
    · cases h
  | error e =>
    simp only [judge] at h
    split at h
    · cases h
    · cases h
      exact hr _ rfl

theorem surrender_bare {probe : Probe} {f : Failure} (h : f.IsBare) :
    (surrender probe f).IsBare := by
  unfold surrender
  split
  · split
    · rfl
    · exact h
  · exact h

theorem retry_bare (probe : Probe) (negate : Bool) (fuel : Nat) :
    FailsOnly (σ := σ) IsBare (retry probe negate fuel) := by
  induction fuel with
  | zero => exact .unfinished
  | succ fuel ih =>
    refine .outcome_bind (attempt_bare probe) fun r hr => ?_
    split
    · exact .pure _
    · next hjudge =>
      refine .bind .get fun m => ?_
      split
      · exact .bind pause_failsOnly fun _ => .bind (relocate_failsOnly probe) fun _ => ih
      · exact .throw (surrender_bare (judge_bare hr hjudge))

theorem verify_bare (limit : Nat) (probe : Probe) :
    FailsOnly (σ := σ) IsBare (verify limit probe) :=
  .bind (.modifyGet _) fun _ => retry_bare ..

/-- A statement that runs no piece of script fails for a reason, and says nothing of the place. -/
theorem execute_bare (run : Source → Run σ Unit) (limit : Nat) {st : Statement}
    (hscript : st.runsScript = false) : FailsOnly (σ := σ) IsBare (execute run limit st) := by
  cases st with
  | browser command => exact control_bare command
  | call hook args => exact .bind (call_bare _) fun _ => log_failsOnly ..
  | locate locator =>
    refine .bind (.modifyGet _) fun negated => .bind (verify_bare ..) fun _ => ?_
    split
    · exact .bind (ask_failsOnly _) fun _ => .pure _
    · exact .pure _
  | verify probe => exact verify_bare ..
  | logDump => exact drainConsole_failsOnly
  | dump => exact .bind (call_bare _) fun _ => log_failsOnly ..
  | info => exact describe_bare
  | screenshot path => exact screenshot_bare _
  | popWait =>
    refine .bind .get fun m => ?_
    split
    · exact .modify _
    · exact .fail _
  | echo text => exact .bind (log_failsOnly ..) fun _ => .modify _
  | set text => exact .bind (call_bare _) fun _ => call_bare _
  | exec command args again =>
    have hagain : again = false := hscript
    subst hagain
    exact .bind .get fun _ => .bind (runProgram_bare ..) fun _ => .pure _
  | control word => exact conditional_bare word
  | fail message => exact .fail _
  | clickNow | send | clear | press | mouse | scrollIntoView => exact call_bare _
  | includeFile | invoke | «while» => cases hscript
  | _ => exact .modify _

end Machine

-- ======== failures of pieces

namespace Machine

variable {σ : Type} {run : Source → Run σ Unit} {limit : Nat} {s : Source} {m m' m₁ m₂ : Machine σ}
  {st : Statement} {e f : Failure}

theorem inFrame_apply (name : String) (dir : Path) (m : Machine σ) :
    inFrame run name dir s m =
      match block run s (m.entering name dir) with
      | (.ok _, m₁) => (.ok (), m₁.leaving)
      | (.error (.failed e), m₁) => (.error (.failed (e.withTrace m₁.frames.trace)), m₁.leaving)
      | (.error .unfinished, m₁) => (.error .unfinished, m₁) := by
  rw [inFrame, Run.modify_bind_apply]
  change ((block run s).outcome >>= _) (m.entering name dir) = _
  rcases hblock : block run s (m.entering name dir) with ⟨(f | _) | ⟨⟩, m₁⟩
  · rw [Run.bind_ok (Run.outcome_failed hblock), Run.modifyGet_bind_apply]
    rfl
  · rw [Run.bind_error (Run.outcome_unfinished hblock)]
  · rw [Run.bind_ok (Run.outcome_ok hblock), Run.modifyGet_bind_apply]
    rfl

theorem inFrame_eq_failed {name : String} {dir : Path}
    (h : inFrame run name dir s m = (.error (.failed f), m')) :
    ∃ e m₁, block run s (m.entering name dir) = (.error (.failed e), m₁) ∧
      f = e.withTrace m₁.frames.trace ∧ m' = m₁.leaving := by
  rw [inFrame_apply] at h
  rcases hblock : block run s (m.entering name dir) with ⟨(e | _) | ⟨⟩, m₁⟩ <;> rw [hblock] at h
  · cases h
    exact ⟨e, m₁, rfl, rfl, rfl⟩
  · cases h
  · cases h

/-- A run that starts with one piece of script: it runs that piece in a frame of its own, or there is no
piece to run and it fails by itself. -/
inductive Opens :
    Option (Source × Machine σ) → ((Source → Run σ Unit) → Except Halt Unit × Machine σ) → Prop
  | none {x : (Source → Run σ Unit) → Except Halt Unit × Machine σ} :
      (∀ run f m', x run = (.error (.failed f), m') → f.IsBare) → Opens none x
  | some {x : (Source → Run σ Unit) → Except Halt Unit × Machine σ} {name : String} {dir : Path}
      {s : Source} {m : Machine σ} :
      (∀ run, x run = inFrame run name dir s m) → Opens (some (s, m.entering name dir)) x

theorem Opens.framed {start : Option (Source × Machine σ)}
    {x : (Source → Run σ Unit) → Except Halt Unit × Machine σ} (h : Opens start x)
    (hstart : start = Option.some (s, m₁)) :
    ∃ name dir m, m₁ = entering m name dir ∧ ∀ run, x run = inFrame run name dir s m := by
  cases h with
  | none => cases hstart
  | some hx =>
    cases hstart
    exact ⟨_, _, _, rfl, hx⟩

theorem Opens.bare {start : Option (Source × Machine σ)}
    {x : (Source → Run σ Unit) → Except Halt Unit × Machine σ} (h : Opens start x)
    (hnone : ∀ s m₁, start ≠ Option.some (s, m₁)) (hfails : x run = (.error (.failed f), m')) :
    f.IsBare := by
  cases h with
  | none hx => exact hx _ _ _ hfails
  | some => exact absurd rfl (hnone _ _)

theorem file_opens (path : Path) (m : Machine σ) :
    Opens (m.fileStart? path) fun run => file run path m := by
  cases htext : m.disk.readText (m.frames.workingDir.join path) with
  | ok text =>
    rw [fileStart?_of_ok htext]
    exact .some fun run => file_of_ok htext
  | error e =>
    have hstart : m.fileStart? path = none := by rw [fileStart?, htext]; rfl
    rw [hstart]
    refine .none fun run f m' h => ?_
    rw [file, Run.get_bind_apply] at h
    simp only [htext] at h
    cases h
    rfl

theorem invoke_opens (name : String) (bindings : Bindings) (m : Machine σ) :
    Opens (m.aliasStart? name bindings) fun run => invoke run name bindings m := by
  cases hfound : m.aliases.get? name with
  | some found =>
    rw [aliasStart?_of_some hfound]
    refine .some fun run => ?_
    rw [invoke, Run.get_bind_apply, hfound]
  | none =>
    rw [aliasStart?, hfound]
    refine .none fun run f m' h => ?_
    rw [invoke, Run.get_bind_apply, hfound] at h
    cases h
    rfl

theorem loop_of_ok {body : Block} (h : block run (.ofBlock body) m = (.ok (), m₁)) :
    loop run body (limit + 1) m = loop run body limit m₁ := by
  rw [loop, Run.bind_ok (Run.outcome_ok h)]

theorem loop_of_failed {body : Block} (h : block run (.ofBlock body) m = (.error (.failed e), m₁)) :
    loop run body (limit + 1) m =
      if e.endsLoop then (.ok (), { m₁ with negateNext := false }) else (.error (.failed e), m₁) := by
  rw [loop, Run.bind_ok (Run.outcome_failed h)]
  dsimp only
  split <;> rfl

/-- A loop fails as the round does that fails. -/
theorem loop_eq_failed {body : Block} (h : loop run body limit m = (.error (.failed f), m')) :
    ∃ k m₁, k < limit ∧ Rounds run body k m m₁ ∧
      block run (.ofBlock body) m₁ = (.error (.failed f), m') := by
  induction limit generalizing m with
  | zero =>
    rw [loop, Run.throw_apply] at h
    cases h
  | succ limit ih =>
    rcases hblock : block run (.ofBlock body) m with ⟨(e | _) | ⟨⟩, m₁⟩
    · rw [loop_of_failed hblock] at h
      split at h
      · cases h
      · cases h
        exact ⟨0, m, Nat.succ_pos _, .zero m, hblock⟩
    · rw [loop, Run.bind_error (Run.outcome_unfinished hblock)] at h
      cases h
    · rw [loop_of_ok hblock] at h
      obtain ⟨k, m₂, hk, hrounds, hfails⟩ := ih h
      exact ⟨k + 1, m₂, Nat.succ_lt_succ hk, .succ hblock hrounds, hfails⟩

/-- Behind some rounds, a loop goes on with as many fewer. -/
theorem Rounds.loop_eq {body : Block} {k : Nat} (h : Rounds run body k m m₁) (rest : Nat) :
    loop run body (k + rest) m = loop run body rest m₁ := by
  induction h with
  | zero => rw [Nat.zero_add]
  | succ hblock _ ih => rw [Nat.add_right_comm, loop_of_ok hblock, ih]

/-- A failure as it leaves the piece of script that a statement runs: out of a frame it takes the
open frames along, and out of the body of a loop it comes as it is. -/
inductive Leaves (e : Failure) (m : Machine σ) : Failure → Machine σ → Prop
  | frame : m.frames.frames ≠ [] → Leaves e m (e.withTrace m.frames.trace) m.leaving
  | loop : Leaves e m e m

namespace Leaves

theorem carried (h : Leaves e m f m') : e.Carried f := by
  cases h with
  | frame => exact .withTrace ..
  | loop => exact .refl e

/-- Whether the frames are taken along here or further out, they are the same ones. -/
theorem trace_eq (h : Leaves e m f m') :
    (f.withTrace m'.frames.trace).trace = (e.withTrace m.frames.trace).trace := by
  cases h with
  | frame hopen =>
    rw [Failure.trace_withTrace _ m.leaving.frames.trace,
      if_neg (Failure.trace_withTrace_ne_nil e hopen)]
  | loop => rfl

end Leaves

section Browser

variable [World σ]

theorem exec_opens (command : String) (args : List String) (m : Machine σ) :
    Opens (m.outputStart? command args) fun run =>
      execute run limit (.exec command args true) m := by
  rcases hprog : runProgram command args m.frames.workingDir m with ⟨e | output, m₁⟩
  · have hstart : m.outputStart? command args = none := by rw [outputStart?, hprog]; rfl
    rw [hstart]
    refine .none fun run f m' h => ?_
    rw [execute_exec_apply, Run.bind_error hprog] at h
    cases h
    exact runProgram_bare _ _ _ hprog
  · rw [outputStart?_of_ok hprog]
    refine .some fun run => ?_
    rw [execute_exec_apply, Run.bind_ok hprog]

/-- A piece of script that a statement runs is run in a frame of its own, or it is the body of a
loop. -/
theorem Enters.framed_or_loop (h : Enters run limit st m s m₁) :
    (∃ name dir m₀, m₁ = entering m₀ name dir ∧
      execute run limit st m = inFrame run name dir s m₀) ∨
    ∃ body k, st = .while body ∧ s = .ofBlock body ∧ body.span.isEmpty = false ∧ k < limit ∧
      Rounds run body k m m₁ := by
  cases h with
  | includeFile hstart =>
    obtain ⟨name, dir, m₀, hm₁, hrun⟩ := (file_opens _ m).framed hstart
    exact .inl ⟨name, dir, m₀, hm₁, hrun run⟩
  | invoke hstart =>
    obtain ⟨name, dir, m₀, hm₁, hrun⟩ := (invoke_opens _ _ m).framed hstart
    exact .inl ⟨name, dir, m₀, hm₁, hrun run⟩
  | exec hstart =>
    obtain ⟨name, dir, m₀, hm₁, hrun⟩ := (exec_opens _ _ m).framed hstart
    exact .inl ⟨name, dir, m₀, hm₁, hrun run⟩
  | «while» hempty hk hrounds => exact .inr ⟨_, _, rfl, rfl, hempty, hk, hrounds⟩

/-- A statement that would run a piece of script, but has none to run, fails by itself. -/
theorem execute_bare_of_not_enters (hnone : ∀ s m₁, ¬Enters run limit st m s m₁)
    (h : execute run limit st m = (.error (.failed f), m')) : f.IsBare := by
  cases hscript : st.runsScript with
  | false => exact execute_bare run limit hscript h
  | true =>
    cases st with
    | includeFile path => exact (file_opens _ m).bare (fun _ _ hs => hnone _ _ (.includeFile hs)) h
    | invoke name bindings =>
      exact (invoke_opens _ _ m).bare (fun _ _ hs => hnone _ _ (.invoke hs)) h
    | exec command args again =>
      have hagain : again = true := hscript
      subst hagain
      exact (exec_opens _ _ m).bare (fun _ _ hs => hnone _ _ (.exec hs)) h
    | «while» body =>
      rw [execute_while] at h
      split at h
      · cases h
      · next hempty =>
        obtain ⟨k, m₁, hk, hrounds, -⟩ := loop_eq_failed h
        exact absurd (.while (by simpa using hempty) hk hrounds) (hnone _ _)
    | _ => cases hscript

/-- If a piece of script fails that a statement runs, and the statement fails, then with that
failure. -/
theorem Enters.leaves (h : Enters run limit st m s m₁)
    (hopen : ∀ name dir m₀, m₁ = entering m₀ name dir → m₂.frames.frames ≠ [])
    (hpiece : block run s m₁ = (.error (.failed e), m₂))
    (hfails : execute run limit st m = (.error (.failed f), m')) : Leaves e m₂ f m' := by
  obtain ⟨name, dir, m₀, rfl, hexec⟩ | ⟨body, k, rfl, rfl, hempty, hk, hrounds⟩ := h.framed_or_loop
  · rw [hexec, inFrame_apply, hpiece] at hfails
    cases hfails
    exact .frame (hopen _ _ _ rfl)
  · obtain ⟨rest, rfl⟩ := Nat.exists_eq_add_of_lt hk
    rw [execute_while, hempty, Nat.add_assoc] at hfails
    simp only [Bool.false_eq_true, if_false] at hfails
    rw [hrounds.loop_eq, loop_of_failed hpiece] at hfails
    split at hfails
    · cases hfails
    · cases hfails
      exact .loop

/-- If a statement fails that can run pieces of script, then one that it runs has failed. -/
theorem Enters.exists_failed (h : Enters run limit st m s m₁)
    (hfails : execute run limit st m = (.error (.failed f), m')) :
    ∃ s₁ m₁ e m₂, Enters run limit st m s₁ m₁ ∧ block run s₁ m₁ = (.error (.failed e), m₂) := by
  obtain ⟨name, dir, m₀, rfl, hexec⟩ | ⟨body, k, rfl, rfl, hempty, hk, hrounds⟩ := h.framed_or_loop
  · rw [hexec] at hfails
    obtain ⟨e, m₂, hblock, -, -⟩ := inFrame_eq_failed hfails
    exact ⟨s, _, e, m₂, h, hblock⟩
  · rw [execute_while, hempty] at hfails
    simp only [Bool.false_eq_true, if_false] at hfails
    obtain ⟨k, m₁, hk, hrounds, hblock⟩ := loop_eq_failed hfails
    exact ⟨_, m₁, f, m', .while hempty hk hrounds, hblock⟩

-- ======== failures of turns

theorem carryOut_eq_failed {first : Token}
    (h : carryOut run limit first st m = (.error (.failed f), m')) :
    ∃ e, execute run limit st m = (.error (.failed e), m') ∧ f = e.withToken first := by
  rw [carryOut, Run.get_bind_apply] at h
  rcases hexec : execute run limit st m with ⟨(e | _) | ⟨⟩, m₁⟩
  · rw [Run.bind_ok (Run.outcome_failed hexec), settle] at h
    split at h
    · rw [Run.modify_bind_apply, drain_apply] at h
      cases h
    · rw [Run.bind_error (Run.throw_apply ..)] at h
      cases h
      exact ⟨e, rfl, rfl⟩
  · rw [Run.bind_error (Run.outcome_unfinished hexec)] at h
    cases h
  · rw [Run.bind_ok (Run.outcome_ok hexec), settle] at h
    split at h
    · rw [Run.modify_bind_apply, drain_apply] at h
      cases h
    · rw [pure_bind, drain_apply] at h
      cases h

/-- A turn fails because it cannot read a statement, or because the statement fails; the failure has
then a token, if it had none before. -/
theorem turn_eq_failed (h : turn run limit s m = (.error (.failed f), m')) :
    (m.read s).first.isFinish = false ∧
    ((m.read s).parsed = .error f ∧ m' = m.noting (m.read s) ∨
      ∃ st m₁ e, Meets m s st m₁ ∧ execute run limit st m₁ = (.error (.failed e), m') ∧
        f = e.withToken (m.read s).first) := by
  cases hf : (m.read s).first.isFinish with
  | true =>
    rw [turn_of_finish hf] at h
    cases h
  | false =>
    refine ⟨rfl, ?_⟩
    cases hp : (m.read s).parsed with
    | error e =>
      rw [turn_of_error hf hp] at h
      cases h
      exact .inl ⟨rfl, rfl⟩
    | ok st =>
      rw [turn_of_ok hf hp] at h
      cases hskip : (m.noting (m.read s)).skips st with
      | true =>
        rw [step_of_skips hskip] at h
        cases h
      | false =>
        rw [step_of_not_skips hskip] at h
        rcases hcarry : carryOut run limit (m.read s).first st (m.noting (m.read s)) with ⟨e | u, m₁⟩
        · rw [hcarry] at h
          cases h
          obtain ⟨e, hexec, rfl⟩ := carryOut_eq_failed hcarry
          exact .inr ⟨st, _, e, ⟨hf, hp, rfl, hskip⟩, hexec, rfl⟩
        · rw [hcarry] at h
          cases h

end Browser

end Machine

end PageScript

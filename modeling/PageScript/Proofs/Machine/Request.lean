/-
What a machine is asked to do from outside, and the pieces of script that it runs for that.

A request runs a file, a text, tokens or an alias, or a whole test with the aliases that follow it.
`Request.Performs` relates a request to every statement that is carried out for it, at any depth.
What these statements keep, and what happens between them, the request keeps.
-/
import PageScript.Proofs.Machine.Course

namespace PageScript

/-- What a machine can be asked to do. -/
inductive Request
  | file (path : Path)
  | text (content name : String) (workingDir : Path)
  | tokens (given : List Token) (bindings : Bindings)
  | invoke (name : String) (bindings : Bindings)
  | script (path : Path)
  | close

namespace Machine

variable {σ : Type}

/-- The machine with tokens that it is given to run. -/
def holding (m : Machine σ) (tokens : List Token) : Machine σ :=
  { m with arena := (m.arena.alloc (tokens.filter (!·.isFinish))).2 }

/-- Where the run of given tokens starts. -/
def tokensStart (m : Machine σ) (tokens : List Token) (bindings : Bindings) : Source × Machine σ :=
  (.ofBlock ⟨(m.arena.alloc (tokens.filter (!·.isFinish))).1, bindings⟩,
    (m.holding tokens).entering "<tokens>" m.frames.workingDir)

/-- The machine after something has happened to the browser and the disk from outside. -/
def outside (m : Machine σ) (change : σ × Disk → σ × Disk) : Machine σ :=
  { m with browser := (change (m.browser, m.disk)).1, disk := (change (m.browser, m.disk)).2 }

variable [World σ]

/-- The part of a test that decides how it ends: its file, and the alias for its success. -/
def trial (fuel : Nat) (path : Path) : Run σ Unit := do
  runFile fuel path
  runHook fuel onSuccess

/-- What is done about the failure of a test before its alias is run. -/
def report (path : Path) (f : Failure) : Run σ Unit := do
  Run.log .error .engine f.diagnostic
  failureScreenshot path

end Machine

namespace Request

open Machine

variable {σ : Type} [World σ]

/-- Does what is requested. -/
def run (fuel : Nat) : Request → Run σ Unit
  | .file path => runFile fuel path
  | .text content name dir => runText fuel content name dir
  | .tokens given bindings => runTokens fuel given bindings
  | .invoke name bindings => runAlias fuel name bindings
  | .script path => runScript fuel path
  | .close => teardown

/-- For a request, the run of a piece of script is started, in the machine that is then given. -/
inductive Starts (fuel : Nat) : Request → Machine σ → Source → Machine σ → Prop
  | file {path : Path} {m m₁ : Machine σ} {s : Source} :
      m.fileStart? path = some (s, m₁) → Starts fuel (.file path) m s m₁
  | text {content name : String} {dir : Path} {m : Machine σ} :
      Starts fuel (.text content name dir) m (.ofText m.settings.lexicon content)
        (m.entering name dir)
  | tokens {given : List Token} {bindings : Bindings} {m : Machine σ} :
      Starts fuel (.tokens given bindings) m (m.tokensStart given bindings).1
        (m.tokensStart given bindings).2
  | invoke {name : String} {bindings : Bindings} {m m₁ : Machine σ} {s : Source} :
      m.aliasStart? name bindings = some (s, m₁) → Starts fuel (.invoke name bindings) m s m₁
  | script {path : Path} {m m₁ : Machine σ} {s : Source} :
      m.fileStart? path = some (s, m₁) → Starts fuel (.script path) m s m₁
  | onSuccess {path : Path} {m m₁ m₂ : Machine σ} {s : Source} :
      runFile fuel path m = (.ok (), m₁) → m₁.aliasStart? onSuccess {} = some (s, m₂) →
      Starts fuel (.script path) m s m₂
  | onFail {path : Path} {f : Failure} {m m₁ m₂ m₃ : Machine σ} {s : Source} :
      (trial fuel path).outcome m = (.ok (.error f), m₁) → report path f m₁ = (.ok (), m₂) →
      m₂.aliasStart? onFail {} = some (s, m₃) → Starts fuel (.script path) m s m₃

/-- For a request, a statement is carried out, in the machine that is then given. -/
def Performs (fuel : Nat) (request : Request) (m : Machine σ) (st : Statement) (m₁ : Machine σ) :
    Prop :=
  ∃ s m', request.Starts fuel m s m' ∧ Machine.Performs fuel s m' st m₁

end Request

namespace Machine

variable {σ : Type} [World σ] {R : Machine σ → Machine σ → Prop} {fuel : Nat} {m : Machine σ}

/-- A relation between machines that survives also what is done around the runs of a request, tokens
apart that are given with it. -/
structure Enduring (R : Machine σ → Machine σ → Prop) : Prop extends Framed R where
  report : ∀ path f, Run.Keeps R (Machine.report path f)
  teardown : Run.Keeps R Machine.teardown

/-- A relation between machines that survives also what happens between requests. -/
structure Lasting (R : Machine σ → Machine σ → Prop) : Prop extends Enduring R where
  outside : ∀ m change, R m (Machine.outside m change)

/-- A relation between machines that survives whatever is done around the statements of a request. -/
structure Durable (R : Machine σ → Machine σ → Prop) : Prop extends Stable R, Lasting R where
  holding : ∀ m tokens, R m (m.holding tokens)

theorem Tolerant.report (hR : Tolerant R) (path : Path) (f : Failure) :
    Run.Keeps R (Machine.report path f) :=
  have := hR.toIsPreorder
  .bind (hR.log ..) fun _ => hR.failureScreenshot path

/-- Running an alias that may not be there. -/
theorem Framed.of_runHook (hR : Framed R) {name : String}
    (hrun : ∀ {s m₁}, m.aliasStart? name {} = some (s, m₁) → Run.KeepsAt R (statements fuel s) m₁) :
    Run.KeepsAt R (runHook fuel name) m := by
  have := hR.toIsPreorder
  intro r m' h hr
  rw [runHook, Run.get_bind_apply] at h
  split at h
  · exact hR.of_invoke hrun h hr
  · cases h
    exact refl_of R m

/-- The test proper: its file, and then the alias for success where the file has ended. -/
theorem Framed.of_trial (hR : Framed R) {path : Path}
    (hfile : ∀ {s m₁}, m.fileStart? path = some (s, m₁) → Run.KeepsAt R (statements fuel s) m₁)
    (hhook : ∀ {s m₁ m₂}, runFile fuel path m = (.ok (), m₁) →
      m₁.aliasStart? onSuccess {} = some (s, m₂) → Run.KeepsAt R (statements fuel s) m₂) :
    Run.KeepsAt R (trial fuel path) m := by
  have := hR.toIsPreorder
  exact .bind (hR.of_file hfile) fun _ _ h => hR.of_runHook (hhook h)

/-- A relation that holds wherever the script's part of the state is untouched and no time passes has
to be looked at only where a run changes that part. -/
theorem Lasting.of_quiet [IsPreorder (Machine σ) R] (hquiet : ∀ {m m'}, Quiet m m' → R m m')
    (hframe : ∀ {m m'} name dir, R (m.entering name dir) m' → R m m'.leaving)
    (hblock : ∀ {m m'}, R m m' → R m (m'.closing m.conditions.depth))
    (hrecording : ∀ m outcome, R m { m with conditions := m.conditions.record outcome }) :
    Lasting R where
  frame := hframe
  block := hblock
  recording := hrecording
  loopEnd _ := hquiet ⟨⟨rfl⟩, rfl⟩
  log _ _ _ := (discreet.log ..).mono fun h => hquiet h.toQuiet
  drain := discreet.drainConsole.mono fun h => hquiet h.toQuiet
  program _ _ _ := (discreet.runProgram ..).mono fun h => hquiet h.toQuiet
  report path f := (discreet.report path f).mono fun h => hquiet h.toQuiet
  teardown := teardown_discreet.mono fun h => hquiet h.toQuiet
  outside _ _ := hquiet ⟨⟨rfl⟩, rfl⟩

namespace Enduring

/-- The end of a test that has failed: the report, the alias for failures, whose failure is swallowed. -/
theorem of_afterFailure (hR : Enduring R) {path : Path} {f : Failure}
    (hhook : ∀ {s m₁ m₂}, Machine.report path f m = (.ok (), m₁) →
      m₁.aliasStart? onFail {} = some (s, m₂) → Run.KeepsAt R (statements fuel s) m₂) :
    Run.KeepsAt R (afterFailure fuel path f) m := by
  have := hR.toIsPreorder
  rw [afterFailure, ← bind_assoc]
  refine .bind ((hR.report path f).from m) fun _ m₁ hreport => ?_
  refine .bind (hR.of_runHook (hhook hreport)).outcome fun result m₂ _ => ?_
  cases result with
  | ok u => exact (Run.Keeps.pure _).from m₂
  | error hook => exact (hR.log ..).from m₂

/-- A request keeps what the runs keep that are started for it. -/
theorem of_request (hR : Enduring R) {request : Request}
    (hholding : ∀ {given bindings}, request = .tokens given bindings → R m (m.holding given))
    (hrun : ∀ {s m₁}, request.Starts fuel m s m₁ → Run.KeepsAt R (statements fuel s) m₁) :
    Run.KeepsAt R (request.run fuel) m := by
  have := hR.toIsPreorder
  cases request with
  | file path => exact hR.of_file fun he => hrun (.file he)
  | text content name dir =>
    intro r m' h hr
    exact hR.of_inFrame (hrun .text) h hr
  | tokens given bindings =>
    intro r m' h hr
    exact (hR.of_inFrame (hrun .tokens)).trans (hholding rfl) h hr
  | invoke name bindings => exact hR.of_invoke fun he => hrun (.invoke he)
  | script path =>
    have htrial : Run.KeepsAt R (trial fuel path) m :=
      hR.of_trial (fun he => hrun (.script he)) fun h he => hrun (.onSuccess h he)
    refine .bind htrial.outcome fun result m₁ h₁ => ?_
    have hend : ∀ m₂, Run.KeepsAt R (Machine.teardown >>= fun _ => Run.ofOutcome result) m₂ :=
      fun m₂ => .bind (hR.teardown.from m₂) fun _ m₃ _ => (Run.Keeps.ofOutcome result).from m₃
    cases result with
    | ok u => exact hend m₁
    | error f =>
      refine .bind (hR.of_afterFailure fun h he => hrun (.onFail h₁ h he)) fun _ m₂ _ => ?_
      exact hend m₂
  | close => exact hR.teardown.from m

end Enduring

namespace Durable

theorem of_quiet [IsPreorder (Machine σ) R] (hquiet : ∀ {m m'}, Quiet m m' → R m m')
    (hreading : ∀ m s, R m (m.noting (m.read s)))
    (hframe : ∀ {m m'} name dir, R (m.entering name dir) m' → R m m'.leaving)
    (hblock : ∀ {m m'}, R m m' → R m (m'.closing m.conditions.depth))
    (hrecording : ∀ m outcome, R m { m with conditions := m.conditions.record outcome })
    (hholding : ∀ m tokens, R m (m.holding tokens)) : Durable R where
  toLasting := .of_quiet hquiet hframe hblock hrecording
  reading := hreading
  holding := hholding

/-- A request keeps what all the statements keep that are carried out for it. -/
theorem of_request (hR : Durable R) {request : Request}
    (hst : ∀ {st m₁}, request.Performs fuel m st m₁ → KeptAt R st m₁) :
    Run.KeepsAt R (request.run fuel) m :=
  hR.toEnduring.of_request (fun _ => hR.holding m _) fun hs =>
    hR.of_statements fun hp => hst ⟨_, _, hs, hp⟩

end Durable

end Machine

end PageScript

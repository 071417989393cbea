/-
Running whole scripts.

A script that is run as a test is followed by one of two aliases, if it defines them: one after it
has succeeded, which may still fail it, and one after it has failed. Then a browser that it launched
is closed.
-/
import PageScript.Machine.Execute

namespace PageScript.Machine

variable {σ : Type} [World σ]

/-- The alias that is run after a script that has failed. -/
def onFail : String := "--onfail"

/-- The alias that is run after a script that has succeeded. -/
def onSuccess : String := "--onsuccess"

/-- Runs a file. -/
def runFile (fuel : Nat) (path : Path) : Run σ Unit :=
  file (statements fuel) path

/-- Runs a text as if it were a file. -/
def runText (fuel : Nat) (text name : String) (workingDir : Path) : Run σ Unit := do
  inFrame (statements fuel) name workingDir (.ofText (← get).settings.lexicon text)

/-- Runs tokens with the given arguments. -/
def runTokens (fuel : Nat) (tokens : List Token) (bindings : Bindings) : Run σ Unit := do
  let m ← get
  let (span, arena) := m.arena.alloc (tokens.filter (!·.isFinish))
  set { m with arena }
  inFrame (statements fuel) "<tokens>" m.frames.workingDir (.ofBlock ⟨span, bindings⟩)

/-- Runs an alias. -/
def runAlias (fuel : Nat) (name : String) (bindings : Bindings) : Run σ Unit :=
  invoke (statements fuel) name bindings

/-- Runs an alias if it is defined. -/
def runHook (fuel : Nat) (name : String) : Run σ Unit := do
  if (← get).aliases.contains name then runAlias fuel name {} else pure ()

/-- Reports a failure, takes a screenshot and runs the alias for failures, whose own failure is only
logged. -/
def afterFailure (fuel : Nat) (path : Path) (f : Failure) : Run σ Unit := do
  Run.log .error .engine f.diagnostic
  failureScreenshot path
  match ← (runHook fuel onFail).outcome with
  | .ok () => pure ()
  | .error hook => Run.warn (onFail ++ " hook failed: " ++ hook.diagnostic)

/-- Runs a file as a test. -/
def runScript (fuel : Nat) (path : Path) : Run σ Unit := do
  let result ← (do runFile fuel path; runHook fuel onSuccess : Run σ Unit).outcome
  match result with
  | .ok () => pure ()
  | .error f => afterFailure fuel path f
  teardown
  Run.ofOutcome result

end PageScript.Machine

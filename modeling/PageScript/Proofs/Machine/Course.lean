/-
The course of a run: the places that it comes to, and what holds all along it.

A run reads a statement, carries it out, and goes on behind it; this is one turn. A piece of script
that a statement runs, an included file, an alias or a loop's body, has turns of its own. `Visits`
relates a run to every place that it comes to in this way, at any depth, and `Performs` to every
statement that it carries out there.

What holds all along a run is proved by one induction, `Framed.of_statements`. A relation between the
machine before and after is framed if it survives the few things that runs do around their
statements: entering and leaving a frame, closing a block, noting an outcome. It is stable if it
survives reading too, at whatever place. If each statement that the run performs keeps it, except those
that only run other pieces of script, then the run as a whole does.
-/
import PageScript.Machine.Script
import PageScript.Proofs.Machine.Footprint

namespace PageScript

namespace Statement

/-- Whether carrying out a statement runs a piece of script. -/
def runsScript : Statement → Bool
  | .includeFile _ | .invoke .. | .while _ => true
  | .exec _ _ run => run
  | _ => false

/-- Whether a statement lets time pass or sets the deadline by itself. -/
def setsTime : Statement → Bool
  | .sleep _ | .wait _ | .defaultWait _ | .popWait => true
  | _ => false

/-- The statements that are about the script itself, those apart that run a piece of it. -/
theorem cases_of_not_plain {st : Statement} (hplain : st.isPlain = false)
    (hscript : st.runsScript = false) :
    st.setsTime = true ∨ st = .pushWait ∨ (∃ definition, st = .defineAlias definition) ∨
      ∃ word, st = .control word := by
  cases st with
  | pushWait => exact .inr (.inl rfl)
  | defineAlias definition => exact .inr (.inr (.inl ⟨definition, rfl⟩))
  | control word => exact .inr (.inr (.inr ⟨word, rfl⟩))
  | exec command args run =>
    have hrun : run = false := hscript
    subst hrun
    exact absurd hplain.symm Bool.false_ne_true
  | _ =>
    first
    | exact .inl rfl
    | exact absurd hscript.symm Bool.false_ne_true
    | exact absurd hplain.symm Bool.false_ne_true

end Statement

namespace Machine

variable {σ : Type}

-- ======== turns

/-- Whether a machine passes over a statement. -/
def skips (m : Machine σ) (st : Statement) : Bool :=
  m.conditions.skipping && !st.isControl

section Turns

variable [World σ] {run : Source → Run σ Unit} {limit : Nat} {s : Source} {m m' : Machine σ}
  {st : Statement}

theorem turn_of_finish (h : (m.read s).first.isFinish = true) :
    turn run limit s m = (.ok none, m) := by
  rw [turn, Run.get_bind_apply, if_pos h]
  rfl

theorem turn_of_error {f : Failure} (h : (m.read s).first.isFinish = false)
    (hp : (m.read s).parsed = .error f) :
    turn run limit s m = (.error (.failed f), m.noting (m.read s)) := by
  rw [turn, Run.get_bind_apply, if_neg (by simp [h]), Run.set_bind_apply, hp]
  rfl

theorem turn_of_ok (h : (m.read s).first.isFinish = false) (hp : (m.read s).parsed = .ok st) :
    turn run limit s m =
      match step run limit (m.read s).first st (m.noting (m.read s)) with
      | (.ok _, m') => (.ok (some (st, (m.read s).after.source)), m')
      | (.error e, m') => (.error e, m') := by
  rw [turn, Run.get_bind_apply, if_neg (by simp [h]), Run.set_bind_apply, hp, Run.ofOutcome_ok,
    pure_bind, Run.bind_apply]
  cases step run limit (m.read s).first st (m.noting (m.read s)) with
  | mk result m' => cases result <;> rfl

/-- What a turn that goes on has done. -/
theorem turn_eq_some {behind : Source} (h : turn run limit s m = (.ok (some (st, behind)), m')) :
    (m.read s).first.isFinish = false ∧ (m.read s).parsed = .ok st ∧
      behind = (m.read s).after.source ∧
      step run limit (m.read s).first st (m.noting (m.read s)) = (.ok (), m') := by
  cases hf : (m.read s).first.isFinish with
  | true => rw [turn_of_finish hf] at h; cases h
  | false =>
    cases hp : (m.read s).parsed with
    | error f => rw [turn_of_error hf hp] at h; cases h
    | ok st' =>
      rw [turn_of_ok hf hp] at h
      split at h
      · next hs => cases h; exact ⟨rfl, rfl, rfl, hs⟩
      · cases h

end Turns

-- ======== pieces

/-- The machine in a new frame. -/
def entering (m : Machine σ) (name : String) (dir : Path) : Machine σ :=
  { m with frames := m.frames.push name dir }

/-- The machine out of its innermost frame. -/
def leaving (m : Machine σ) : Machine σ :=
  { m with frames := m.frames.pop }

/-- The machine with no more conditionals open than `depth`. -/
def closing (m : Machine σ) (depth : Nat) : Machine σ :=
  { m with conditions := m.conditions.truncate depth }

/-- The machine that has logged a line of ordinary course. -/
def logging (m : Machine σ) (message : String) : Machine σ :=
  { m with journal := ⟨m.clock, .log .info .engine message⟩ :: m.journal }

/-- The machine at the start of a file that it has found. -/
def atFile (m : Machine σ) (full : Path) : Machine σ :=
  (m.logging ("Running " ++ full.text)).entering full.text (full.parent?.getD ⟨"."⟩)

/-- Where the run of a file starts: at its text, in a frame of its own. -/
def fileStart? (m : Machine σ) (path : Path) : Option (Source × Machine σ) :=
  let full := m.frames.workingDir.join path
  (m.disk.readText full).toOption.map fun text =>
    (.ofText m.settings.lexicon text, m.atFile full)

/-- Where the run of an alias starts: at its body, in a frame of its own. -/
def aliasStart? (m : Machine σ) (name : String) (bindings : Bindings) :
    Option (Source × Machine σ) :=
  match m.aliases.get? name with
  | none => none
  | some found =>
    some (.ofBlock ⟨found.body, bindings⟩, m.entering ("alias " ++ name) m.frames.workingDir)

/-- Where the run of a program's output starts, if the program ends well. -/
def outputStart? [Programs σ] (m : Machine σ) (command : String) (args : List String) :
    Option (Source × Machine σ) :=
  let ran := runProgram command args m.frames.workingDir m
  ran.1.toOption.map fun output =>
    (.ofText m.settings.lexicon output,
      ran.2.entering ("exec-include " ++ command) m.frames.workingDir)

/-- The machine after some rounds of a loop, all of which ended well. -/
inductive Rounds (run : Source → Run σ Unit) (body : Block) : Nat → Machine σ → Machine σ → Prop
  | zero (m : Machine σ) : Rounds run body 0 m m
  | succ {k : Nat} {m m₁ m₂ : Machine σ} :
      block run (.ofBlock body) m = (.ok (), m₁) → Rounds run body k m₁ m₂ →
      Rounds run body (k + 1) m m₂

/-- Carrying out a statement starts a run of a piece of script, in the machine that is then given. -/
inductive Enters [Programs σ] (run : Source → Run σ Unit) (limit : Nat) :
    Statement → Machine σ → Source → Machine σ → Prop
  | includeFile {file : String} {m m₁ : Machine σ} {s : Source} :
      m.fileStart? ⟨file⟩ = some (s, m₁) → Enters run limit (.includeFile file) m s m₁
  | invoke {name : String} {bindings : Bindings} {m m₁ : Machine σ} {s : Source} :
      m.aliasStart? name bindings = some (s, m₁) → Enters run limit (.invoke name bindings) m s m₁
  | exec {command : String} {args : List String} {m m₁ : Machine σ} {s : Source} :
      m.outputStart? command args = some (s, m₁) → Enters run limit (.exec command args true) m s m₁
  | while {body : Block} {k : Nat} {m m₁ : Machine σ} :
      body.span.isEmpty = false → k < limit → Rounds run body k m m₁ →
      Enters run limit (.while body) m (.ofBlock body) m₁

section Pieces

variable {run : Source → Run σ Unit} {s : Source} {m m' : Machine σ} {r : Except Halt Unit}

theorem fileStart?_of_ok {path : Path} {text : String}
    (h : m.disk.readText (m.frames.workingDir.join path) = .ok text) :
    m.fileStart? path =
      some (.ofText m.settings.lexicon text, m.atFile (m.frames.workingDir.join path)) := by
  simp only [fileStart?, h, Except.toOption, Option.map_some]

theorem aliasStart?_of_some {name : String} {bindings : Bindings} {found : Alias}
    (h : m.aliases.get? name = some found) :
    m.aliasStart? name bindings =
      some (.ofBlock ⟨found.body, bindings⟩,
        m.entering ("alias " ++ name) m.frames.workingDir) := by
  simp only [aliasStart?, h]

theorem outputStart?_of_ok [Programs σ] {command output : String} {args : List String}
    {m₁ : Machine σ}
    (h : runProgram command args m.frames.workingDir m = (.ok output, m₁)) :
    m.outputStart? command args =
      some (.ofText m.settings.lexicon output,
        m₁.entering ("exec-include " ++ command) m.frames.workingDir) := by
  simp only [outputStart?, h, Except.toOption, Option.map_some]

/-- Running a file that is there. -/
theorem file_of_ok {path : Path} {text : String}
    (h : m.disk.readText (m.frames.workingDir.join path) = .ok text) :
    file run path m =
      inFrame run (m.frames.workingDir.join path).text
        ((m.frames.workingDir.join path).parent?.getD ⟨"."⟩) (.ofText m.settings.lexicon text)
        (m.logging ("Running " ++ (m.frames.workingDir.join path).text)) := by
  rw [file, Run.get_bind_apply]
  simp only [h]
  exact Run.bind_ok rfl

/-- A block ends as its statements do, and closes the conditionals that were opened in it. -/
theorem block_cases (h : block run s m = (r, m')) (hr : Halt.Ended r) :
    ∃ r₁ m₁, run s m = (r₁, m₁) ∧ Halt.Ended r₁ ∧ m' = m₁.closing m.conditions.depth := by
  rw [block, Run.get_bind_apply] at h
  obtain ⟨result, m₁, hrun, h⟩ := Run.outcome_bind_cases h hr
  refine ⟨_, m₁, hrun, Halt.ended_failed result, ?_⟩
  rw [Run.modifyGet_bind_apply] at h
  cases result with
  | error f =>
    cases h
    rfl
  | ok _ =>
    rw [Run.ofOutcome_ok, pure_bind] at h
    split at h <;> (cases h; rfl)

/-- A piece of script in a frame ends as its block does, and the frame is closed again. -/
theorem inFrame_cases {name : String} {dir : Path} (h : inFrame run name dir s m = (r, m'))
    (hr : Halt.Ended r) :
    ∃ r₁ m₁, block run s (m.entering name dir) = (r₁, m₁) ∧ Halt.Ended r₁ ∧ m' = m₁.leaving := by
  rw [inFrame, Run.modify_bind_apply] at h
  change ((block run s).outcome >>= _) (m.entering name dir) = _ at h
  obtain ⟨result, m₁, hblock, h⟩ := Run.outcome_bind_cases h hr
  refine ⟨_, m₁, hblock, Halt.ended_failed result, ?_⟩
  rw [Run.modifyGet_bind_apply] at h
  cases result <;> (cases h; rfl)

end Pieces

-- ======== visits

/-- At a place, a machine carries out a statement; it is `m₁` when it does. -/
structure Meets (m : Machine σ) (s : Source) (st : Statement) (m₁ : Machine σ) : Prop where
  more : (m.read s).first.isFinish = false
  parsed : (m.read s).parsed = .ok st
  noted : m₁ = m.noting (m.read s)
  carried : m₁.skips st = false

/-- The run of `s` from `m` with some fuel comes to another place, with a machine and what is left
of the fuel: behind the statements that it has carried out, or in a piece of script that one of them
runs. -/
inductive Visits [World σ] : Nat → Source → Machine σ → Nat → Source → Machine σ → Prop
  | refl (n : Nat) (s : Source) (m : Machine σ) : Visits n s m n s m
  | later {n k : Nat} {s s₁ s' : Source} {m m₁ m' : Machine σ} {st : Statement} :
      turn (statements n) n s m = (.ok (some (st, s₁)), m₁) → Visits n s₁ m₁ k s' m' →
      Visits (n + 1) s m k s' m'
  | inside {n k : Nat} {s s₁ s' : Source} {m m₁ m₂ m' : Machine σ} {st : Statement} :
      Meets m s st m₁ → Enters (statements n) n st m₁ s₁ m₂ → Visits n s₁ m₂ k s' m' →
      Visits (n + 1) s m k s' m'

/-- The run of `s` from `m` carries out a statement, in the machine that is then given. -/
def Performs [World σ] (n : Nat) (s : Source) (m : Machine σ) (st : Statement)
    (m₁ : Machine σ) : Prop :=
  ∃ k s' m', Visits n s m (k + 1) s' m' ∧ Meets m' s' st m₁

section Performs

variable [World σ] {n : Nat} {s s₁ : Source} {m m₁ m₂ m' : Machine σ} {st st' : Statement}

theorem Performs.here (h : Meets m s st m₁) : Performs (n + 1) s m st m₁ :=
  ⟨n, s, m, .refl .., h⟩

theorem Performs.later (h : turn (statements n) n s m = (.ok (some (st, s₁)), m₁))
    (hp : Performs n s₁ m₁ st' m') : Performs (n + 1) s m st' m' := by
  obtain ⟨k, s₂, m₂, hv, hm⟩ := hp
  exact ⟨k, s₂, m₂, .later h hv, hm⟩

theorem Performs.inside (h : Meets m s st m₁) (he : Enters (statements n) n st m₁ s₁ m₂)
    (hp : Performs n s₁ m₂ st' m') : Performs (n + 1) s m st' m' := by
  obtain ⟨k, s₂, m₃, hv, hm⟩ := hp
  exact ⟨k, s₂, m₃, .inside h he hv, hm⟩

/-- A run that stops in its first turn, at a statement that runs no script, performs nothing else. -/
theorem Performs.eq_of_stops (hp : Performs (n + 1) s m st' m') (hread : (m.read s).parsed = .ok st)
    (hscript : st.runsScript = false) {e : Halt} {m₁ : Machine σ}
    (hturn : turn (statements n) n s m = (.error e, m₁)) : st' = st := by
  obtain ⟨k, s₂, m₂, hv, hm⟩ := hp
  cases hv with
  | refl => exact Except.ok.inj (hm.parsed.symm.trans hread)
  | later h _ =>
    rw [hturn] at h
    cases h
  | inside hmeets henters _ =>
    have hsame := Except.ok.inj (hmeets.parsed.symm.trans hread)
    subst hsame
    cases henters <;> cases hscript

/-- What is visited from a visited place is visited. -/
theorem Visits.trans {k j : Nat} {s₂ : Source} (h : Visits n s m k s₁ m₁)
    (h' : Visits k s₁ m₁ j s₂ m₂) : Visits n s m j s₂ m₂ := by
  induction h with
  | refl => exact h'
  | later ht _ ih => exact .later ht (ih h')
  | inside hm he _ ih => exact .inside hm he (ih h')

end Performs

-- ======== stable relations

/-- A relation between machines that survives what runs do around their statements, reading apart. -/
structure Framed [World σ] (R : Machine σ → Machine σ → Prop) : Prop
    extends IsPreorder (Machine σ) R where
  frame : ∀ {m m'} name dir, R (m.entering name dir) m' → R m m'.leaving
  block : ∀ {m m'}, R m m' → R m (m'.closing m.conditions.depth)
  recording : ∀ m outcome, R m { m with conditions := m.conditions.record outcome }
  loopEnd : ∀ m, R m { m with negateNext := false }
  log : ∀ level target message, Run.Keeps R (Run.log level target message)
  drain : Run.Keeps R drainConsole
  program : ∀ command args dir, Run.Keeps R (runProgram command args dir)

/-- A relation between machines that survives what runs do around their statements, wherever these are
read. -/
structure Stable [World σ] (R : Machine σ → Machine σ → Prop) : Prop extends Framed R where
  reading : ∀ m s, R m (m.noting (m.read s))

/-- A statement, unless it runs a piece of script, keeps a relation where it is carried out. -/
def KeptAt [World σ] (R : Machine σ → Machine σ → Prop) (st : Statement) (m : Machine σ) : Prop :=
  st.runsScript = false →
    ∀ (run : Source → Run σ Unit) (limit : Nat), Run.KeepsAt R (execute run limit st) m

section Scripts

variable [World σ] {run : Source → Run σ Unit} {limit : Nat}

/-- Carrying out `exec-include`: the program runs, and then its output. -/
theorem execute_exec_apply (command : String) (args : List String) (m : Machine σ) :
    execute run limit (.exec command args true) m =
      (runProgram command args m.frames.workingDir >>= fun output =>
        inFrame run ("exec-include " ++ command) m.frames.workingDir
          (.ofText m.settings.lexicon output)) m := by
  simp only [execute, Run.get_bind_apply, if_true]

theorem execute_while (body : Block) :
    execute run limit (.while body) =
      if body.span.isEmpty then pure () else loop run body limit := by
  simp only [execute]

end Scripts

namespace Framed

variable [World σ] {R : Machine σ → Machine σ → Prop} {run : Source → Run σ Unit} {limit : Nat}
  {s : Source} {m : Machine σ} {st : Statement}

/-- What the statements of a block keep, the block keeps. -/
theorem of_block (hR : Framed R) (hrun : Run.KeepsAt R (run s) m) :
    Run.KeepsAt R (Machine.block run s) m := by
  intro r m' h hr
  obtain ⟨r₁, m₁, h₁, hr₁, rfl⟩ := block_cases h hr
  exact hR.block (hrun h₁ hr₁)

/-- What the statements of a piece keep, the piece keeps in a frame of its own. -/
theorem of_inFrame (hR : Framed R) {name : String} {dir : Path}
    (hrun : Run.KeepsAt R (run s) (m.entering name dir)) :
    Run.KeepsAt R (inFrame run name dir s) m := by
  intro r m' h hr
  obtain ⟨r₁, m₁, h₁, hr₁, rfl⟩ := inFrame_cases h hr
  exact hR.frame name dir (hR.of_block hrun h₁ hr₁)

theorem of_file (hR : Framed R) {path : Path}
    (hrun : ∀ {s m₁}, m.fileStart? path = some (s, m₁) → Run.KeepsAt R (run s) m₁) :
    Run.KeepsAt R (file run path) m := by
  have := hR.toIsPreorder
  intro r m' h hr
  cases htext : m.disk.readText (m.frames.workingDir.join path) with
  | error e =>
    rw [file, Run.get_bind_apply] at h
    simp only [htext] at h
    cases h
    exact refl_of R m
  | ok text =>
    rw [file_of_ok htext] at h
    have logged : R m (m.logging ("Running " ++ (m.frames.workingDir.join path).text)) :=
      hR.log .info .engine _ rfl nofun
    exact (hR.of_inFrame (hrun (fileStart?_of_ok htext))).trans logged h hr

theorem of_invoke (hR : Framed R) {name : String} {bindings : Bindings}
    (hrun : ∀ {s m₁}, m.aliasStart? name bindings = some (s, m₁) → Run.KeepsAt R (run s) m₁) :
    Run.KeepsAt R (invoke run name bindings) m := by
  have := hR.toIsPreorder
  intro r m' h hr
  rw [invoke, Run.get_bind_apply] at h
  cases hfound : m.aliases.get? name with
  | none =>
    rw [hfound] at h
    cases h
    exact refl_of R m
  | some found =>
    rw [hfound] at h
    exact hR.of_inFrame (hrun (aliasStart?_of_some hfound)) h hr

theorem of_loop (hR : Framed R) {body : Block}
    (hrun : ∀ {k m₁}, k < limit → Rounds run body k m m₁ →
      Run.KeepsAt R (run (.ofBlock body)) m₁) : Run.KeepsAt R (loop run body limit) m := by
  have := hR.toIsPreorder
  induction limit generalizing m with
  | zero => exact .of_unfinished rfl
  | succ limit ih =>
    have round := hR.of_block (hrun (Nat.succ_pos limit) (.zero m))
    refine .bind round.outcome fun result m₁ hround => ?_
    cases result with
    | ok u =>
      have hblock : Machine.block run (.ofBlock body) m = (.ok (), m₁) := Run.eq_of_outcome_ok hround
      exact ih fun hk hrounds => hrun (Nat.succ_lt_succ hk) (.succ hblock hrounds)
    | error f =>
      -- the round failed: the loop is over, or it fails too
      dsimp only
      split
      · exact .of_eq rfl (hR.loopEnd m₁)
      · exact .of_eq rfl (refl_of R m₁)

/-- What a statement keeps by itself, or what the pieces of script keep that it runs. -/
theorem of_execute (hR : Framed R) (hst : KeptAt R st m)
    (hrun : ∀ {s m₁}, Enters run limit st m s m₁ → Run.KeepsAt R (run s) m₁) :
    Run.KeepsAt R (execute run limit st) m := by
  have := hR.toIsPreorder
  cases hs : st.runsScript with
  | false => exact hst hs run limit
  | true =>
    cases st with
    | includeFile file => exact hR.of_file fun he => hrun (.includeFile he)
    | invoke name bindings => exact hR.of_invoke fun he => hrun (.invoke he)
    | exec command args again =>
      have : again = true := hs
      subst this
      intro r m' h hr
      rw [execute_exec_apply] at h
      refine Run.KeepsAt.bind ((hR.program ..).from m) (fun output m₁ hprog => ?_) h hr
      exact hR.of_inFrame (hrun (.exec (outputStart?_of_ok hprog)))
    | «while» body =>
      rw [execute_while]
      split
      · exact .of_eq rfl (refl_of R m)
      · next hempty =>
        exact hR.of_loop fun hk hrounds => hrun (.while (by simpa using hempty) hk hrounds)
    | _ => cases hs

/-- Noting how a predicate came out, or stopping at a failure, keeps what a note keeps. -/
theorem settle_keeps (hR : Framed R) (first : Token) (capturing : Bool)
    (result : Except Failure Unit) : Run.Keeps R (settle first capturing result) := by
  have := hR.toIsPreorder
  unfold settle
  split
  · split
    · exact .modify fun m => hR.recording m _
    · exact .pure _
  · split
    · exact .modify fun m => hR.recording m _
    · exact .throw _

/-- A step keeps what the statement in it keeps. -/
theorem of_step (hR : Framed R) (first : Token)
    (hst : m.skips st = false → Run.KeepsAt R (execute run limit st) m) :
    Run.KeepsAt R (step run limit first st) m := by
  have := hR.toIsPreorder
  intro r m' h hr
  rw [step, Run.get_bind_apply] at h
  split at h
  · cases h
    exact refl_of R m
  · next hskip =>
    refine Run.KeepsAt.bind (hst (by simpa [skips] using hskip)).outcome (fun result m₁ _ => ?_) h hr
    refine .bind ((hR.settle_keeps ..).from m₁) fun _ m₂ _ => ?_
    refine .bind (Run.Keeps.get.from m₂) fun m m₃ _ => ?_
    split
    · exact hR.drain.from m₃
    · exact (Run.Keeps.pure _).from m₃

/-- The rounds of a loop that have ended well keep what the body keeps in each of them. -/
theorem of_rounds (hR : Framed R) {body : Block} {k : Nat} {m₁ : Machine σ}
    (hrounds : Rounds run body k m m₁)
    (hrun : ∀ {j m₂}, j < k → Rounds run body j m m₂ → Run.KeepsAt R (run (.ofBlock body)) m₂) :
    R m m₁ := by
  have := hR.toIsPreorder
  induction hrounds with
  | zero m => exact refl_of R m
  | succ hblock _ ih =>
    have hround := hR.of_block (hrun (Nat.succ_pos _) (.zero _)) hblock nofun
    exact trans_of R hround (ih fun hj h => hrun (Nat.succ_lt_succ hj) (.succ hblock h))

/-- A relation that also survives entering a frame holds where a piece of script is entered. -/
theorem of_enters (hR : Framed R) (hframe : ∀ m name dir, R m (m.entering name dir)) {m₁ : Machine σ}
    (hrun : ∀ {s m₁}, Enters run limit st m s m₁ → Run.KeepsAt R (run s) m₁)
    (he : Enters run limit st m s m₁) : R m m₁ := by
  have := hR.toIsPreorder
  cases he with
  | includeFile hstart =>
    obtain ⟨text, -, hentry⟩ := Option.map_eq_some_iff.1 hstart
    cases hentry
    exact trans_of R (hR.log .info .engine _ rfl nofun) (hframe ..)
  | invoke hstart =>
    unfold aliasStart? at hstart
    split at hstart
    · cases hstart
    · cases hstart
      exact hframe ..
  | @exec command args _ _ _ hstart =>
    obtain ⟨output, hout, hentry⟩ := Option.map_eq_some_iff.1 hstart
    cases hentry
    rcases hprog : runProgram command args m.frames.workingDir m with ⟨e | out, m₂⟩
    · rw [hprog] at hout
      cases hout
    · exact trans_of R (hR.program _ _ _ hprog nofun) (hframe ..)
  | «while» hempty hk hrounds =>
    exact hR.of_rounds hrounds fun hj h => hrun (.while hempty (Nat.lt_trans hj hk) h)

/-- What is done in a turn after a statement has been read: a step with it, if it could be read. -/
theorem of_turn_noting (hR : Framed R)
    (hst : ∀ {st m₁}, Meets m s st m₁ → Run.KeepsAt R (execute run limit st) m₁)
    {r : Except Halt (Option (Statement × Source))} {m' : Machine σ}
    (hmore : (m.read s).first.isFinish = false) (h : turn run limit s m = (r, m'))
    (hr : Halt.Ended r) : R (m.noting (m.read s)) m' := by
  have := hR.toIsPreorder
  rw [turn, Run.get_bind_apply, if_neg (by simp [hmore]), Run.set_bind_apply] at h
  cases hp : (m.read s).parsed with
  | error f =>
    rw [hp] at h
    cases h
    exact refl_of R _
  | ok st =>
    rw [hp, Run.ofOutcome_ok, pure_bind] at h
    have hstep := hR.of_step (m.read s).first fun hskip => hst ⟨hmore, hp, rfl, hskip⟩
    exact (hstep.bind fun _ m₁ _ => (Run.Keeps.pure _).from m₁) h hr

/-- One turn: reading, and a step with the statement read. -/
theorem of_turn (hR : Framed R) (hread : R m (m.noting (m.read s)))
    (hst : ∀ {st m₁}, Meets m s st m₁ → Run.KeepsAt R (execute run limit st) m₁) :
    Run.KeepsAt R (turn run limit s) m := by
  have := hR.toIsPreorder
  cases hmore : (m.read s).first.isFinish with
  | true => exact .of_eq (turn_of_finish hmore) (refl_of R m)
  | false => exact fun _ _ h hr => trans_of R hread (hR.of_turn_noting hst hmore h hr)

/-- A run keeps what all the statements keep that it performs, if what is read on the way is kept too.
The induction is on the fuel, which bounds both the statements and the depth of pieces in pieces. -/
theorem of_statements (hR : Framed R) {n : Nat}
    (hread : ∀ {k s' m'}, Visits n s m k s' m' → R m' (m'.noting (m'.read s')))
    (hst : ∀ {st m₁}, Performs n s m st m₁ → KeptAt R st m₁) :
    Run.KeepsAt R (statements n s) m := by
  have := hR.toIsPreorder
  induction n generalizing s m with
  | zero => exact .of_unfinished rfl
  | succ n ih =>
    have hturn : Run.KeepsAt R (turn (statements n) n s) m :=
      hR.of_turn (hread (.refl ..)) fun hm => hR.of_execute (hst (.here hm)) fun he =>
        ih (fun hv => hread (.inside hm he hv)) fun hp => hst (.inside hm he hp)
    refine .bind hturn fun next m₁ ht => ?_
    split
    · exact (Run.Keeps.pure _).from m₁
    · exact ih (fun hv => hread (.later ht hv)) fun hp => hst (.later ht hp)

end Framed

namespace Stable

variable [World σ] {R : Machine σ → Machine σ → Prop} {run : Source → Run σ Unit} {limit : Nat}
  {s : Source} {m : Machine σ} {st : Statement}

theorem of_turn (hR : Stable R)
    (hst : ∀ {st m₁}, Meets m s st m₁ → Run.KeepsAt R (execute run limit st) m₁) :
    Run.KeepsAt R (turn run limit s) m :=
  hR.toFramed.of_turn (hR.reading m s) hst

/-- A run keeps what all the statements keep that it performs. -/
theorem of_statements (hR : Stable R) {n : Nat}
    (hst : ∀ {st m₁}, Performs n s m st m₁ → KeptAt R st m₁) :
    Run.KeepsAt R (statements n s) m :=
  hR.toFramed.of_statements (fun _ => hR.reading _ _) hst

/-- Such a relation holds between the start of a run and every place that it comes to. -/
theorem of_visits (hR : Stable R) (hframe : ∀ m name dir, R m (m.entering name dir))
    {n k : Nat} {s' : Source} {m' : Machine σ} (hv : Visits n s m k s' m')
    (hst : ∀ {st m₁}, Performs n s m st m₁ → KeptAt R st m₁) : R m m' := by
  have := hR.toIsPreorder
  induction hv with
  | refl => exact refl_of R _
  | later hturn _ ih =>
    refine trans_of R ?_ (ih fun hp => hst (.later hturn hp))
    refine hR.of_turn (fun hm => ?_) hturn nofun
    exact hR.of_execute (hst (.here hm)) fun he => hR.of_statements fun hp => hst (.inside hm he hp)
  | inside hm he _ ih =>
    have hentered := hR.of_enters hframe
      (fun he => hR.of_statements fun hp => hst (.inside hm he hp)) he
    refine trans_of R ?_ (trans_of R hentered (ih fun hp => hst (.inside hm he hp)))
    rw [hm.noted]
    exact hR.reading ..

end Stable

end Machine

-- ======== offline

/-- A world with nothing in it: every call fails, and there are no programs. -/
structure Offline

namespace Offline

instance : World Offline where
  answer _ state disk := (.error (.noSuchElement "the page"), state, disk)
  start _ _ _ _ _ := .error .notFound

/-- A machine at its start, over an empty disk, with so much time for its checks. -/
def machine (deadline : Nat) : Machine Offline where
  settings := {}
  browser := {}
  disk := default
  budget := { deadline }
  options := default
  screenshotDir := none

end Offline

end PageScript

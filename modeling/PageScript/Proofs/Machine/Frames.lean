/-
Frames and conditionals are given back.

A piece of script gets a frame of its own, which is closed again however the piece ends. So a
statement leaves the frames that it finds, whatever it runs and however it comes out: only the line
of the innermost may have moved on, in a loop, whose body runs in the frame of the loop itself. A
request from outside leaves the frames as they were to the line, and no more conditionals open than
before. On a machine that was new once there are none of either between requests, so that no piece of
script is skipped or taken for a predicate because of one that was run earlier.
-/
import PageScript.Proofs.Machine.Conditional
import PageScript.Proofs.Machine.Request

namespace PageScript

-- ======== frames

namespace FrameStack

/-- The same frames, except that the innermost may have come to another line. -/
def Moved (s s' : FrameStack) : Prop :=
  ∃ line, s' = s.setLine line

theorem setLine_setLine (s : FrameStack) (a b : Nat) : (s.setLine a).setLine b = s.setLine b := by
  rcases s with ⟨_ | ⟨top, rest⟩⟩ <;> rfl

theorem Moved.refl (s : FrameStack) : Moved s s := by
  rcases s with ⟨_ | ⟨top, rest⟩⟩
  · exact ⟨0, rfl⟩
  · exact ⟨top.line, rfl⟩

theorem Moved.trans {s₁ s₂ s₃ : FrameStack} (h : Moved s₁ s₂) (h' : Moved s₂ s₃) : Moved s₁ s₃ := by
  obtain ⟨a, rfl⟩ := h
  obtain ⟨b, rfl⟩ := h'
  exact ⟨b, s₁.setLine_setLine a b⟩

/-- Behind a frame that is closed, those below it stand as they stood when it was opened. -/
theorem Moved.pop {s s' : FrameStack} {name : String} {dir : Path}
    (h : Moved (s.push name dir) s') : s'.pop = s := by
  obtain ⟨line, rfl⟩ := h
  rfl

end FrameStack

namespace Machine

variable {σ : Type} {m m' : Machine σ}

-- ======== statements

/-- The frames are those that were open, the line of the innermost apart. -/
def KeepsFrames (m m' : Machine σ) : Prop :=
  m.frames.Moved m'.frames

namespace KeepsFrames

theorem of_same (h : m'.frames = m.frames) : KeepsFrames m m' := by
  rw [KeepsFrames, h]
  exact .refl _

instance : IsPreorder (Machine σ) KeepsFrames where
  refl m := .refl m.frames
  trans _ _ _ := .trans

variable [World σ]

theorem durable : Durable (σ := σ) KeepsFrames :=
  .of_quiet (fun h => of_same h.frames) (fun m s => ⟨(m.read s).first.line, rfl⟩)
    (fun _ _ h => of_same h.pop) (fun h => h) (fun _ _ => of_same rfl) fun _ _ => of_same rfl

theorem keptAt (st : Statement) (m : Machine σ) : KeptAt KeepsFrames st m := by
  intro hscript run limit r m' hrun hended
  rcases execute_cases hscript hrun hended with
    h | ⟨-, _, _, _, rfl⟩ | ⟨-, rfl⟩ | ⟨_, -, rfl⟩ | ⟨_, _, -, -, rfl⟩
  · exact of_same h.frames
  all_goals exact of_same rfl

/-- The statements of a source keep the frames, at whatever depth they run pieces of script. -/
theorem statements (n : Nat) (s : Source) : Run.Keeps (σ := σ) KeepsFrames (statements n s) :=
  fun _ => durable.of_statements fun _ => keptAt _ _

/-- So does every statement by itself. -/
theorem execute (n limit : Nat) (st : Statement) :
    Run.Keeps (σ := σ) KeepsFrames (execute (Machine.statements n) limit st) :=
  fun m => durable.of_execute (keptAt st m) fun _ => (statements n _).from _

end KeepsFrames

-- ======== requests

/-- The frames are those that were open, and no more conditionals are open than were. -/
structure Restored (m m' : Machine σ) : Prop where
  frames : m'.frames = m.frames
  depth_le : m'.conditions.depth ≤ m.conditions.depth

namespace Restored

instance : IsPreorder (Machine σ) Restored where
  refl _ := ⟨rfl, Nat.le_refl _⟩
  trans _ _ _ h₁ h₂ := ⟨h₂.frames.trans h₁.frames, Nat.le_trans h₂.depth_le h₁.depth_le⟩

theorem of_discreet [World σ] (h : Discreet m m') : Restored m m' :=
  ⟨h.frames, Nat.le_of_eq (congrArg _ h.conditions)⟩

/-- Where no conditional was open, none is. -/
theorem conditions_eq (h : Restored m m') (hm : m.conditions = {}) : m'.conditions = {} := by
  have hdepth := h.depth_le
  rw [hm] at hdepth
  exact congrArg ConditionStack.mk (List.eq_nil_of_length_eq_zero (Nat.le_zero.1 hdepth))

variable [World σ] {fuel : Nat}

/-- A piece of script in a frame of its own gives back the frames, and closes what it has opened. -/
theorem inFrame (name : String) (dir : Path) (s : Source) :
    Run.Keeps (σ := σ) Restored (inFrame (statements fuel) name dir s) := by
  intro m r m' h hr
  obtain ⟨r₁, m₁, hblock, hr₁, rfl⟩ := inFrame_cases h hr
  obtain ⟨r₂, m₂, hrun, hr₂, rfl⟩ := block_cases hblock hr₁
  have hframes : KeepsFrames (m.entering name dir) m₂ := KeepsFrames.statements fuel s hrun hr₂
  exact ⟨hframes.pop, m₂.conditions.depth_truncate_le m.conditions.depth⟩

theorem runFile (path : Path) : Run.Keeps (σ := σ) Restored (runFile fuel path) := by
  refine .bind .get fun m => ?_
  dsimp only
  split
  · exact .fail _
  · exact .bind ((discreet.log ..).mono of_discreet) fun _ => inFrame ..

theorem runAlias (name : String) (bindings : Bindings) :
    Run.Keeps (σ := σ) Restored (runAlias fuel name bindings) := by
  refine .bind .get fun m => ?_
  split
  · exact .fail _
  · exact inFrame ..

theorem runHook (name : String) : Run.Keeps (σ := σ) Restored (runHook fuel name) := by
  refine .bind .get fun m => ?_
  split
  · exact runAlias ..
  · exact .pure _

theorem trial (path : Path) : Run.Keeps (σ := σ) Restored (trial fuel path) :=
  .bind (runFile path) fun _ => runHook _

theorem report (path : Path) (f : Failure) : Run.Keeps (σ := σ) Restored (report path f) :=
  (discreet.report path f).mono of_discreet

theorem afterFailure (path : Path) (f : Failure) :
    Run.Keeps (σ := σ) Restored (afterFailure fuel path f) := by
  rw [Machine.afterFailure, ← bind_assoc]
  refine .bind (report path f) fun _ => .bind (runHook _).outcome fun result => ?_
  cases result with
  | ok u => exact .pure _
  | error hook => exact (discreet.log ..).mono of_discreet

/-- Whatever is requested, and however it ends, frames and conditionals are given back. -/
theorem request (request : Request) : Run.Keeps (σ := σ) Restored (request.run fuel) := by
  cases request with
  | file path => exact runFile path
  | text content name dir => exact .bind .get fun _ => inFrame ..
  | tokens given bindings =>
    intro m r m' h hr
    have hrun : Run.KeepsAt (σ := σ) Restored (Machine.inFrame (statements fuel) "<tokens>"
        m.frames.workingDir (m.tokensStart given bindings).1) (m.holding given) :=
      (inFrame ..).from _
    exact hrun.trans ⟨rfl, Nat.le_refl _⟩ h hr
  | invoke name bindings => exact runAlias name bindings
  | script path =>
    refine .bind (trial path).outcome fun result => ?_
    have hend : Run.Keeps (σ := σ) Restored (teardown >>= fun _ => Run.ofOutcome result) :=
      .bind (teardown_discreet.mono of_discreet) fun _ => .ofOutcome result
    cases result with
    | ok u => exact hend
    | error f => exact .bind (afterFailure path f) fun _ => hend
  | close => exact teardown_discreet.mono of_discreet

/-- Every piece of script that is started for a request starts in one frame more, and with no more
conditionals open than there were when the request was made. -/
theorem of_starts {request : Request} {s : Source} (h : request.Starts fuel m s m') :
    ∃ m₁ name dir, Restored m m₁ ∧ m' = m₁.entering name dir := by
  have haliasStart : ∀ {m₁ : Machine σ} {name bindings}, Restored m m₁ →
      m₁.aliasStart? name bindings = some (s, m') →
      ∃ m₁ name dir, Restored m m₁ ∧ m' = m₁.entering name dir := by
    intro m₁ name bindings hm₁ hstart
    unfold aliasStart? at hstart
    split at hstart
    · cases hstart
    · cases hstart
      exact ⟨m₁, _, _, hm₁, rfl⟩
  have hfileStart : ∀ {path}, m.fileStart? path = some (s, m') →
      ∃ m₁ name dir, Restored m m₁ ∧ m' = m₁.entering name dir := by
    intro path hstart
    obtain ⟨text, -, hentry⟩ := Option.map_eq_some_iff.1 hstart
    cases hentry
    exact ⟨m.logging _, _, _, ⟨rfl, Nat.le_refl _⟩, rfl⟩
  cases h with
  | file hstart => exact hfileStart hstart
  | text => exact ⟨m, _, _, refl_of Restored m, rfl⟩
  | @tokens given bindings => exact ⟨m.holding given, _, _, ⟨rfl, Nat.le_refl _⟩, rfl⟩
  | invoke hstart => exact haliasStart (refl_of Restored m) hstart
  | script hstart => exact hfileStart hstart
  | onSuccess hfile hstart => exact haliasStart (runFile _ hfile nofun) hstart
  | onFail htrial hreport hstart =>
    have hfailed := (trial _).outcome htrial nofun
    exact haliasStart (trans_of Restored hfailed (report _ _ hreport nofun)) hstart

end Restored

-- ======== sequences

/-- What a machine has become after requests, one after the other, each of which has ended. -/
inductive Served [World σ] : Machine σ → Machine σ → Prop
  | refl (m : Machine σ) : Served m m
  | next {fuel : Nat} {request : Request} {r : Except Halt Unit} {m m₁ m₂ : Machine σ} :
      Served m m₁ → request.run fuel m₁ = (r, m₂) → Halt.Ended r → Served m m₂

namespace Served

variable [World σ] {settings : Settings} {browser : σ} {disk : Disk}

theorem restored (h : Served m m') : Restored m m' := by
  induction h with
  | refl m => exact refl_of Restored m
  | next _ hrun hended ih => exact trans_of Restored ih (.request _ hrun hended)

/-- Between the requests on a machine that was new once, no frame is open. -/
theorem frames_eq (h : Served (new settings browser disk) m) : m.frames = {} :=
  h.restored.frames

/-- Nor is any conditional. -/
theorem conditions_eq (h : Served (new settings browser disk) m) : m.conditions = {} :=
  h.restored.conditions_eq rfl

end Served

/-- Frames and conditionals are given back at every end, good or bad. A statement, at whatever depth it
runs pieces of script, leaves the frames that it found, the line of the innermost apart. After any
requests on a new machine no frame and no conditional is open, and each piece of script that is then
started, a test's own or the alias behind it, is alone in its frame, not skipped, and no predicate. -/
theorem stacks_restored [World σ] :
    (∀ (fuel limit : Nat) (st : Statement) (m m' : Machine σ) (r : Except Halt Unit),
      execute (statements fuel) limit st m = (r, m') → Halt.Ended r →
        ∃ line, m'.frames = m.frames.setLine line) ∧
    ∀ (settings : Settings) (browser : σ) (disk : Disk) (m : Machine σ),
      Served (new settings browser disk) m →
        m.frames.frames = [] ∧ m.conditions.depth = 0 ∧
        ∀ (fuel : Nat) (request : Request) (s : Source) (m₁ : Machine σ),
          request.Starts fuel m s m₁ →
            m₁.frames.depth = 1 ∧ m₁.conditions.skipping = false ∧
              m₁.conditions.capturing = false := by
  refine ⟨fun fuel limit st m m' r hrun hended => KeepsFrames.execute fuel limit st hrun hended, ?_⟩
  intro settings browser disk m hserved
  refine ⟨congrArg _ hserved.frames_eq, congrArg _ hserved.conditions_eq, ?_⟩
  intro fuel request s m₁ hstarts
  obtain ⟨m₂, name, dir, hrestored, rfl⟩ := Restored.of_starts hstarts
  have hframes : m₂.frames = {} := hrestored.frames.trans hserved.frames_eq
  have hconditions : m₂.conditions = {} := hrestored.conditions_eq hserved.conditions_eq
  simp only [entering, hframes, hconditions]
  exact ⟨rfl, rfl, rfl⟩

/-- A machine on line 3 of a file, with a click on line 7 captured for a loop. -/
def looping : Machine Offline :=
  { Offline.machine 0 with
    arena := (Arena.alloc {} [.word "click" 7]).2
    frames := ⟨[{ workingDir := ⟨"."⟩, name := "test.ui", callerLine := none, line := 3 }]⟩ }

/-- A loop that is ended by the failure in its body leaves the frame on the line of that failure; and
an `if` without `endif` fails, but is not open any more afterwards. -/
theorem stacks_restored_loop_and_if :
    (∃ r m', execute (statements 1) 1 (.while ⟨⟨0, 1⟩, {}⟩) looping = (r, m') ∧ Halt.Ended r ∧
      m'.frames ≠ looping.frames ∧ ∃ line, m'.frames = looping.frames.setLine line) ∧
    ∃ r m', (Request.tokens [.word "if" 1] {}).run 2 (new {} ⟨⟩ default : Machine Offline) = (r, m') ∧
      Halt.Ended r ∧ m'.frames.frames = [] ∧ m'.conditions.depth = 0 := by
  constructor
  · have hended : Halt.Ended (execute (statements 1) 1 (.while ⟨⟨0, 1⟩, {}⟩) looping).1 := by
      decide +kernel
    have hmoved : (execute (statements 1) 1 (.while ⟨⟨0, 1⟩, {}⟩) looping).2.frames ≠
        looping.frames := by decide +kernel
    obtain ⟨r, m', hrun⟩ :
      ∃ r m', execute (statements 1) 1 (.while ⟨⟨0, 1⟩, {}⟩) looping = (r, m') := ⟨_, _, rfl⟩
    rw [hrun] at hended hmoved
    exact ⟨r, m', hrun, hended, hmoved, stacks_restored.1 1 1 _ _ _ _ hrun hended⟩
  · have hended : Halt.Ended ((Request.tokens [.word "if" 1] {}).run 2
        (new {} ⟨⟩ default : Machine Offline)).1 := by decide +kernel
    obtain ⟨r, m', hrun⟩ : ∃ r m', (Request.tokens [.word "if" 1] {}).run 2
      (new {} ⟨⟩ default : Machine Offline) = (r, m') := ⟨_, _, rfl⟩
    rw [hrun] at hended
    obtain ⟨hframes, hdepth, -⟩ :=
      stacks_restored.2 {} ⟨⟩ default m' (.next (.refl _) hrun hended)
    exact ⟨r, m', hrun, hended, hframes, hdepth⟩

end Machine

end PageScript

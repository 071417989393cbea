/-
The frames that a failure shows.

Each open frame knows the line from which it was entered, and the frame below it still stands on that
line, since only the innermost frame moves on. So the open frames are a chain of calls at every
moment. A failure is raised at one place, which `Raises` tells, and it shows the frames that are open
there, whatever it passes on its way out.
-/
import Mathlib.Data.List.Forall2
import PageScript.Proofs.Machine.Frames
import PageScript.Proofs.Machine.Origin
import PageScript.Proofs.Statement.Simulation

namespace PageScript

-- ======== chains

/-- Something that is done to the open frames. -/
inductive FrameMove
  | push (name : String) (workingDir : Path)
  | pop
  | setLine (line : Nat)

namespace FrameStack

/-- The open frames after a move. -/
def move (s : FrameStack) : FrameMove → FrameStack
  | .push name workingDir => s.push name workingDir
  | .pop => s.pop
  | .setLine line => s.setLine line

/-- Each frame was entered from the line on which the frame below stands, and the outermost one from
none. -/
def Linked (s : FrameStack) : Prop :=
  ∀ i frame, s.frames[i]? = some frame → frame.callerLine = s.frames[i + 1]?.map (·.line)

namespace Linked

theorem empty : Linked {} := by
  intro i frame h
  cases h

theorem push {s : FrameStack} (h : s.Linked) (name : String) (workingDir : Path) :
    (s.push name workingDir).Linked := by
  intro i frame hi
  cases i with
  | zero =>
    cases hi
    simp [FrameStack.push, current?, List.head?_eq_getElem?]
  | succ i => exact h i frame hi

theorem pop {s : FrameStack} (h : s.Linked) : s.pop.Linked := by
  intro i frame hi
  simp only [FrameStack.pop, List.getElem?_tail] at hi ⊢
  exact h (i + 1) frame hi

/-- The line of the innermost frame is not yet the caller's line of any other. -/
theorem setLine {s : FrameStack} (h : s.Linked) (line : Nat) : (s.setLine line).Linked := by
  rcases s with ⟨_ | ⟨top, rest⟩⟩
  · exact h
  · intro i frame hi
    cases i with
    | zero =>
      cases hi
      exact h 0 top rfl
    | succ i => exact h (i + 1) frame hi

theorem move {s : FrameStack} (h : s.Linked) (done : FrameMove) : (s.move done).Linked := by
  cases done with
  | push name workingDir => exact h.push name workingDir
  | pop => exact h.pop
  | setLine line => exact h.setLine line

/-- However frames are opened, closed and moved on, they stay a chain. -/
theorem moves {s : FrameStack} (h : s.Linked) (done : List FrameMove) :
    (done.foldl FrameStack.move s).Linked := by
  induction done generalizing s with
  | nil => exact h
  | cons first done ih => exact ih (h.move first)

end Linked

end FrameStack

/-- The entry of a trace shows a frame as it stands. -/
def TraceEntry.Shows (entry : TraceEntry) (frame : Frame) : Prop :=
  entry.frame = frame.name ∧ entry.line = frame.line ∧ entry.callerLine = frame.callerLine

theorem FrameStack.trace_shows (s : FrameStack) : List.Forall₂ TraceEntry.Shows s.trace s.frames := by
  rw [trace, List.forall₂_map_left_iff]
  exact List.forall₂_same.2 fun frame _ => ⟨rfl, rfl, rfl⟩

/-- Each entry names the line of the entry behind it as its caller's, and the last one none. -/
def CallChain (entries : List TraceEntry) : Prop :=
  ∀ i entry, entries[i]? = some entry → entry.callerLine = entries[i + 1]?.map (·.line)

theorem FrameStack.Linked.callChain {s : FrameStack} (h : s.Linked) : CallChain s.trace := by
  intro i entry hi
  rw [trace, List.getElem?_map] at hi
  obtain ⟨frame, hframe, rfl⟩ := Option.map_eq_some_iff.1 hi
  rw [trace, List.getElem?_map, Option.map_map]
  exact h i frame hframe

namespace Machine

variable {σ : Type}

/-- A chain of open frames is still one. -/
def KeepsLinks (m m' : Machine σ) : Prop :=
  m.frames.Linked → m'.frames.Linked

namespace KeepsLinks

theorem of_same {m m' : Machine σ} (h : m'.frames = m.frames) : KeepsLinks m m' := by
  rw [KeepsLinks, h]
  exact id

instance : IsPreorder (Machine σ) KeepsLinks where
  refl _ := id
  trans _ _ _ h₁ h₂ := h₂ ∘ h₁

theorem entering (m : Machine σ) (name : String) (dir : Path) :
    KeepsLinks m (m.entering name dir) :=
  fun h => h.push name dir

variable [World σ]

theorem stable : Stable (σ := σ) KeepsLinks :=
  (Durable.of_quiet (fun h => of_same h.frames) (fun _ _ h => h.setLine _)
    (fun name dir h hm => (h (hm.push name dir)).pop) (fun h => h) (fun _ _ => of_same rfl)
    fun _ _ => of_same rfl).toStable

theorem keptAt (st : Statement) (m : Machine σ) : KeptAt KeepsLinks st m := by
  intro hscript run limit r m' hrun hended hm
  obtain ⟨line, hframes⟩ := KeepsFrames.keptAt st m hscript run limit hrun hended
  rw [hframes]
  exact hm.setLine line

theorem statements (n : Nat) (s : Source) : Run.Keeps (σ := σ) KeepsLinks (statements n s) :=
  fun _ => stable.of_statements fun _ => keptAt _ _

theorem turn (n : Nat) (s : Source) :
    Run.Keeps (σ := σ) KeepsLinks (turn (Machine.statements n) n s) :=
  fun _ => stable.of_turn fun _ => stable.of_execute (keptAt _ _) fun _ => (statements n _).from _

end KeepsLinks

-- ======== raising

/-- How a block ends whose statements end so: an `if` that is still open is a failure. -/
def blockEnd (depth : Nat) : Except Halt Unit × Machine σ → Except Halt Unit × Machine σ
  | (.ok _, m) =>
    (if depth < m.conditions.depth then .error (.failed (.ofError (.syntaxFault .ifOpen)))
      else .ok (), m.closing depth)
  | (.error (.failed f), m) => (.error (.failed f), m.closing depth)
  | (.error .unfinished, m) => (.error .unfinished, m)

theorem block_apply (run : Source → Run σ Unit) (s : Source) (m : Machine σ) :
    block run s m = blockEnd m.conditions.depth (run s m) := by
  rw [block, Run.get_bind_apply]
  rcases hrun : run s m with ⟨(f | _) | ⟨⟩, m₁⟩
  · rw [Run.bind_ok (Run.outcome_failed hrun), Run.modifyGet_bind_apply]
    rfl
  · rw [Run.bind_error (Run.outcome_unfinished hrun)]
    rfl
  · rw [Run.bind_ok (Run.outcome_ok hrun), Run.modifyGet_bind_apply, Run.ofOutcome_ok, pure_bind,
      blockEnd]
    split <;> rfl

variable [World σ]

/-- The place at which the failure of a run is raised, in the machine that is then given: where an
`if` is still open at the end, where no statement can be read, where a statement fails that runs
no piece of script; and if it runs one, then the place within that piece. The block that is being run
was entered with so many conditionals open. -/
inductive Raises : (depth fuel : Nat) → Source → Machine σ → Failure → Machine σ → Prop
  | unclosed {depth n : Nat} {s : Source} {m : Machine σ} :
      (m.read s).first.isFinish = true → depth < m.conditions.depth →
      Raises depth (n + 1) s m (.ofError (.syntaxFault .ifOpen)) m
  | unreadable {depth n : Nat} {s : Source} {m : Machine σ} {f : Failure} :
      (m.read s).first.isFinish = false → (m.read s).parsed = .error f →
      Raises depth (n + 1) s m f (m.noting (m.read s))
  | own {depth n : Nat} {s : Source} {m m₁ m' : Machine σ} {st : Statement} {f : Failure} :
      Meets m s st m₁ → (∀ s₁ m₂, ¬Enters (statements n) n st m₁ s₁ m₂) →
      turn (statements n) n s m = (.error (.failed f), m') → Raises depth (n + 1) s m f m'
  | later {depth n : Nat} {s s₁ : Source} {m m₁ m' : Machine σ} {st : Statement} {f : Failure} :
      turn (statements n) n s m = (.ok (some (st, s₁)), m₁) → Raises depth n s₁ m₁ f m' →
      Raises depth (n + 1) s m f m'
  | inside {depth n : Nat} {s s₁ : Source} {m m₁ m₂ m₃ m' : Machine σ} {st : Statement}
      {e f : Failure} :
      Meets m s st m₁ → turn (statements n) n s m = (.error (.failed e), m₃) →
      Enters (statements n) n st m₁ s₁ m₂ → Raises m₂.conditions.depth n s₁ m₂ f m' →
      Raises depth (n + 1) s m f m'

theorem statements_of_some {n : Nat} {s s₁ : Source} {m m₁ : Machine σ} {st : Statement}
    (h : turn (statements n) n s m = (.ok (some (st, s₁)), m₁)) :
    statements (n + 1) s m = statements n s₁ m₁ := by
  rw [statements, Run.bind_ok h]

theorem blockEnd_of_failed {n : Nat} {s : Source} {m m₁ : Machine σ} {f : Failure} (depth : Nat)
    (h : turn (statements n) n s m = (.error (.failed f), m₁)) :
    blockEnd depth (statements (n + 1) s m) = (.error (.failed f), m₁.closing depth) := by
  rw [statements, Run.bind_error h, blockEnd]

theorem statements_of_finish {n : Nat} {s : Source} {m : Machine σ}
    (h : (m.read s).first.isFinish = true) : statements (n + 1) s m = (.ok (), m) := by
  rw [statements, Run.bind_ok (turn_of_finish h)]
  rfl

theorem turn_eq_none {run : Source → Run σ Unit} {limit : Nat} {s : Source} {m m' : Machine σ}
    (h : turn run limit s m = (.ok none, m')) : (m.read s).first.isFinish = true := by
  cases hf : (m.read s).first.isFinish with
  | true => rfl
  | false =>
    cases hp : (m.read s).parsed with
    | error f =>
      rw [turn_of_error hf hp] at h
      cases h
    | ok st =>
      rw [turn_of_ok hf hp] at h
      split at h <;> cases h

omit [World σ] in
theorem read_eq_error {m : Machine σ} {s : Source} {f : Failure}
    (h : (m.read s).parsed = .error f) : ∃ fault t, f = .syntaxAt fault t :=
  Parser.statement_eq_error (Prod.ext h rfl)

/-- The turn of a statement that fails: what is then the failure of the statement itself. -/
theorem Meets.execute_failed {n : Nat} {s : Source} {m m₁ m' : Machine σ} {st : Statement}
    {f : Failure} (hmeets : Meets m s st m₁)
    (hturn : turn (statements n) n s m = (.error (.failed f), m')) :
    ∃ e, execute (statements n) n st m₁ = (.error (.failed e), m') ∧
      f = e.withToken (m.read s).first := by
  obtain ⟨-, ⟨hparsed, -⟩ | ⟨st', m₁', e, hmeets', hexec, hf⟩⟩ := turn_eq_failed hturn
  · rw [hmeets.parsed] at hparsed
    cases hparsed
  · obtain rfl : st' = st := Except.ok.inj (hmeets'.parsed.symm.trans hmeets.parsed)
    obtain rfl : m₁' = m₁ := hmeets'.noted.trans hmeets.noted.symm
    exact ⟨e, hexec, hf⟩

/-- At the end of a piece of script its frame is still open. -/
theorem frames_ne_nil_of_block {n : Nat} {s : Source} {m m' : Machine σ} {name : String} {dir : Path}
    {r : Except Halt Unit} (h : block (statements n) s (m.entering name dir) = (r, m'))
    (hr : Halt.Ended r) : m'.frames.frames ≠ [] := by
  obtain ⟨line, hframes⟩ :=
    KeepsFrames.durable.of_block ((KeepsFrames.statements n s).from _) h hr
  rw [hframes]
  exact List.cons_ne_nil _ _

namespace Raises

variable {depth n : Nat} {s : Source} {m m₁ m' : Machine σ} {f g : Failure}

/-- Every failure of a block is raised somewhere. -/
theorem exists_of_failed (h : blockEnd depth (statements n s m) = (.error (.failed f), m')) :
    ∃ g m₁, Raises depth n s m g m₁ := by
  induction n generalizing depth s m f m' with
  | zero =>
    rw [statements, Run.throw_apply] at h
    cases h
  | succ n ih =>
    rcases hturn : turn (statements n) n s m with ⟨(e | _) | _ | ⟨st, s₁⟩, m₁⟩
    · obtain ⟨hmore, ⟨hparsed, rfl⟩ | ⟨st, m₂, e₁, hmeets, hexec, rfl⟩⟩ := turn_eq_failed hturn
      · exact ⟨e, _, .unreadable hmore hparsed⟩
      · by_cases hsome : ∃ s₁ m₃, Enters (statements n) n st m₂ s₁ m₃
        · obtain ⟨s₁, m₃, henters⟩ := hsome
          obtain ⟨s₂, m₄, e₂, m₅, henters', hblock⟩ := henters.exists_failed hexec
          rw [block_apply] at hblock
          obtain ⟨g, m₆, hraises⟩ := ih hblock
          exact ⟨g, m₆, .inside hmeets hturn henters' hraises⟩
        · exact ⟨_, _, .own hmeets (fun s₁ m₃ henters => hsome ⟨s₁, m₃, henters⟩) hturn⟩
    · rw [statements, Run.bind_error hturn] at h
      cases h
    · have hmore := turn_eq_none hturn
      rw [statements_of_finish hmore, blockEnd] at h
      split at h
      · next hopen => exact ⟨_, _, .unclosed hmore hopen⟩
      · cases h
    · rw [statements_of_some hturn] at h
      obtain ⟨g, m₂, hraises⟩ := ih h
      exact ⟨g, m₂, .later hturn hraises⟩

/-- The place at which a failure is raised lies in a chain of calls. -/
theorem keepsLinks (h : Raises depth n s m g m₁) : KeepsLinks m m₁ := by
  induction h with
  | unclosed => exact refl_of KeepsLinks _
  | unreadable => exact KeepsLinks.stable.reading _ _
  | own _ _ hturn => exact KeepsLinks.turn _ _ hturn nofun
  | later hturn _ ih => exact trans_of KeepsLinks (KeepsLinks.turn _ _ hturn nofun) ih
  | @inside _ _ s _ m m₁ _ _ _ _ _ _ hmeets _ henters _ ih =>
    have hread : KeepsLinks m m₁ := hmeets.noted ▸ KeepsLinks.stable.reading m s
    have hentered := KeepsLinks.stable.of_enters KeepsLinks.entering
      (fun _ => (KeepsLinks.statements _ _).from _) henters
    exact trans_of KeepsLinks hread (trans_of KeepsLinks hentered ih)

/-- A failure has a token where it is raised, unless an `if` was left open. -/
theorem token (h : Raises depth n s m g m₁) :
    g.token.isSome = true ∨ g = .ofError (.syntaxFault .ifOpen) := by
  induction h with
  | unclosed => exact .inr rfl
  | unreadable _ hparsed =>
    obtain ⟨fault, t, rfl⟩ := read_eq_error hparsed
    exact .inl (Failure.isSome_token_withToken ..)
  | own hmeets _ hturn =>
    obtain ⟨e, -, rfl⟩ := hmeets.execute_failed hturn
    exact .inl (Failure.isSome_token_withToken ..)
  | later _ _ ih => exact ih
  | inside _ _ _ _ ih => exact ih

/-- With the failure that is raised the block fails, with its reason and its token. The frames that the
failure shows, or would show at the end of the block, are those at the place where it was raised. -/
theorem failed (h : Raises depth n s m g m₁) :
    ∃ f m', blockEnd depth (statements n s m) = (.error (.failed f), m') ∧ g.Carried f ∧
      (f.withTrace m'.frames.trace).trace = m₁.frames.trace := by
  induction h with
  | @unclosed depth n s m hfinish hopen =>
    refine ⟨_, m.closing depth, ?_, .refl _, rfl⟩
    rw [statements_of_finish hfinish, blockEnd, if_pos hopen]
  | @unreadable depth _ _ _ _ hmore hparsed =>
    refine ⟨_, _, blockEnd_of_failed depth (turn_of_error hmore hparsed), .refl _, ?_⟩
    obtain ⟨fault, t, rfl⟩ := read_eq_error hparsed
    rw [Failure.trace_withTrace, Failure.syntaxAt, Failure.trace_withToken]
    rfl
  | @own depth _ _ _ _ _ _ _ hmeets hnone hturn =>
    refine ⟨_, _, blockEnd_of_failed depth hturn, .refl _, ?_⟩
    obtain ⟨e, hexec, rfl⟩ := hmeets.execute_failed hturn
    have hbare := execute_bare_of_not_enters hnone hexec
    rw [Failure.trace_withTrace, Failure.trace_withToken, if_pos hbare.trace_eq]
    rfl
  | later hturn _ ih =>
    rw [statements_of_some hturn]
    exact ih
  | @inside depth n s s₁ m m₁ m₂ m₃ m' st e g hmeets hturn henters _ ih =>
    -- the failure leaves the piece, and then gets the token of the statement that ran it
    obtain ⟨f, m₄, hpiece, hcarried, htrace⟩ := ih
    rw [← block_apply] at hpiece
    obtain ⟨e₁, hexec, rfl⟩ := hmeets.execute_failed hturn
    have hleaves : Leaves f m₄ e₁ m₃ := by
      refine henters.leaves (fun name dir m₀ hm₂ => ?_) hpiece hexec
      subst hm₂
      exact frames_ne_nil_of_block hpiece nofun
    refine ⟨_, _, blockEnd_of_failed depth hturn, ?_, ?_⟩
    · exact hcarried.trans (hleaves.carried.trans (.withToken ..))
    · rw [← htrace, ← hleaves.trace_eq, Failure.trace_withTrace, Failure.trace_withToken,
        Failure.trace_withTrace]
      rfl

/-- In a frame of its own, a piece of script fails with what is raised in it. The failure shows the
frames at the place where it was raised. -/
theorem inFrame_failed {name : String} {dir : Path}
    (h : Raises m.conditions.depth n s (m.entering name dir) g m₁) :
    ∃ f m', inFrame (statements n) name dir s m = (.error (.failed f), m') ∧ g.Carried f ∧
      f.trace = m₁.frames.trace ∧ f.trace ≠ [] := by
  obtain ⟨e, m₂, hend, hcarried, htrace⟩ := h.failed
  have hblock : block (statements n) s (m.entering name dir) = (.error (.failed e), m₂) := by
    rw [block_apply]
    exact hend
  have hopen : m₂.frames.frames ≠ [] := frames_ne_nil_of_block hblock nofun
  exact ⟨_, _, by rw [inFrame_apply, hblock], hcarried.trans (.withTrace ..), htrace,
    e.trace_withTrace_ne_nil hopen⟩

end Raises

namespace Opens

variable {n : Nat} {start : Option (Source × Machine σ)} {s : Source} {f g : Failure}
  {x : (Source → Run σ Unit) → Except Halt Unit × Machine σ} {m m' m₁ : Machine σ}

/-- If there is a piece of script to run, and something is raised in it, then that is the failure. -/
theorem failed_of_raises (h : Opens start x) (hstart : start = Option.some (s, m))
    (hraises : Raises m.conditions.depth n s m g m₁) :
    ∃ f m', x (statements n) = (.error (.failed f), m') ∧ g.Carried f ∧
      f.trace = m₁.frames.trace ∧ f.trace ≠ [] := by
  obtain ⟨name, dir, m₀, rfl, hx⟩ := h.framed hstart
  rw [hx]
  exact hraises.inFrame_failed

/-- A failure that shows frames was raised in the piece of script that is run. -/
theorem raises_of_failed (h : Opens start x) (hfails : x (statements n) = (.error (.failed f), m'))
    (htrace : f.trace ≠ []) :
    ∃ s m g m₁, start = Option.some (s, m) ∧ Raises m.conditions.depth n s m g m₁ := by
  cases h with
  | none hbare => exact absurd (hbare _ _ _ hfails).trace_eq htrace
  | some hx =>
    rw [hx] at hfails
    obtain ⟨e, m₂, hblock, -, -⟩ := inFrame_eq_failed hfails
    rw [block_apply] at hblock
    obtain ⟨g, m₁, hraises⟩ := Raises.exists_of_failed hblock
    exact ⟨_, _, g, m₁, rfl, hraises⟩

end Opens

theorem runHook_opens (name : String) (m : Machine σ) :
    ∃ x, Opens (m.aliasStart? name {}) x ∧ ∀ fuel, runHook fuel name m = x (statements fuel) := by
  cases hfound : m.aliases.contains name with
  | true =>
    refine ⟨_, invoke_opens name {} m, fun fuel => ?_⟩
    rw [runHook, Run.get_bind_apply, hfound]
    rfl
  | false =>
    have hget : m.aliases.get? name = none := by simpa [AliasTable.contains] using hfound
    refine ⟨fun _ => (.ok (), m), ?_, fun fuel => ?_⟩
    · rw [aliasStart?, hget]
      refine .none fun _ _ _ h => ?_
      cases h
    · rw [runHook, Run.get_bind_apply, hfound]
      rfl

/-- What is done about the failure of a test does not fail. -/
theorem afterFailure_failsOnly {P : Failure → Prop} (fuel : Nat) (path : Path) (f : Failure) :
    Run.FailsOnly (σ := σ) P (afterFailure fuel path f) := by
  refine .bind (log_failsOnly ..) fun _ => .bind (failureScreenshot_failsOnly path) fun _ => ?_
  refine .outcome_bind (Q := fun _ => True) (fun _ _ _ _ => trivial) fun r _ => ?_
  split
  · exact .pure _
  · exact log_failsOnly ..

/-- A test fails as its trial does. -/
theorem runScript_eq_failed {fuel : Nat} {path : Path} {m m' : Machine σ} {f : Failure}
    (h : runScript fuel path m = (.error (.failed f), m')) :
    ∃ m₁, trial fuel path m = (.error (.failed f), m₁) := by
  change ((trial fuel path).outcome >>= _) m = _ at h
  rcases htrial : trial fuel path m with ⟨(e | _) | ⟨⟩, m₁⟩
  · have hend : Run.FailsOnly (σ := σ) (α := Unit) (· = e) (do
        afterFailure fuel path e
        teardown
        Run.ofOutcome (.error e)) :=
      .bind (afterFailure_failsOnly ..) fun _ => .bind teardown_failsOnly fun _ => .throw rfl
    rw [Run.bind_ok (Run.outcome_failed htrial)] at h
    exact ⟨m₁, by rw [hend h]⟩
  · rw [Run.bind_error (Run.outcome_unfinished htrial)] at h
    cases h
  · have hend : Run.FailsOnly (σ := σ) (α := Unit) (fun _ => False) (do
        teardown
        Run.ofOutcome (.ok ())) :=
      .bind teardown_failsOnly fun _ => .pure _
    rw [Run.bind_ok (Run.outcome_ok htrial)] at h
    exact (hend h).elim

end Machine

-- ======== requests

namespace Request

open Machine

variable {σ : Type} [World σ] {fuel : Nat} {request : Request} {s : Source} {f g : Failure}
  {m m' m₁ : Machine σ}

/-- The piece of script with which a request starts. -/
def start? : Request → Machine σ → Option (Source × Machine σ)
  | .file path, m => m.fileStart? path
  | .text content name dir, m => some (.ofText m.settings.lexicon content, m.entering name dir)
  | .tokens given bindings, m => some (m.tokensStart given bindings)
  | .invoke name bindings, m => m.aliasStart? name bindings
  | .script path, m => m.fileStart? path
  | .close, _ => none

/-- The pieces of script that decide how a request ends: all that are started for it, except the alias
that is run when a test has failed. -/
inductive Decides (fuel : Nat) : Request → Machine σ → Source → Machine σ → Prop
  | start {request : Request} {m m₁ : Machine σ} {s : Source} :
      request.start? m = some (s, m₁) → Decides fuel request m s m₁
  | onSuccess {path : Path} {m m₁ m₂ : Machine σ} {s : Source} :
      runFile fuel path m = (.ok (), m₁) → m₁.aliasStart? onSuccess {} = some (s, m₂) →
      Decides fuel (.script path) m s m₂

/-- The place at which the failure of a request is raised, in the machine that is then given. -/
def Raises (fuel : Nat) (request : Request) (m : Machine σ) (g : Failure) (m₁ : Machine σ) : Prop :=
  ∃ s m', request.Decides fuel m s m' ∧ Machine.Raises m'.conditions.depth fuel s m' g m₁

theorem Decides.starts (h : request.Decides fuel m s m₁) : request.Starts fuel m s m₁ := by
  cases h with
  | start hstart =>
    cases request with
    | file path => exact .file hstart
    | text content name dir => cases hstart; exact .text
    | tokens given bindings => cases hstart; exact .tokens
    | invoke name bindings => exact .invoke hstart
    | script path => exact .script hstart
    | close => cases hstart
  | onSuccess hfile hstart => exact .onSuccess hfile hstart

/-- A request other than a test runs one piece of script, or none. -/
theorem run_opens (hscript : ∀ path, request ≠ .script path) (m : Machine σ) :
    ∃ x, Opens (request.start? m) x ∧ ∀ fuel, request.run fuel m = x (statements fuel) := by
  cases request with
  | file path => exact ⟨_, file_opens path m, fun _ => rfl⟩
  | text content name dir => exact ⟨_, .some fun _ => rfl, fun _ => rfl⟩
  | tokens given bindings => exact ⟨_, .some fun _ => rfl, fun _ => rfl⟩
  | invoke name bindings => exact ⟨_, invoke_opens name bindings m, fun _ => rfl⟩
  | script path => exact absurd rfl (hscript path)
  | close =>
    exact ⟨fun _ => teardown m, .none fun _ _ _ h => teardown_failsOnly h, fun _ => rfl⟩

/-- What is raised for a request is its failure, which shows the frames at that place. -/
theorem Raises.carried (h : request.Raises fuel m g m₁)
    (hfails : request.run fuel m = (.error (.failed f), m')) :
    g.Carried f ∧ f.trace = m₁.frames.trace ∧ f.trace ≠ [] := by
  obtain ⟨s, m₂, hdecides, hraises⟩ := h
  by_cases hscript : ∃ path, request = .script path
  · obtain ⟨path, rfl⟩ := hscript
    obtain ⟨m₃, htrial⟩ := runScript_eq_failed hfails
    rw [trial] at htrial
    cases hdecides with
    | start hstart =>
      obtain ⟨e, m₄, hfile, hcarried⟩ := (file_opens path m).failed_of_raises hstart hraises
      rw [Run.bind_error (x := runFile fuel path) hfile] at htrial
      cases htrial
      exact hcarried
    | @onSuccess _ _ m₄ _ _ hfile hstart =>
      obtain ⟨x, hopens, hx⟩ := runHook_opens onSuccess m₄
      obtain ⟨e, m₅, hhook, hcarried⟩ := hopens.failed_of_raises hstart hraises
      rw [Run.bind_ok hfile, hx, hhook] at htrial
      cases htrial
      exact hcarried
  · obtain ⟨x, hopens, hx⟩ := run_opens (fun path hpath => hscript ⟨path, hpath⟩) m
    cases hdecides with
    | start hstart =>
      obtain ⟨e, m₄, hrun, hcarried⟩ := hopens.failed_of_raises hstart hraises
      rw [hx, hrun] at hfails
      cases hfails
      exact hcarried
    | onSuccess => exact absurd ⟨_, rfl⟩ hscript

/-- A failure that shows frames was raised somewhere. -/
theorem exists_raises (hfails : request.run fuel m = (.error (.failed f), m'))
    (htrace : f.trace ≠ []) : ∃ g m₁, request.Raises fuel m g m₁ := by
  by_cases hscript : ∃ path, request = .script path
  · obtain ⟨path, rfl⟩ := hscript
    obtain ⟨m₁, htrial⟩ := runScript_eq_failed hfails
    rw [trial] at htrial
    rcases hfile : runFile fuel path m with ⟨e | ⟨⟩, m₂⟩
    · rw [Run.bind_error hfile] at htrial
      cases htrial
      obtain ⟨s, m₃, g, m₄, hstart, hraises⟩ := (file_opens path m).raises_of_failed hfile htrace
      exact ⟨g, m₄, s, m₃, .start hstart, hraises⟩
    · rw [Run.bind_ok hfile] at htrial
      obtain ⟨x, hopens, hx⟩ := runHook_opens onSuccess m₂
      rw [hx] at htrial
      obtain ⟨s, m₃, g, m₄, hstart, hraises⟩ := hopens.raises_of_failed htrial htrace
      exact ⟨g, m₄, s, m₃, .onSuccess hfile hstart, hraises⟩
  · obtain ⟨x, hopens, hx⟩ := run_opens (fun path hpath => hscript ⟨path, hpath⟩) m
    rw [hx] at hfails
    obtain ⟨s, m₁, g, m₂, hstart, hraises⟩ := hopens.raises_of_failed hfails htrace
    exact ⟨g, m₂, s, m₁, .start hstart, hraises⟩

/-- Where no frame is open when a request is made, the place at which its failure is raised lies in a
chain of calls that starts with the request. -/
theorem Raises.linked (h : request.Raises fuel m g m₁) (hm : m.frames = {}) : m₁.frames.Linked := by
  obtain ⟨s, m₂, hdecides, hraises⟩ := h
  obtain ⟨m₃, name, dir, hrestored, rfl⟩ := Restored.of_starts hdecides.starts
  refine hraises.keepsLinks (KeepsLinks.entering m₃ name dir ?_)
  rw [hrestored.frames, hm]
  exact .empty

end Request

namespace Machine

/-- Traces are chains of calls. However frames are opened, closed and moved on, each was entered from
the line on which the one below stands. So if a request fails, and its failure shows frames, these are
all the frames that were open where it was raised, the innermost first, each with the line of the next
as its caller's. Neither they nor the failure's token, if it had one there, have been replaced on the
way out. And every failure that is raised in a piece of script shows frames. -/
theorem trace_is_call_chain {σ : Type} [World σ] :
    (∀ moves : List FrameMove, (moves.foldl FrameStack.move {}).Linked) ∧
    ∀ (settings : Settings) (browser : σ) (disk : Disk) (m : Machine σ),
      Served (new settings browser disk) m →
        ∀ (fuel : Nat) (request : Request) (f : Failure) (m' : Machine σ),
          request.run fuel m = (.error (.failed f), m') →
            (f.trace ≠ [] ↔ ∃ g m₁, request.Raises fuel m g m₁) ∧ CallChain f.trace ∧
            ∀ g m₁, request.Raises fuel m g m₁ →
              List.Forall₂ TraceEntry.Shows f.trace m₁.frames.frames ∧ f.error = g.error ∧
              (g.token.isSome = true ∧ f.token = g.token ∧ f.line = g.line ∨
                g = .ofError (.syntaxFault .ifOpen)) := by
  refine ⟨fun moves => FrameStack.Linked.empty.moves moves, ?_⟩
  intro settings browser disk m hserved fuel request f m' hfails
  refine ⟨⟨Request.exists_raises hfails, ?_⟩, ?_, ?_⟩
  · rintro ⟨g, m₁, hraises⟩
    exact (hraises.carried hfails).2.2
  · by_cases htrace : f.trace = []
    · rw [htrace]
      exact FrameStack.Linked.empty.callChain
    · obtain ⟨g, m₁, hraises⟩ := Request.exists_raises hfails htrace
      rw [(hraises.carried hfails).2.1]
      exact (hraises.linked hserved.frames_eq).callChain
  · intro g m₁ hraises
    obtain ⟨hcarried, htrace, -⟩ := hraises.carried hfails
    refine ⟨htrace ▸ m₁.frames.trace_shows, hcarried.error, ?_⟩
    obtain ⟨_, _, -, hplace⟩ := hraises
    exact hplace.token.imp_left fun hsome => ⟨hsome, hcarried.token hsome⟩

/-- The frames that the result of a run shows: none if it has not failed. -/
def shownFrames : Except Halt Unit → List TraceEntry
  | .error (.failed f) => f.trace
  | _ => []

/-- An alias whose body fails on line 2, and its use on line 4. -/
def failingAlias : Request :=
  .tokens [.word "alias" 1, .word "a" 1, .symbol '\x7b' 1, .word "fail" 2, .word "x" 2,
    .symbol '\x7d' 3, .word "a" 4] {}

/-- The failure in the alias is raised with two frames open, and shows both. -/
theorem trace_is_call_chain_alias :
    ∃ f m', failingAlias.run 4 (new {} ⟨⟩ default : Machine Offline) = (.error (.failed f), m') ∧
      f.trace = [⟨"alias a", 2, some 4⟩, ⟨"<tokens>", 4, none⟩] ∧ CallChain f.trace ∧
      ∃ g m₁, failingAlias.Raises 4 (new {} ⟨⟩ default : Machine Offline) g m₁ ∧
        List.Forall₂ TraceEntry.Shows f.trace m₁.frames.frames := by
  have hshown : shownFrames (failingAlias.run 4 (new {} ⟨⟩ default : Machine Offline)).1 =
      [⟨"alias a", 2, some 4⟩, ⟨"<tokens>", 4, none⟩] := by decide +kernel
  generalize hrun : failingAlias.run 4 (new {} ⟨⟩ default : Machine Offline) = result at hshown
  rcases result with ⟨(f | _) | ⟨⟩, m'⟩
  · have htrace : f.trace = [⟨"alias a", 2, some 4⟩, ⟨"<tokens>", 4, none⟩] := hshown
    have hserved : Served (new {} ⟨⟩ default) (new {} ⟨⟩ default : Machine Offline) := .refl _
    obtain ⟨hraised, hchain, hshows⟩ :=
      trace_is_call_chain.2 {} ⟨⟩ default _ hserved 4 failingAlias f m' hrun
    obtain ⟨g, m₁, hraises⟩ := hraised.1 (by rw [htrace]; exact List.cons_ne_nil _ _)
    exact ⟨f, m', rfl, htrace, hchain, g, m₁, hraises, (hshows g m₁ hraises).1⟩
  · cases hshown
  · cases hshown

end Machine

end PageScript

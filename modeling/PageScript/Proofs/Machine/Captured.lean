/-
Captured blocks stay what they are.

A block is captured while a statement is read, and replayed as often as its alias is used or its loop
goes round. By then more may have been captured, the alias may have been defined anew from within its
own body, and other requests may have been served. All that is between two moments of a session only
adds to the arena. To see this one needs to know of each piece of script that it has ended before the
next one starts, and before the statement or request ends that runs it.
-/
import PageScript.Proofs.Machine.History

namespace PageScript

-- ======== ends

namespace Run

variable {σ α β : Type} {R : Machine σ → Machine σ → Prop} {x : Run σ α} {m m' m₁ : Machine σ}

/-- The run from `m` has ended, and what has come since then leads to `m'`. -/
def EndsBefore (R : Machine σ → Machine σ → Prop) (x : Run σ α) (m m' : Machine σ) : Prop :=
  ∃ r m₁, x m = (r, m₁) ∧ Halt.Ended r ∧ R m₁ m'

namespace EndsBefore

variable [IsPreorder (Machine σ) R]

theorem of_eq {r : Except Halt α} (h : x m = (r, m')) (hr : Halt.Ended r) : EndsBefore R x m m' :=
  ⟨r, m', h, hr, refl_of R m'⟩

theorem trans (h : EndsBefore R x m m₁) (hm : R m₁ m') : EndsBefore R x m m' := by
  obtain ⟨r, m₂, hx, hr, hm₂⟩ := h
  exact ⟨r, m₂, hx, hr, trans_of R hm₂ hm⟩

/-- The first of two runs ends before the second. -/
theorem of_bind {f : α → Run σ β} (hf : ∀ {a m₁}, x m = (.ok a, m₁) → KeepsAt R (f a) m₁)
    (h : EndsBefore R (x >>= f) m m') : EndsBefore R x m m' := by
  obtain ⟨r, m₂, hrun, hr, hm₂⟩ := h
  rcases hx : x m with ⟨e | a, m₁⟩
  · rw [bind_error hx] at hrun
    cases hrun
    exact ⟨_, _, hx, Halt.ended_error.2 (Halt.ended_error.1 hr), hm₂⟩
  · rw [bind_ok hx] at hrun
    exact ⟨_, _, hx, Halt.ended_ok a, trans_of R (hf hx hrun hr) hm₂⟩

omit [IsPreorder (Machine σ) R] in
theorem of_apply_eq {y : Run σ α} {m₂ : Machine σ} (h : EndsBefore R x m m') (hxy : x m = y m₂) :
    EndsBefore R y m₂ m' := by
  rwa [EndsBefore, hxy] at h

omit [IsPreorder (Machine σ) R] in
theorem of_outcome (h : EndsBefore R x.outcome m m') : EndsBefore R x m m' := by
  obtain ⟨r, m₂, hrun, hr, hm₂⟩ := h
  obtain ⟨result, -, hx⟩ := outcome_cases hrun hr
  exact ⟨_, _, hx, Halt.ended_failed result, hm₂⟩

end EndsBefore

end Run

namespace Machine

open Run (EndsBefore)

variable {σ : Type} [World σ]

-- ======== pieces

section Pieces

variable {run : Source → Run σ Unit} {limit : Nat} {s : Source} {m m' m₁ : Machine σ}
  {st : Statement}

omit [World σ] in
theorem ends_of_block (h : EndsBefore Grows (block run s) m m') : EndsBefore Grows (run s) m m' := by
  obtain ⟨r, m₁, hblock, hr, hm₁⟩ := h
  obtain ⟨r₁, m₂, hrun, hr₁, rfl⟩ := block_cases hblock hr
  exact ⟨r₁, m₂, hrun, hr₁, hm₁⟩

omit [World σ] in
theorem ends_of_inFrame {name : String} {dir : Path}
    (h : EndsBefore Grows (inFrame run name dir s) m m') :
    EndsBefore Grows (run s) (m.entering name dir) m' := by
  obtain ⟨r, m₁, hframe, hr, hm₁⟩ := h
  obtain ⟨r₁, m₂, hblock, hr₁, rfl⟩ := inFrame_cases hframe hr
  exact ends_of_block ⟨r₁, m₂, hblock, hr₁, hm₁⟩

/-- A piece of script ends before the statement does that runs it. -/
theorem Enters.ends (henters : Enters run limit st m s m₁) (hrun : ∀ s, Run.Keeps Grows (run s))
    (h : EndsBefore Grows (execute run limit st) m m') : EndsBefore Grows (run s) m₁ m' := by
  obtain ⟨name, dir, m₀, rfl, hframe⟩ | ⟨body, k, rfl, rfl, hempty, hk, hrounds⟩ :=
    henters.framed_or_loop
  · exact ends_of_inFrame (h.of_apply_eq hframe)
  · obtain ⟨rest, rfl⟩ := Nat.exists_eq_add_of_lt hk
    have hloop : EndsBefore Grows (loop run body (rest + 1)) m₁ m' := by
      refine h.of_apply_eq ?_
      rw [execute_while, hempty, Nat.add_assoc]
      simp only [Bool.false_eq_true, if_false]
      exact hrounds.loop_eq _
    refine ends_of_block (.of_outcome (.of_bind (fun {result m₂} _ => ?_) hloop))
    -- what comes after this round: the other rounds, or the end of the loop
    cases result with
    | ok u => exact Grows.durable.of_loop fun _ _ => (hrun _).from _
    | error f =>
      dsimp only
      split
      · exact .of_eq rfl (.of_eq rfl)
      · exact .of_eq rfl (refl_of Grows m₂)

/-- The statement that is met in a turn is carried out before the turn ends. -/
theorem Meets.ends (hmeets : Meets m s st m₁) (h : EndsBefore Grows (turn run limit s) m m') :
    EndsBefore Grows (execute run limit st) m₁ m' := by
  have hturn : turn run limit s m =
      (step run limit (m.read s).first st >>= fun _ =>
        pure (some (st, (m.read s).after.source))) m₁ := by
    rw [turn, Run.get_bind_apply, if_neg (by simp [hmeets.more]), Run.set_bind_apply, hmeets.parsed,
      Run.ofOutcome_ok, pure_bind, ← hmeets.noted]
  have hstep : EndsBefore Grows (step run limit (m.read s).first st) m₁ m' :=
    .of_bind (fun {_ m₂} _ => (Run.Keeps.pure _).from m₂) (h.of_apply_eq hturn)
  have hcarry := hstep.of_apply_eq (step_of_not_skips hmeets.carried)
  rw [carryOut] at hcarry
  refine .of_outcome (.of_bind (fun {result m₂} _ => ?_) (hcarry.of_apply_eq (Run.get_bind_apply ..)))
  -- how the statement came out is noted, and the console may be drained
  refine .bind ((Grows.durable.settle_keeps ..).from m₂) fun _ m₃ _ => ?_
  refine .bind (Run.Keeps.get.from m₃) fun m m₄ _ => ?_
  split
  · exact Grows.durable.drain.from m₄
  · exact (Run.Keeps.pure _).from m₄

omit [World σ] in
theorem pairwise_toList {R : Source × Machine σ → Source × Machine σ → Prop}
    (start : Option (Source × Machine σ)) : start.toList.Pairwise R := by
  cases start with
  | none => exact .nil
  | some p => exact List.pairwise_singleton ..

/-- Each round of a loop ends before the next one starts. -/
theorem rounds_pairwise (hrun : ∀ s, Run.Keeps Grows (run s)) (body : Block) :
    (rounds run body limit m).Pairwise (EndsBefore Grows (run (.ofBlock body))) := by
  induction limit generalizing m with
  | zero => exact .nil
  | succ limit ih =>
    rw [rounds]
    rcases hblock : block run (.ofBlock body) m with ⟨e | ⟨⟩, m₁⟩
    · exact List.pairwise_singleton ..
    · refine List.pairwise_cons.2 ⟨fun m₂ hround => ?_, ih⟩
      obtain ⟨k, -, hrounds⟩ := mem_rounds.1 hround
      have hgrows : Grows m₁ m₂ := Grows.durable.of_rounds hrounds fun _ _ => (hrun _).from _
      exact (ends_of_block (.of_eq hblock (Halt.ended_ok _))).trans hgrows

/-- Each piece of script that a statement runs ends before the next one starts. -/
theorem entries_pairwise (hrun : ∀ s, Run.Keeps Grows (run s)) :
    (entries run limit st m).Pairwise fun p q => EndsBefore Grows (run p.1) p.2 q.2 := by
  unfold entries
  split
  · exact pairwise_toList _
  · exact pairwise_toList _
  · exact pairwise_toList _
  · split
    · exact .nil
    · exact List.pairwise_map.2 (rounds_pairwise hrun _)
  · exact .nil

end Pieces

-- ======== runs

section Runs

variable {n : Nat} {loops : List Block} {s : Source} {m m' : Machine σ} {x : Moment σ}

/-- The arena has only grown since a statement was read when a piece of script in it starts. -/
theorem Enters.grows {st : Statement} {m₁ : Machine σ}
    (h : Enters (statements n) n st m s m₁) : Grows m m₁ :=
  Grows.durable.of_enters (fun _ _ _ => .of_eq rfl) (fun _ => (Grows.statements_keeps n _).from _) h

theorem noting_grows {r : Except Halt (Option (Statement × Source))}
    (hmore : (m.read s).first.isFinish = false) (hturn : turn (statements n) n s m = (r, m'))
    (hr : Halt.Ended r) : Grows (m.noting (m.read s)) m' :=
  Grows.durable.of_turn_noting (fun _ => (Grows.execute_keeps n _).from _) hmore hturn hr

/-- No moment of a run comes before its start. -/
theorem grows_of_mem_moments (hx : x ∈ moments n loops s m) : Grows m x.machine := by
  refine forall_moments (Q := fun x => Grows m x.machine) (fun {m₁ s _} h => ?_)
    (fun {n m₁ s _ _ m₂ _ _} h hmeets henters => ?_) (fun h _ hturn hr => ?_) (refl_of Grows m) x hx
  · exact trans_of Grows h (Grows.durable.reading m₁ s)
  · have hread : Grows m₁ m₂ := by
      rw [hmeets.noted]
      exact Grows.durable.reading m₁ s
    exact trans_of Grows h (trans_of Grows hread henters.grows)
  · exact trans_of Grows h (Grows.turn_keeps _ _ hturn hr)

/-- No moment of a run comes after its end. The induction is on the fuel: the pieces of script that a
statement runs have ended by the end of its turn. -/
theorem grows_of_ends (hx : x ∈ moments n loops s m)
    (h : EndsBefore Grows (statements n s) m m') : Grows x.machine m' := by
  induction n generalizing loops s m m' with
  | zero =>
    obtain ⟨r, m₁, hrun, hr, -⟩ := h
    cases hrun
    exact absurd rfl hr
  | succ n ih =>
    have hturn : EndsBefore Grows (turn (statements n) n s) m m' := by
      refine .of_bind (fun {next m₁} _ => ?_) h
      split
      · exact (Run.Keeps.pure _).from m₁
      · exact (Grows.statements_keeps n _).from m₁
    obtain ⟨r, m₁, hturned, hr, hm₁⟩ := id hturn
    rw [moments] at hx
    rcases List.mem_cons.1 hx with rfl | hx
    · exact trans_of Grows (Grows.turn_keeps _ _ hturned hr) hm₁
    cases hmore : (m.read s).first.isFinish with
    | true => simp [hmore] at hx
    | false =>
      rw [hmore] at hx
      rcases List.mem_cons.1 hx with rfl | hx
      · exact trans_of Grows (noting_grows hmore hturned hr) hm₁
      rcases List.mem_append.1 hx with hx | hx
      · obtain ⟨st, m₂, s', m₃, hmeets, henters, hx⟩ := (mem_inside hmore).1 hx
        exact ih hx (henters.ends (Grows.statements_keeps n) (hmeets.ends hturn))
      · obtain ⟨r', m₂, hturned', -, rfl | ⟨hrest, hx⟩⟩ := of_mem_onward hx
        · rw [hturned] at hturned'
          cases hturned'
          exact hm₁
        · exact ih hx (h.of_apply_eq hrest)

/-- The moments of pieces of script, each of which ends before the next one starts. -/
theorem pairwise_flatMap_moments {pieces : List (Source × Machine σ)}
    (h : pieces.Pairwise fun p q => EndsBefore Grows (statements n p.1) p.2 q.2)
    (heach : ∀ {s} {m : Machine σ},
      (moments n loops s m).Pairwise fun x y => Grows x.machine y.machine) :
    (pieces.flatMap fun p => moments n loops p.1 p.2).Pairwise
      fun x y => Grows x.machine y.machine := by
  refine List.pairwise_flatMap.2 ⟨fun _ _ => heach, h.imp fun hends x hx y hy => ?_⟩
  exact trans_of Grows (grows_of_ends hx hends) (grows_of_mem_moments hy)

/-- Along a run the arena only grows. -/
theorem moments_pairwise :
    (moments n loops s m).Pairwise fun x y => Grows x.machine y.machine := by
  induction n generalizing loops s m with
  | zero => exact List.pairwise_singleton ..
  | succ n ih =>
    have hstart : ∀ x ∈ moments (n + 1) loops s m, Grows m x.machine :=
      fun _ => grows_of_mem_moments
    rw [moments] at hstart ⊢
    refine List.pairwise_cons.2 ⟨(List.forall_mem_cons.1 hstart).2, ?_⟩
    cases hmore : (m.read s).first.isFinish with
    | true => exact .nil
    | false =>
      have honward : ∀ x ∈ onward (moments n) n loops s m, ∃ r m₁,
          turn (statements n) n s m = (r, m₁) ∧ Halt.Ended r ∧ Grows m₁ x.machine := by
        intro x hx
        obtain ⟨r, m₁, hturn, hr, rfl | ⟨-, hx⟩⟩ := of_mem_onward hx
        · exact ⟨r, m₁, hturn, hr, refl_of Grows m₁⟩
        · exact ⟨r, m₁, hturn, hr, grows_of_mem_moments hx⟩
      refine List.pairwise_cons.2 ⟨fun x hx => ?_, List.pairwise_append.2 ⟨?_, ?_, ?_⟩⟩
      · rcases List.mem_append.1 hx with hx | hx
        · obtain ⟨st, m₁, s', m', hmeets, henters, hx⟩ := (mem_inside hmore).1 hx
          obtain rfl := hmeets.noted
          exact trans_of Grows henters.grows (grows_of_mem_moments hx)
        · obtain ⟨r, m₁, hturn, hr, hm₁⟩ := honward x hx
          exact trans_of Grows (noting_grows hmore hturn hr) hm₁
      · unfold inside
        split
        · exact pairwise_flatMap_moments (entries_pairwise (Grows.statements_keeps n)) ih
        · exact .nil
      · unfold onward
        split
        · exact ih
        · exact List.pairwise_singleton ..
        · exact .nil
      · intro x hx y hy
        obtain ⟨st, m₁, s', m', hmeets, henters, hx⟩ := (mem_inside hmore).1 hx
        have hends := hmeets.ends (honward y hy)
        exact grows_of_ends hx (henters.ends (Grows.statements_keeps n) hends)

end Runs

-- ======== sessions

section Sessions

variable {fuel : Nat} {path : Path} {request : Request} {session : List (Errand σ)}
  {s : Source} {m m' m₁ : Machine σ} {x : Moment σ}

theorem runFile_grows : Run.Keeps (σ := σ) Grows (runFile fuel path) :=
  fun _ => Grows.durable.of_file fun _ => (Grows.statements_keeps fuel _).from _

theorem trial_grows : Run.Keeps (σ := σ) Grows (trial fuel path) :=
  fun _ => Grows.durable.of_trial (fun _ => (Grows.statements_keeps fuel _).from _)
    fun _ _ => (Grows.statements_keeps fuel _).from _

omit [World σ] in
theorem aliasStart?_grows {name : String} {bindings : Bindings}
    (h : m.aliasStart? name bindings = some (s, m₁)) : Grows m m₁ := by
  unfold aliasStart? at h
  split at h
  · cases h
  · cases h
    exact .of_eq rfl

omit [World σ] in
theorem Opens.ends {run : Source → Run σ Unit} {start : Option (Source × Machine σ)}
    {x : (Source → Run σ Unit) → Except Halt Unit × Machine σ} {y : Run σ Unit}
    (hopens : Opens start x) (hstart : start = Option.some (s, m₁)) (hxy : y m = x run)
    (h : EndsBefore Grows y m m') : EndsBefore Grows (run s) m₁ m' := by
  obtain ⟨name, dir, m₀, rfl, hframe⟩ := hopens.framed hstart
  exact ends_of_inFrame (h.of_apply_eq (hxy.trans (hframe run)))

theorem ends_of_runFile (hstart : m.fileStart? path = some (s, m₁))
    (h : EndsBefore Grows (runFile fuel path) m m') : EndsBefore Grows (statements fuel s) m₁ m' :=
  (file_opens path m).ends hstart rfl h

theorem ends_of_runHook {name : String} (hstart : m.aliasStart? name {} = some (s, m₁))
    (h : EndsBefore Grows (runHook fuel name) m m') : EndsBefore Grows (statements fuel s) m₁ m' := by
  obtain ⟨x, hopens, hx⟩ := runHook_opens name m
  exact hopens.ends hstart (hx fuel) h

theorem runFile_ends_of_trial (h : EndsBefore Grows (trial fuel path) m m') :
    EndsBefore Grows (runFile fuel path) m m' :=
  .of_bind (fun _ => Grows.durable.of_runHook fun _ => (Grows.statements_keeps fuel _).from _) h

theorem runHook_ends_of_trial (hfile : runFile fuel path m = (.ok (), m₁))
    (h : EndsBefore Grows (trial fuel path) m m') :
    EndsBefore Grows (runHook fuel onSuccess) m₁ m' := by
  rw [trial] at h
  exact h.of_apply_eq (Run.bind_ok hfile)

theorem starts_grows (h : request.Starts fuel m s m₁) : Grows m m₁ := by
  have hfile : ∀ {path}, m.fileStart? path = some (s, m₁) → Grows m m₁ := by
    intro path hstart
    obtain ⟨text, -, hentry⟩ := Option.map_eq_some_iff.1 hstart
    cases hentry
    exact .of_eq rfl
  cases h with
  | file hstart => exact hfile hstart
  | text => exact .of_eq rfl
  | tokens => exact .alloc m.arena _
  | invoke hstart => exact aliasStart?_grows hstart
  | script hstart => exact hfile hstart
  | onSuccess hran hstart =>
    exact trans_of Grows (runFile_grows hran nofun) (aliasStart?_grows hstart)
  | onFail htrial hreport hstart =>
    have hreported := Grows.durable.report _ _ hreport nofun
    exact trans_of Grows (trial_grows.outcome htrial nofun)
      (trans_of Grows hreported (aliasStart?_grows hstart))

theorem runHook_ends_of_afterFailure {f : Failure} (hreport : report path f m = (.ok (), m₁))
    (h : EndsBefore Grows (afterFailure fuel path f) m m') :
    EndsBefore Grows (runHook fuel onFail) m₁ m' := by
  rw [afterFailure, ← bind_assoc] at h
  have hhook := h.of_apply_eq (Run.bind_ok (x := report path f) hreport)
  refine .of_outcome (.of_bind (fun {result m₂} _ => ?_) hhook)
  cases result with
  | ok u => exact (Run.Keeps.pure _).from m₂
  | error hook => exact (Grows.durable.log ..).from m₂

/-- The pieces of script of a test end before the test does. -/
theorem starts_ends_of_script (hstarts : (Request.script path).Starts fuel m s m₁)
    (h : EndsBefore Grows (runScript fuel path) m m') : EndsBefore Grows (statements fuel s) m₁ m' := by
  have hclosing : ∀ (result : Except Failure Unit) (m₂ : Machine σ),
      Run.KeepsAt Grows (teardown >>= fun _ => Run.ofOutcome result) m₂ := fun result m₂ =>
    .bind (Grows.durable.teardown.from m₂) fun _ m₃ _ => (Run.Keeps.ofOutcome result).from m₃
  have htrial : EndsBefore Grows (trial fuel path) m m' := by
    refine .of_outcome (.of_bind (fun {result m₂} _ => ?_) h)
    cases result with
    | ok u => exact hclosing _ m₂
    | error f =>
      refine .bind (Grows.durable.toLasting.of_afterFailure fun _ _ => ?_) fun _ m₃ _ => ?_
      · exact (Grows.statements_keeps fuel _).from _
      · exact hclosing _ m₃
  cases hstarts with
  | script hstart => exact ends_of_runFile hstart (runFile_ends_of_trial htrial)
  | onSuccess hfile hstart => exact ends_of_runHook hstart (runHook_ends_of_trial hfile htrial)
  | onFail hfailed hreport hstart =>
    have hrest := h.of_apply_eq (Run.bind_ok (x := (trial fuel path).outcome) hfailed)
    have hafter := EndsBefore.of_bind (fun {_ m₂} _ => hclosing _ m₂) hrest
    exact ends_of_runHook hstart (runHook_ends_of_afterFailure hreport hafter)

/-- Each piece of script that is started for a request ends before the request does. -/
theorem starts_ends (hstarts : request.Starts fuel m s m₁)
    (h : EndsBefore Grows (request.run fuel) m m') : EndsBefore Grows (statements fuel s) m₁ m' := by
  by_cases hscript : ∃ path, request = .script path
  · obtain ⟨path, rfl⟩ := hscript
    exact starts_ends_of_script hstarts h
  · have hstart : request.start? m = some (s, m₁) := by
      cases hstarts with
      | file hstart | invoke hstart => exact hstart
      | text | tokens => rfl
      | script | onSuccess | onFail => exact absurd ⟨_, rfl⟩ hscript
    obtain ⟨x, hopens, hx⟩ := Request.run_opens (fun path hpath => hscript ⟨path, hpath⟩) m
    exact hopens.ends hstart (hx fuel) h

/-- Each piece of script that is started for a request ends before the next one starts. -/
theorem pieces_pairwise :
    (request.pieces fuel m).Pairwise fun p q =>
      EndsBefore Grows (statements fuel p.1) p.2 q.2 := by
  unfold Request.pieces
  split
  · next path =>
    have hfailed : ∀ {p : Source × Machine σ}, m.failureStart? fuel path = some p →
        ∃ m₁, EndsBefore Grows (trial fuel path) m m₁ ∧ Grows m₁ p.2 := by
      intro p hstart
      obtain ⟨f, m₂, m₃, htrial, hreport, hstart⟩ := of_failureStart? hstart
      have hreported := Grows.durable.report _ _ hreport nofun
      exact ⟨m₂, .of_outcome (.of_eq htrial nofun),
        trans_of Grows hreported (aliasStart?_grows hstart)⟩
    refine List.pairwise_append.2 ⟨pairwise_toList _, List.pairwise_append.2
      ⟨pairwise_toList _, pairwise_toList _, fun p hp q hq => ?_⟩, fun p hp q hq => ?_⟩
    · obtain ⟨m₂, hfile, hstart⟩ := of_successStart? (Option.mem_toList.1 hp)
      obtain ⟨m₁, htrial, hgrows⟩ := hfailed (Option.mem_toList.1 hq)
      exact (ends_of_runHook hstart (runHook_ends_of_trial hfile htrial)).trans hgrows
    · have hstart : m.fileStart? path = some p := Option.mem_toList.1 hp
      rcases List.mem_append.1 hq with hq | hq
      · obtain ⟨m₂, hfile, hnext⟩ := of_successStart? (Option.mem_toList.1 hq)
        have hends := ends_of_runFile hstart (.of_eq hfile nofun)
        exact hends.trans (aliasStart?_grows hnext)
      · obtain ⟨m₁, htrial, hgrows⟩ := hfailed (Option.mem_toList.1 hq)
        exact (ends_of_runFile hstart (runFile_ends_of_trial htrial)).trans hgrows
  · exact pairwise_toList _

theorem request_grows : Run.Keeps (σ := σ) Grows (request.run fuel) :=
  fun _ => Grows.durable.of_request fun _ => Grows.keptAt _ _

/-- No moment of a session comes before its start. -/
theorem grows_of_mem_history (hx : x ∈ history session m) : Grows m x.machine := by
  induction session generalizing m with
  | nil =>
    obtain rfl := List.mem_singleton.1 hx
    exact refl_of Grows m
  | cons errand session ih =>
    have hbefore : Grows m (m.outside errand.meanwhile) := Grows.durable.outside ..
    obtain rfl | ⟨s, m₁, hstarts, hx⟩ | ⟨r, m₁, hrun, hr, hx⟩ := of_mem_history hx
    · exact refl_of Grows m
    · have hstarted := trans_of Grows hbefore (starts_grows hstarts)
      exact trans_of Grows hstarted (grows_of_mem_moments hx)
    · exact trans_of Grows hbefore (trans_of Grows (request_grows hrun hr) (ih hx))

/-- Along a session the arena only grows. -/
theorem history_pairwise :
    (history session m).Pairwise fun x y => Grows x.machine y.machine := by
  induction session generalizing m with
  | nil => exact List.pairwise_singleton ..
  | cons errand session ih =>
    have hstart : ∀ x ∈ history (errand :: session) m, Grows m x.machine :=
      fun _ => grows_of_mem_history
    rw [history] at hstart ⊢
    refine List.pairwise_cons.2 ⟨(List.forall_mem_cons.1 hstart).2, ?_⟩
    refine List.pairwise_append.2
      ⟨pairwise_flatMap_moments pieces_pairwise moments_pairwise, ?_, fun x hx y hy => ?_⟩
    · split
      · exact .nil
      · exact ih
    · obtain ⟨⟨s, m₁⟩, hpiece, hx⟩ := List.mem_flatMap.1 hx
      split at hy
      · cases hy
      · next r m₂ hr hrun =>
        have hends := starts_ends (mem_pieces.1 hpiece) (.of_eq hrun hr)
        exact trans_of Grows (grows_of_ends hx hends) (grows_of_mem_history hy)

end Sessions

end Machine

-- ======== bodies

namespace Moment

variable {σ : Type}

/-- What can be replayed from a moment on: the rest of what is being read, the body of each alias with
any arguments, and the blocks of the loops that are being run. -/
inductive Replays (x : Moment σ) : Source → Prop
  | rest {s : Source} : x.source = some s → Replays x s
  | body {a : Alias} (bindings : Bindings) : a ∈ x.machine.aliases.aliases →
      Replays x (.ofBlock ⟨a.body, bindings⟩)
  | round {body : Block} : body ∈ x.loops → Replays x (.ofBlock body)

/-- Blocks are kept in order at a moment: the machine is tidy, and the place where it reads and the
loops that are being run lie in the arena. -/
def Orderly (x : Moment σ) : Prop :=
  x.Satisfies Machine.Tidy Machine.Grounded fun m body => m.arena.Holds body.span

theorem Orderly.reaches {x : Moment σ} {s : Source} (h : x.Orderly) (hs : x.Replays s) :
    x.machine.arena.Reaches s.stop? := by
  cases hs with
  | rest hsource => exact (h.place s hsource).source
  | body _ ha => exact Arena.reaches_some (h.machine.bodies _ ha).within
  | round hbody => exact Arena.reaches_some (h.loops _ hbody).within

end Moment

namespace Machine

variable {σ : Type} [World σ]

theorem orderly_history (settings : Settings) (browser : σ) (disk : Disk)
    (session : List (Errand σ)) :
    ∀ x ∈ history session (new settings browser disk), x.Orderly :=
  Grounded.guard.of_history (fun h hmeets => h.blockHas hmeets) (fun h hbody => hbody.mono h.grows)
    (fun errand _ => errand.request.admits_all) (Tidy.new settings browser disk)

/-- Captured blocks are whole, and stay what they are. Whatever is asked of a new machine and however it
goes, at each moment no end token has been captured, and the bodies of all aliases and the blocks of
all loops that are being run are blocks in the arena with their braces balanced. And whatever comes
later, each place of the arena keeps its token. So what is being read goes on as it would have gone on
before, and the bodies of aliases and the blocks of loops are replayed as the same tokens, though the
alias may be another by then. -/
theorem captured_blocks_stay (settings : Settings) (browser : σ) (disk : Disk)
    (session : List (Errand σ)) :
    (∀ x ∈ history session (new settings browser disk),
      x.machine.arena.All (·.isFinish = false) ∧
      (∀ a ∈ x.machine.aliases.aliases, x.machine.arena.Holds a.body) ∧
      ∀ body ∈ x.loops, x.machine.arena.Holds body.span) ∧
    (history session (new settings browser disk)).Pairwise fun x y =>
      (∀ i < x.machine.arena.size, y.machine.arena.get? i = x.machine.arena.get? i) ∧
      ∀ s, x.Replays s → ∀ n, s.token y.machine.arena n = s.token x.machine.arena n := by
  have horderly := orderly_history settings browser disk session
  refine ⟨fun x hx => ?_, history_pairwise.imp_of_mem fun {x y} hx _ hgrows => ⟨?_, ?_⟩⟩
  · have h := horderly x hx
    exact ⟨h.machine.noFinish, h.machine.bodies, h.loops⟩
  · exact fun i hi => Arena.Extends.get?_eq hgrows hi
  · intro s hs n
    exact Arena.Extends.token_eq hgrows ((horderly x hx).reaches hs) n

/-- An alias that defines itself anew in its own body, which goes on with a loop that uses the new one.
Then a block is begun that nothing closes, and then the alias is used once more. -/
def redefinition : List (Errand Offline) :=
  [{ fuel := 8
     request := .text
       "alias a \x7b alias a \x7b version \x7d while \x7b a fail x \x7d \x7d a\nalias b \x7b x"
       "script" ⟨"."⟩ },
    { fuel := 4, request := .invoke "a" {} }]

/-- The extent of the arena at a moment, of the aliases and of the loops. -/
def extent (x : Moment Offline) : Nat × List Span × List Span :=
  (x.machine.arena.size, x.machine.aliases.aliases.map (·.body), x.loops.map (·.span))

/-- The first body of the alias is the same when the second has replaced it, in the middle of the loop,
and when the block without an end has been captured in part. -/
theorem captured_blocks_stay_redefined :
    ∃ x y z, (history redefinition (new {} ⟨⟩ default))[6]? = some x ∧
      (history redefinition (new {} ⟨⟩ default))[10]? = some y ∧
      (history redefinition (new {} ⟨⟩ default))[23]? = some z ∧
      extent x = (11, [⟨0, 11⟩], []) ∧ extent y = (11, [⟨3, 4⟩], [⟨7, 10⟩]) ∧
      extent z = (12, [⟨3, 4⟩], []) ∧ y.machine.arena.Holds ⟨7, 10⟩ ∧
      ∀ bindings n, (Source.ofBlock ⟨⟨0, 11⟩, bindings⟩).token z.machine.arena n =
        (Source.ofBlock ⟨⟨0, 11⟩, bindings⟩).token x.machine.arena n := by
  have hx : (history redefinition (new {} ⟨⟩ default))[6]?.map extent =
      some (11, [⟨0, 11⟩], []) := by decide +kernel
  have hy : (history redefinition (new {} ⟨⟩ default))[10]?.map extent =
      some (11, [⟨3, 4⟩], [⟨7, 10⟩]) := by decide +kernel
  have hz : (history redefinition (new {} ⟨⟩ default))[23]?.map extent =
      some (12, [⟨3, 4⟩], []) := by decide +kernel
  obtain ⟨hwhole, hstay⟩ := captured_blocks_stay {} (⟨⟩ : Offline) default redefinition
  generalize history redefinition (new {} (⟨⟩ : Offline) default) = moments at hx hy hz hwhole hstay ⊢
  obtain ⟨x, hx, hextent⟩ := Option.map_eq_some_iff.1 hx
  obtain ⟨y, hy, hextent'⟩ := Option.map_eq_some_iff.1 hy
  obtain ⟨z, hz, hextent''⟩ := Option.map_eq_some_iff.1 hz
  refine ⟨x, y, z, hx, hy, hz, hextent, hextent', hextent'', ?_, ?_⟩
  · have hloop : ⟨7, 10⟩ ∈ (extent y).2.2 := by rw [hextent']; exact List.mem_singleton.2 rfl
    obtain ⟨body, hbody, hspan⟩ := List.mem_map.1 hloop
    exact hspan ▸ (hwhole y (List.mem_of_getElem? hy)).2.2 body hbody
  · intro bindings
    have halias : ⟨0, 11⟩ ∈ (extent x).2.1 := by rw [hextent]; exact List.mem_singleton.2 rfl
    obtain ⟨a, ha, hspan⟩ := List.mem_map.1 halias
    obtain ⟨hi, rfl⟩ := List.getElem?_eq_some_iff.1 hx
    obtain ⟨hj, rfl⟩ := List.getElem?_eq_some_iff.1 hz
    have hsame := List.pairwise_iff_getElem.1 hstay 6 23 hi hj (by decide)
    exact hspan ▸ hsame.2 _ (.body bindings ha)

end Machine

end PageScript

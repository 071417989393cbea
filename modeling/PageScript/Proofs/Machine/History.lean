/-
The moments of a session, in the order of time.

`Visits` says where a run comes to, but not what comes before what: behind a piece of script that a
statement has run, the run goes on with the next statement, and no place within the piece leads there.
So the moments of a run are listed here. Each place gives a moment, and so does each statement once it
has been read; between the two lies the capture of its blocks. Then follow the moments of the pieces of
script that the statement runs, and then those of the rest of the run. A session is a list of errands,
each a request with fuel of its own, and has the moments of all their runs. Between them the browser and
the disk may have changed.

What a `Guard` asks for holds at each moment of every session.
-/
import PageScript.Proofs.Machine.Arena
import PageScript.Proofs.Machine.Trace

namespace PageScript

-- ======== moments

/-- A moment of a session: the machine, the place where it reads, and the loops that are being run, the
innermost first. Between requests nothing is read. -/
structure Moment (σ : Type) where
  machine : Machine σ
  source : Option Source
  loops : List Block

/-- What holds at a moment: of the machine, of the place where it reads, and of the loops. -/
structure Moment.Satisfies {σ : Type} (I : Machine σ → Prop) (P : Machine σ → Source → Prop)
    (L : Machine σ → Block → Prop) (x : Moment σ) : Prop where
  machine : I x.machine
  place : ∀ s, x.source = some s → P x.machine s
  loops : ∀ body ∈ x.loops, L x.machine body

/-- The loops that are being run within a statement, with those around it. -/
def Statement.loopsIn (loops : List Block) : Statement → List Block
  | .while body => body :: loops
  | _ => loops

namespace Machine

variable {σ : Type}

/-- The machines with which the rounds of a loop start. -/
def rounds (run : Source → Run σ Unit) (body : Block) : (limit : Nat) → Machine σ → List (Machine σ)
  | 0, _ => []
  | limit + 1, m =>
    m :: match block run (.ofBlock body) m with
      | (.ok _, m₁) => rounds run body limit m₁
      | (.error _, _) => []

/-- The pieces of script that a statement runs, one after the other. -/
def entries [Programs σ] (run : Source → Run σ Unit) (limit : Nat) : Statement → Machine σ →
    List (Source × Machine σ)
  | .includeFile file, m => (m.fileStart? ⟨file⟩).toList
  | .invoke name bindings, m => (m.aliasStart? name bindings).toList
  | .exec command args true, m => (m.outputStart? command args).toList
  | .while body, m =>
    if body.span.isEmpty then [] else (rounds run body limit m).map (.ofBlock body, ·)
  | _, _ => []

/-- The statement that is carried out at a place, if one is. -/
def met? (m : Machine σ) (s : Source) : Option Statement :=
  match (m.read s).parsed with
  | .ok st => if (m.noting (m.read s)).skips st then none else some st
  | .error _ => none

section Moments

variable [World σ]

/-- The moments within the statement at a place, if `rest` gives those of pieces of script. -/
def inside (rest : List Block → Source → Machine σ → List (Moment σ)) (n : Nat)
    (loops : List Block) (s : Source) (m : Machine σ) : List (Moment σ) :=
  match m.met? s with
  | some st =>
    (entries (statements n) n st (m.noting (m.read s))).flatMap fun p =>
      rest (st.loopsIn loops) p.1 p.2
  | none => []

/-- The moments behind the statement at a place, if `rest` gives those of runs. -/
def onward (rest : List Block → Source → Machine σ → List (Moment σ)) (n : Nat)
    (loops : List Block) (s : Source) (m : Machine σ) : List (Moment σ) :=
  match turn (statements n) n s m with
  | (.ok (some (_, behind)), m₁) => rest loops behind m₁
  | (.error (.failed _), m₁) => [⟨m₁, some (m.read s).after.source, loops⟩]
  | _ => []

/-- The moments of a run within some loops. -/
def moments : (fuel : Nat) → (loops : List Block) → Source → Machine σ → List (Moment σ)
  | 0, loops, s, m => [⟨m, some s, loops⟩]
  | n + 1, loops, s, m =>
    ⟨m, some s, loops⟩ ::
      if (m.read s).first.isFinish then []
      else
        ⟨m.noting (m.read s), some (m.read s).after.source, loops⟩ ::
          (inside (moments n) n loops s m ++ onward (moments n) n loops s m)

end Moments

-- ======== membership

section Membership

variable {run : Source → Run σ Unit} {limit n : Nat} {s s' : Source} {m m' m₁ : Machine σ}
  {st : Statement} {loops : List Block} {x : Moment σ}

theorem mem_rounds {body : Block} :
    m₁ ∈ rounds run body limit m ↔ ∃ k < limit, Rounds run body k m m₁ := by
  induction limit generalizing m with
  | zero => simp [rounds]
  | succ limit ih =>
    rw [rounds, List.mem_cons]
    constructor
    · rintro (rfl | hmem)
      · exact ⟨0, Nat.succ_pos limit, .zero _⟩
      · rcases hblock : block run (.ofBlock body) m with ⟨e | ⟨⟩, m₂⟩ <;> rw [hblock] at hmem
        · cases hmem
        · obtain ⟨k, hk, hrounds⟩ := ih.1 hmem
          exact ⟨k + 1, Nat.succ_lt_succ hk, .succ hblock hrounds⟩
    · rintro ⟨k, hk, hrounds⟩
      cases hrounds with
      | zero => exact .inl rfl
      | succ hblock hrounds =>
        rw [hblock]
        exact .inr (ih.2 ⟨_, Nat.lt_of_succ_lt_succ hk, hrounds⟩)

theorem mem_entries [Programs σ] : (s, m₁) ∈ entries run limit st m ↔ Enters run limit st m s m₁ := by
  constructor
  · intro hmem
    unfold entries at hmem
    split at hmem
    · exact .includeFile (Option.mem_toList.1 hmem)
    · exact .invoke (Option.mem_toList.1 hmem)
    · exact .exec (Option.mem_toList.1 hmem)
    · split at hmem
      · cases hmem
      · next hempty =>
        obtain ⟨m₂, hround, hentry⟩ := List.mem_map.1 hmem
        cases hentry
        obtain ⟨k, hk, hrounds⟩ := mem_rounds.1 hround
        exact .while (by simpa using hempty) hk hrounds
    · cases hmem
  · intro henters
    cases henters with
    | includeFile hstart => exact Option.mem_toList.2 hstart
    | invoke hstart => exact Option.mem_toList.2 hstart
    | exec hstart => exact Option.mem_toList.2 hstart
    | «while» hempty hk hrounds =>
      rw [entries, hempty]
      exact List.mem_map.2 ⟨_, mem_rounds.2 ⟨_, hk, hrounds⟩, rfl⟩

theorem entries_of_not_runsScript [Programs σ] (h : st.runsScript = false) :
    entries run limit st m = [] :=
  List.eq_nil_iff_forall_not_mem.2 fun ⟨_, _⟩ hp => by cases mem_entries.1 hp <;> cases h

theorem met?_eq_some (hmore : (m.read s).first.isFinish = false) :
    m.met? s = some st ↔ Meets m s st (m.noting (m.read s)) := by
  rw [met?]
  constructor
  · intro h
    split at h
    · next hparsed =>
      split at h
      · cases h
      · next hskip =>
        cases h
        exact ⟨hmore, hparsed, rfl, by simpa using hskip⟩
    · cases h
  · intro h
    simp [h.parsed, h.carried]

variable [World σ]

/-- A statement that runs no loop runs one piece of script, in a frame, or there is none to run, and then
it fails. What is done in front of the piece keeps what log lines and programs keep. -/
theorem script_cases {R : Machine σ → Machine σ → Prop} [IsPreorder (Machine σ) R]
    (run : Source → Run σ Unit) (limit : Nat) (m : Machine σ)
    (hlog : ∀ level target message, Run.Keeps R (Run.log level target message))
    (hprogram : ∀ command args dir, Run.Keeps R (runProgram command args dir))
    (hscript : st.runsScript = true) (hloop : ∀ body, st ≠ .while body) :
    (entries run limit st m = [] ∧ Run.KeepsAt R (execute run limit st) m ∧
      ∀ m', execute run limit st m ≠ (.ok (), m')) ∨
    ∃ name dir s m₁, entries run limit st m = [(s, entering m₁ name dir)] ∧
      execute run limit st m = inFrame run name dir s m₁ ∧ R m m₁ := by
  cases st with
  | includeFile path =>
    cases htext : m.disk.readText (m.frames.workingDir.join ⟨path⟩) with
    | ok text =>
      have hlogged : R m (m.logging ("Running " ++ (m.frames.workingDir.join ⟨path⟩).text)) :=
        hlog .info .engine _ rfl (Halt.ended_ok _)
      refine .inr ⟨_, _, _, _, ?_, file_of_ok htext, hlogged⟩
      rw [entries, fileStart?_of_ok htext]
      rfl
    | error e =>
      have hstart : m.fileStart? ⟨path⟩ = none := by rw [fileStart?, htext]; rfl
      have hfails : execute run limit (.includeFile path) m =
          (.error (.failed (.ofError (.io (some (m.frames.workingDir.join ⟨path⟩)) e))), m) := by
        rw [execute, file, Run.get_bind_apply]
        simp only [htext]
        rfl
      refine .inl ⟨by rw [entries, hstart]; rfl, .of_eq hfails (refl_of R m), fun m' h => ?_⟩
      rw [hfails] at h
      cases h
  | invoke name bindings =>
    cases hfound : m.aliases.get? name with
    | some found =>
      have hruns : execute run limit (.invoke name bindings) m =
          inFrame run ("alias " ++ name) m.frames.workingDir (.ofBlock ⟨found.body, bindings⟩) m := by
        rw [execute, invoke, Run.get_bind_apply, hfound]
      refine .inr ⟨_, _, _, m, ?_, hruns, refl_of R m⟩
      rw [entries, aliasStart?_of_some hfound]
      rfl
    | none =>
      have hstart : m.aliasStart? name bindings = none := by rw [aliasStart?, hfound]
      have hfails : execute run limit (.invoke name bindings) m =
          (.error (.failed (.ofError (.syntaxFault (.unknownAlias name)))), m) := by
        rw [execute, invoke, Run.get_bind_apply, hfound]
        rfl
      refine .inl ⟨by rw [entries, hstart]; rfl, .of_eq hfails (refl_of R m), fun m' h => ?_⟩
      rw [hfails] at h
      cases h
  | exec command args again =>
    have hagain : again = true := hscript
    subst hagain
    rcases hran : runProgram command args m.frames.workingDir m with ⟨e | output, m₁⟩
    · have hstart : m.outputStart? command args = none := by rw [outputStart?, hran]; rfl
      have hfails : execute run limit (.exec command args true) m = (.error e, m₁) := by
        rw [execute_exec_apply, Run.bind_error hran]
      refine .inl ⟨by rw [entries, hstart]; rfl, fun r m' h hended => ?_, fun m' h => ?_⟩
      · rw [hfails] at h
        cases h
        exact hprogram _ _ _ hran (Halt.ended_error.2 (Halt.ended_error.1 hended))
      · rw [hfails] at h
        cases h
    · have hruns : execute run limit (.exec command args true) m =
          inFrame run ("exec-include " ++ command) m.frames.workingDir
            (.ofText m.settings.lexicon output) m₁ := by
        rw [execute_exec_apply, Run.bind_ok hran]
      refine .inr ⟨_, _, _, m₁, ?_, hruns, hprogram _ _ _ hran (Halt.ended_ok _)⟩
      rw [entries, outputStart?_of_ok hran]
      rfl
  | «while» body => exact absurd rfl (hloop body)
  | _ => cases hscript

theorem mem_inside {rest : List Block → Source → Machine σ → List (Moment σ)}
    (hmore : (m.read s).first.isFinish = false) :
    x ∈ inside rest n loops s m ↔
      ∃ st m₁ s' m', Meets m s st m₁ ∧ Enters (statements n) n st m₁ s' m' ∧
        x ∈ rest (st.loopsIn loops) s' m' := by
  rw [inside]
  constructor
  · intro hx
    split at hx
    · next st hmet =>
      obtain ⟨⟨s', m'⟩, hentry, hx⟩ := List.mem_flatMap.1 hx
      exact ⟨st, _, s', m', (met?_eq_some hmore).1 hmet, mem_entries.1 hentry, hx⟩
    · cases hx
  · rintro ⟨st, m₁, s', m', hmeets, henters, hx⟩
    obtain rfl := hmeets.noted
    rw [(met?_eq_some hmore).2 hmeets]
    exact List.mem_flatMap.2 ⟨(s', m'), mem_entries.2 henters, hx⟩

/-- Behind a statement, the turn with it has ended. -/
theorem of_mem_onward {rest : List Block → Source → Machine σ → List (Moment σ)}
    (hx : x ∈ onward rest n loops s m) :
    ∃ r m₁, turn (statements n) n s m = (r, m₁) ∧ Halt.Ended r ∧
      (x = ⟨m₁, some (m.read s).after.source, loops⟩ ∨
        statements (n + 1) s m = statements n (m.read s).after.source m₁ ∧
          x ∈ rest loops (m.read s).after.source m₁) := by
  rw [onward] at hx
  split at hx
  · next hturn =>
    obtain ⟨-, -, rfl, -⟩ := turn_eq_some hturn
    exact ⟨_, _, hturn, nofun, .inr ⟨statements_of_some hturn, hx⟩⟩
  · next hturn => exact ⟨_, _, hturn, nofun, .inl (List.mem_singleton.1 hx)⟩
  · cases hx

/-- What holds where a run starts, and is kept by reading, by entering a piece of script and by whole
turns, holds at each moment of the run. -/
theorem forall_moments {Q : Moment σ → Prop}
    (hread : ∀ {m s loops}, Q ⟨m, some s, loops⟩ →
      Q ⟨m.noting (m.read s), some (m.read s).after.source, loops⟩)
    (hinside : ∀ {n m s loops st m₁ s' m'}, Q ⟨m, some s, loops⟩ → Meets m s st m₁ →
      Enters (statements n) n st m₁ s' m' → Q ⟨m', some s', st.loopsIn loops⟩)
    (hturn : ∀ {n m s loops r m'}, Q ⟨m, some s, loops⟩ → (m.read s).first.isFinish = false →
      turn (statements n) n s m = (r, m') → Halt.Ended r →
        Q ⟨m', some (m.read s).after.source, loops⟩)
    (h : Q ⟨m, some s, loops⟩) : ∀ x ∈ moments n loops s m, Q x := by
  induction n generalizing loops s m with
  | zero =>
    intro x hx
    obtain rfl := List.mem_singleton.1 hx
    exact h
  | succ n ih =>
    intro x hx
    rw [moments] at hx
    rcases List.mem_cons.1 hx with rfl | hx
    · exact h
    cases hmore : (m.read s).first.isFinish with
    | true => simp [hmore] at hx
    | false =>
      rw [hmore] at hx
      rcases List.mem_cons.1 hx with rfl | hx
      · exact hread h
      rcases List.mem_append.1 hx with hx | hx
      · obtain ⟨st, m₁, s', m', hmeets, henters, hx⟩ := (mem_inside hmore).1 hx
        exact ih (hinside h hmeets henters) x hx
      · obtain ⟨r, m₁, hrun, hr, rfl | ⟨-, hx⟩⟩ := of_mem_onward hx
        · exact hturn h hmore hrun hr
        · exact ih (hturn h hmore hrun hr) x hx

end Membership

-- ======== sessions

/-- Where the alias for success is run in a test, if the file has ended well. -/
def successStart? [World σ] (fuel : Nat) (path : Path) (m : Machine σ) :
    Option (Source × Machine σ) :=
  match runFile fuel path m with
  | (.ok _, m₁) => m₁.aliasStart? onSuccess {}
  | (.error _, _) => none

/-- Where the alias for failures is run in a test, if it has failed. -/
def failureStart? [World σ] (fuel : Nat) (path : Path) (m : Machine σ) :
    Option (Source × Machine σ) :=
  match (trial fuel path).outcome m with
  | (.ok (.error f), m₁) =>
    match report path f m₁ with
    | (.ok _, m₂) => m₂.aliasStart? onFail {}
    | (.error _, _) => none
  | _ => none

end Machine

/-- The pieces of script that are started for a request, one after the other. -/
def Request.pieces {σ : Type} [World σ] (fuel : Nat) (m : Machine σ) :
    Request → List (Source × Machine σ)
  | .script path =>
    (m.fileStart? path).toList ++
      ((m.successStart? fuel path).toList ++ (m.failureStart? fuel path).toList)
  | request => (request.start? m).toList

/-- A request in a session, and what happens outside before it is made. -/
structure Errand (σ : Type) where
  fuel : Nat
  request : Request
  meanwhile : σ × Disk → σ × Disk := id

namespace Machine

variable {σ : Type} [World σ]

/-- The moments of a session: those of each request, with the machine at rest before it, and the
machine at rest after the last one. Behind a request that has not ended there is none. -/
def history : List (Errand σ) → Machine σ → List (Moment σ)
  | [], m => [⟨m, none, []⟩]
  | ⟨fuel, request, meanwhile⟩ :: session, m =>
    ⟨m, none, []⟩ ::
      ((request.pieces fuel (m.outside meanwhile)).flatMap (fun p => moments fuel [] p.1 p.2) ++
        match request.run fuel (m.outside meanwhile) with
        | (.error .unfinished, _) => []
        | (_, m₁) => history session m₁)

variable {fuel : Nat} {path : Path} {s : Source} {m m' m₁ : Machine σ} {request : Request}
  {errand : Errand σ} {session : List (Errand σ)} {x : Moment σ}

theorem of_successStart? (h : m.successStart? fuel path = some (s, m₁)) :
    ∃ m₂, runFile fuel path m = (.ok (), m₂) ∧ m₂.aliasStart? onSuccess {} = some (s, m₁) := by
  unfold successStart? at h
  split at h
  · next m₂ hfile => exact ⟨m₂, hfile, h⟩
  · cases h

theorem of_failureStart? (h : m.failureStart? fuel path = some (s, m₁)) :
    ∃ f m₂ m₃, (trial fuel path).outcome m = (.ok (.error f), m₂) ∧
      report path f m₂ = (.ok (), m₃) ∧ m₃.aliasStart? onFail {} = some (s, m₁) := by
  unfold failureStart? at h
  split at h
  · next f m₂ htrial =>
    split at h
    · next m₃ hreport => exact ⟨f, m₂, m₃, htrial, hreport, h⟩
    · cases h
  · cases h

theorem mem_pieces : (s, m₁) ∈ request.pieces fuel m ↔ request.Starts fuel m s m₁ := by
  constructor
  · intro hmem
    unfold Request.pieces at hmem
    split at hmem
    · rcases List.mem_append.1 hmem with hmem | hmem
      · exact .script (Option.mem_toList.1 hmem)
      rcases List.mem_append.1 hmem with hmem | hmem
      · obtain ⟨m₂, hfile, hstart⟩ := of_successStart? (Option.mem_toList.1 hmem)
        exact .onSuccess hfile hstart
      · obtain ⟨f, m₂, m₃, htrial, hreport, hstart⟩ := of_failureStart? (Option.mem_toList.1 hmem)
        exact .onFail htrial hreport hstart
    · exact (Request.Decides.start (Option.mem_toList.1 hmem)).starts
  · intro hstarts
    cases hstarts with
    | script hstart => exact List.mem_append_left _ (Option.mem_toList.2 hstart)
    | @onSuccess path _ _ _ _ hfile hstart =>
      have hnext : m.successStart? fuel path = some (s, m₁) := by
        unfold successStart?
        rw [hfile]
        exact hstart
      unfold Request.pieces
      exact List.mem_append_right _ (List.mem_append_left _ (Option.mem_toList.2 hnext))
    | @onFail path _ _ _ _ _ _ htrial hreport hstart =>
      have hnext : m.failureStart? fuel path = some (s, m₁) := by
        unfold failureStart?
        rw [htrial]
        dsimp only
        rw [hreport]
        exact hstart
      unfold Request.pieces
      exact List.mem_append_right _ (List.mem_append_right _ (Option.mem_toList.2 hnext))
    | file hstart | invoke hstart => exact Option.mem_toList.2 hstart
    | text | tokens => exact List.mem_singleton.2 rfl

theorem of_mem_history (hx : x ∈ history (errand :: session) m) :
    x = ⟨m, none, []⟩ ∨
    (∃ s m₁, errand.request.Starts errand.fuel (m.outside errand.meanwhile) s m₁ ∧
      x ∈ moments errand.fuel [] s m₁) ∨
    ∃ r m₁, errand.request.run errand.fuel (m.outside errand.meanwhile) = (r, m₁) ∧
      Halt.Ended r ∧ x ∈ history session m₁ := by
  rcases List.mem_cons.1 hx with rfl | hx
  · exact .inl rfl
  rcases List.mem_append.1 hx with hx | hx
  · obtain ⟨⟨s, m₁⟩, hpiece, hx⟩ := List.mem_flatMap.1 hx
    exact .inr (.inl ⟨s, m₁, mem_pieces.1 hpiece, hx⟩)
  · split at hx
    · cases hx
    · next r m₁ hunfinished hrun =>
      exact .inr (.inr ⟨r, m₁, hrun, hunfinished, hx⟩)

-- ======== guarded

namespace Guard

variable {I : Machine σ → Prop} {P : Machine σ → Source → Prop} {B : Bindings → Prop}
  {T : List Token → Prop} {R : Machine σ → Machine σ → Prop} {L : Machine σ → Block → Prop}

/-- At each moment of a run from a good place the machine and the place are good, and so are the loops
that are being run, if each of them was when it was read. -/
theorem of_moments (hG : Guard I P B T R)
    (hloop : ∀ {m s body m₁}, P m s → Meets m s (.while body) m₁ → L m₁ body)
    (hkept : ∀ {m m' body}, R m m' → L m body → L m' body) {loops : List Block} (h : P m s)
    (hloops : ∀ body ∈ loops, L m body) :
    ∀ x ∈ moments fuel loops s m, x.Satisfies I P L := by
  have hplace : ∀ {m s loops}, P m s → (∀ body ∈ loops, L m body) →
      Moment.Satisfies I P L ⟨m, some s, loops⟩ := by
    intro m s loops h hloops
    refine ⟨hG.machine h, ?_, hloops⟩
    rintro _ ⟨⟩
    exact h
  refine forall_moments (fun {m s loops} hx => ?_)
    (fun {n m s loops st m₁ s' m'} hx hmeets henters => ?_)
    (fun {n m s loops r m'} hx hmore hturn hended => ?_) (hplace h hloops)
  · have h : P m s := hx.place s rfl
    exact hplace (hG.behind h) fun body hbody => hkept (hG.reading h) (hx.loops body hbody)
  · have h : P m s := hx.place s rfl
    have hrun : ∀ {s m}, P m s → Run.KeepsAt R (statements n s) m := hG.statements_keeps
    have hentered : R m₁ m' := hG.toFramed.of_enters hG.entering
      (fun henters => hrun (hG.of_enters h hmeets hrun henters)) henters
    have houter : ∀ body ∈ loops, L m' body := by
      intro body hbody
      refine hkept hentered ?_
      rw [hmeets.noted]
      exact hkept (hG.reading h) (hx.loops body hbody)
    refine hplace (hG.of_enters h hmeets hrun henters) ?_
    cases st with
    | «while» body => exact List.forall_mem_cons.2 ⟨hkept hentered (hloop h hmeets), houter⟩
    | _ => exact houter
  · have h : P m s := hx.place s rfl
    have hdone := hG.of_turn_noting (hG.execute_keeps h hG.statements_keeps) hmore hturn hended
    refine hplace (hG.place hdone (hG.behind h)) fun body hbody => ?_
    exact hkept hdone (hkept (hG.reading h) (hx.loops body hbody))

/-- So it is at each moment of a session. -/
theorem of_history (hG : Guard I P B T R)
    (hloop : ∀ {m s body m₁}, P m s → Meets m s (.while body) m₁ → L m₁ body)
    (hkept : ∀ {m m' body}, R m m' → L m body → L m' body)
    (hadmits : ∀ errand ∈ session, errand.request.Admits T B) (h : I m) :
    ∀ x ∈ history session m, x.Satisfies I P L := by
  have hnone : ∀ {m : Machine σ}, ∀ body ∈ ([] : List Block), L m body :=
    fun _ hbody => absurd hbody List.not_mem_nil
  have hrest : ∀ {m}, I m → Moment.Satisfies I P L ⟨m, none, []⟩ := by
    intro m h
    refine ⟨h, ?_, hnone⟩
    rintro _ ⟨⟩
  induction session generalizing m with
  | nil =>
    intro x hx
    obtain rfl := List.mem_singleton.1 hx
    exact hrest h
  | cons errand session ih =>
    obtain ⟨hhere, hsession⟩ := List.forall_mem_cons.1 hadmits
    have hbefore : I (m.outside errand.meanwhile) := hG.kept (hG.outside ..) h
    intro x hx
    obtain rfl | ⟨s, m₁, hstarts, hx⟩ | ⟨r, m₁, hrun, hended, hx⟩ := of_mem_history hx
    · exact hrest h
    · exact hG.of_moments hloop hkept (hG.of_starts hbefore hhere hstarts) hnone x hx
    · exact ih hsession (hG.kept (hG.request_keeps hbefore hhere hrun hended) hbefore) x hx

end Guard

/-- What every statement keeps, and what is done around them does, holds of a machine at each moment of
a session if it holds at first. -/
theorem Durable.of_history {R : Machine σ → Machine σ → Prop} {I : Machine σ → Prop} (hR : Durable R)
    (hentering : ∀ m name dir, R m (m.entering name dir)) (hst : ∀ st m, KeptAt R st m)
    (hkept : ∀ {m m'}, R m m' → I m → I m') {session : List (Errand σ)} {m : Machine σ} (h : I m) :
    ∀ x ∈ history session m, I x.machine := by
  have hguard : Guard I (fun m _ => I m) (fun _ => True) (fun _ => True) R :=
    { hR with
      machine := id
      kept := hkept
      place := hkept
      entering := hentering
      reading := fun _ => hR.reading _ _
      behind := fun h => hkept (hR.reading _ _) h
      performing := fun _ _ => hst _ _
      text := fun _ _ h => h
      loop := fun h hmeets => hmeets.noted ▸ hkept (hR.reading _ _) h
      arguments := fun _ _ => trivial
      nothing := trivial
      body := fun h _ _ => h
      holding := fun _ _ => hR.holding _ _
      given := fun h _ _ => hkept (hR.holding _ _) h }
  intro x hx
  exact (hguard.of_history (L := fun _ _ => True) (fun _ _ => trivial) (fun _ _ => trivial)
    (fun errand _ => errand.request.admits_all) h x hx).machine

end Machine

end PageScript

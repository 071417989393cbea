/-
What has been done at each moment of a session.

`results` lists the statements of a run in the order in which they have been done, and `moments` the
machines on its way. Here the two are put side by side. A chronicle relates results to the machine that
there is once they have been obtained, and no more of them: each statement that runs no script adds its
result, and all that is done around statements adds nothing. Then at each moment of a session the
chronicle holds of some first part of the results, those that are behind.
-/
import PageScript.Proofs.Machine.Predicates
import PageScript.Proofs.Machine.Test

namespace PageScript

namespace Machine

variable {σ : Type} [World σ]

/-- The results of a session, one after the other. -/
def sessionResults : List (Errand σ) → Machine σ → List (Result σ)
  | [], _ => []
  | ⟨fuel, request, meanwhile⟩ :: session, m =>
    (request.pieces fuel (m.outside meanwhile)).flatMap (fun p => results fuel never p.1 p.2) ++
      match request.run fuel (m.outside meanwhile) with
      | (.error .unfinished, _) => []
      | (_, m₁) => sessionResults session m₁

-- ======== calm

/-- There have been minor calls only, and neither is it another matter now whether a browser is running,
nor which time limit was asked for. -/
structure Calm (m m' : Machine σ) : Prop where
  launched : m'.launched = m.launched
  limit : m'.pageLoadTimeout = m.pageLoadTimeout
  dealings : ∃ new, m'.dealings = new ++ m.dealings ∧ ∀ d ∈ new, d.call.isMinor = true

section Calm

variable {run : Source → Run σ Unit} {limit : Nat} {s : Source} {st : Statement}
  {m m₁ m₂ m' : Machine σ}

omit [World σ] in
theorem Calm.of_same (hlaunched : m'.launched = m.launched)
    (hlimit : m'.pageLoadTimeout = m.pageLoadTimeout) (hdealings : m'.dealings = m.dealings) :
    Calm m m' :=
  ⟨hlaunched, hlimit, [], hdealings, fun _ hd => absurd hd List.not_mem_nil⟩

instance : IsPreorder (Machine σ) Calm where
  refl _ := .of_same rfl rfl rfl
  trans _ _ _ h₁ h₂ := by
    obtain ⟨new₁, hnew₁, hminor₁⟩ := h₁.dealings
    obtain ⟨new₂, hnew₂, hminor₂⟩ := h₂.dealings
    refine ⟨h₂.launched.trans h₁.launched, h₂.limit.trans h₁.limit, new₂ ++ new₁, ?_, fun d hd => ?_⟩
    · rw [hnew₂, hnew₁, List.append_assoc]
    · exact (List.mem_append.1 hd).elim (hminor₂ d) (hminor₁ d)

theorem calm : Tolerant (σ := σ) Calm where
  log _ _ _ := .modify fun _ => .of_same rfl rfl rfl
  aside _ _ _ _ _ _ := .of_same rfl rfl rfl
  ask h := .modifyGet fun _ => ⟨rfl, rfl, [_], rfl, fun _ hd => List.mem_singleton.1 hd ▸ h⟩

/-- A statement is calm, unless it is one of the few that launch a browser, close it, go to a page in it
or set the time limit. -/
theorem execute_calm {r : Except Halt Unit} (hscript : st.runsScript = false)
    (hminor : ∀ command, st = .browser command → command.isMinor = true)
    (hrun : execute run limit st m = (r, m')) (hended : Halt.Ended r) : Calm m m' := by
  have hplain (hisPlain : st.isPlain = true) : Run.Keeps Calm (execute run limit st) :=
    calm.execute (fun _ _ _ => .of_same rfl rfl rfl) hisPlain
      (fun command hst => calm.control (hminor command hst))
      (fun _ _ _ _ hpause => by cases hpause; exact .of_same rfl rfl rfl) run limit
  rcases execute_cases_of (fun hisPlain => (hplain hisPlain).from m) hscript hrun hended with
    h | ⟨-, _, _, _, rfl⟩ | ⟨-, rfl⟩ | ⟨_, -, rfl⟩ | ⟨_, _, -, -, rfl⟩
  · exact h
  all_goals exact .of_same rfl rfl rfl

/-- In a turn, nothing but calm follows the statement that is carried out. -/
theorem turn_calm {r : Except Halt (Option (Statement × Source))} (hmeets : Meets m s st m₁)
    (hturn : turn run limit s m = (r, m')) (hended : Halt.Ended r) :
    ∃ r₁ m₂, execute run limit st m₁ = (r₁, m₂) ∧ Halt.Ended r₁ ∧ Calm m₂ m' := by
  have hdrained {m₂ m₃ : Machine σ} (h : Calm m₂ m₃) : Calm m₂ m₃.drained :=
    trans_of Calm h (calm.drained m₃)
  rcases hexec : execute run limit st m₁ with ⟨(f | _) | ⟨⟩, m₂⟩
  · refine ⟨_, m₂, rfl, by rintro ⟨⟩, ?_⟩
    cases hcaptured : m₁.conditions.capturing && !st.isControl && f.isPredicate with
    | true =>
      rw [turn_of_carryOut hmeets (carryOut_of_captured hexec hcaptured)] at hturn
      cases hturn
      exact hdrained (.of_same rfl rfl rfl)
    | false =>
      rw [turn_of_carryOut_error hmeets (carryOut_of_raised hexec hcaptured)] at hturn
      cases hturn
      exact refl_of Calm _
  · rw [turn_of_carryOut_error hmeets (carryOut_of_unfinished hexec)] at hturn
    cases hturn
    exact absurd rfl hended
  · refine ⟨_, m₂, rfl, Halt.ended_ok _, ?_⟩
    rw [turn_of_carryOut hmeets (carryOut_of_ok hexec)] at hturn
    cases hturn
    refine hdrained ?_
    split
    · exact .of_same rfl rfl rfl
    · exact refl_of Calm m₂

end Calm

-- ======== chronicles

/-- What relates the results so far to the machine that there is now. Calm keeps it, and closing the
browser does. A statement that runs no script is added with its result; one that runs script, and a place
where none can be read, may be added as well. -/
structure Chronicle (J : List (Result σ) → Machine σ → Prop) : Prop where
  calm : ∀ {done m m'}, Calm m m' → J done m → J done m'
  teardown : ∀ {done m r m'}, Machine.teardown m = (r, m') → J done m → J done m'
  performed : ∀ {done run limit st m r m' failure}, st.runsScript = false →
    execute run limit st m = (r, m') → Halt.Ended r → J done m →
      J (done ++ [⟨some st, m, failure, m'⟩]) m'
  beside : ∀ {done x m}, x.statement.all (·.runsScript) = true → J done m → J (done ++ [x]) m

/-- At each of these moments some of the results are behind. -/
def Told (J : List (Result σ) → Machine σ → Prop) (done new : List (Result σ))
    (within : List (Moment σ)) : Prop :=
  ∀ x ∈ within, ∃ now, now <+: new ∧ J (done ++ now) x.machine

/-- An action with such results and such moments: at each of the moments some of the results are behind,
and at its end, if it ends, all of them are. -/
def Tells {α : Type} (J : List (Result σ) → Machine σ → Prop) (new : List (Result σ))
    (within : List (Moment σ)) (x : Run σ α) (m : Machine σ) : Prop :=
  ∀ done, J done m →
    Told J done new within ∧ ∀ r m', x m = (r, m') → Halt.Ended r → J (done ++ new) m'

/-- An action that runs such pieces of script, one after the other. -/
def Recounts {α : Type} (J : List (Result σ) → Machine σ → Prop)
    (rest : Source → Machine σ → List (Result σ)) (places : Source → Machine σ → List (Moment σ))
    (pieces : List (Source × Machine σ)) (x : Run σ α) (m : Machine σ) : Prop :=
  Tells J (pieces.flatMap fun p => rest p.1 p.2) (pieces.flatMap fun p => places p.1 p.2) x m

section Told

variable {J : List (Result σ) → Machine σ → Prop} {done new later : List (Result σ)}
  {within after : List (Moment σ)} {x : Moment σ}

omit [World σ] in
theorem Told.nil : Told J done new [] :=
  fun _ hx => absurd hx List.not_mem_nil

omit [World σ] in
theorem Told.cons (h : J done x.machine) (hwithin : Told J done new within) :
    Told J done new (x :: within) := by
  intro y hy
  rcases List.mem_cons.1 hy with rfl | hy
  · exact ⟨[], List.nil_prefix, by rwa [List.append_nil]⟩
  · exact hwithin y hy

omit [World σ] in
theorem Told.more (h : Told J done new within) : Told J done (new ++ later) within := by
  intro x hx
  obtain ⟨now, hnow, hJ⟩ := h x hx
  exact ⟨now, hnow.trans (List.prefix_append ..), hJ⟩

omit [World σ] in
theorem Told.append (h : Told J done new within) (hlater : Told J (done ++ new) later after) :
    Told J done (new ++ later) (within ++ after) := by
  intro x hx
  rcases List.mem_append.1 hx with hx | hx
  · exact h.more x hx
  · obtain ⟨now, hnow, hJ⟩ := hlater x hx
    refine ⟨new ++ now, (List.prefix_append_right_inj new).2 hnow, ?_⟩
    rwa [← List.append_assoc]

end Told

namespace Tells

variable {α β : Type} {J : List (Result σ) → Machine σ → Prop} {new later : List (Result σ)}
  {within after : List (Moment σ)} {x : Run σ α} {m m₁ : Machine σ}

omit [World σ] in
/-- What neither has results nor comes to any place. -/
theorem of_kept (h : ∀ {done r m'}, x m = (r, m') → Halt.Ended r → J done m → J done m') :
    Tells J [] [] x m := by
  refine fun done hJ => ⟨.nil, fun r m' hx hended => ?_⟩
  rw [List.append_nil]
  exact h hx hended hJ

omit [World σ] in
/-- Two actions one after the other: the second is begun where the first has ended well. -/
theorem bind {f : α → Run σ β} (hx : Tells J new within x m)
    (hok : ∀ {a m₁}, x m = (.ok a, m₁) → Tells J later after (f a) m₁)
    (herror : ∀ {e m₁}, x m = (.error e, m₁) → later = [] ∧ after = []) :
    Tells J (new ++ later) (within ++ after) (x >>= f) m := by
  intro done hJ
  obtain ⟨htold, hends⟩ := hx done hJ
  rcases hrun : x m with ⟨e | a, m₁⟩
  · obtain ⟨rfl, rfl⟩ := herror hrun
    rw [Run.bind_error hrun, List.append_nil, List.append_nil]
    refine ⟨htold, ?_⟩
    rintro _ _ ⟨⟩ hended
    exact hends _ _ hrun (Halt.ended_error.2 (Halt.ended_error.1 hended))
  · obtain ⟨htold', hends'⟩ := hok hrun (done ++ new) (hends _ _ hrun (Halt.ended_ok a))
    rw [Run.bind_ok hrun, ← List.append_assoc]
    exact ⟨htold.append htold', hends'⟩

omit [World σ] in
theorem bind_kept {f : α → Run σ β} (hx : Tells J new within x m)
    (hf : ∀ {a m₁ done r m'}, f a m₁ = (r, m') → Halt.Ended r → J done m₁ → J done m') :
    Tells J new within (x >>= f) m := by
  have h : Tells J (new ++ []) (within ++ []) (x >>= f) m :=
    hx.bind (fun _ => .of_kept hf) fun _ => ⟨rfl, rfl⟩
  rwa [List.append_nil, List.append_nil] at h

omit [World σ] in
theorem outcome (hx : Tells J new within x m) : Tells J new within x.outcome m := by
  refine fun done hJ => ⟨(hx done hJ).1, fun r m' hrun hended => ?_⟩
  obtain ⟨result, -, hxm⟩ := Run.outcome_cases hrun hended
  exact (hx done hJ).2 _ _ hxm (Halt.ended_failed result)

omit [World σ] in
/-- An action that is the same from a later machine on. -/
theorem of_eq {y : Run σ α} (hy : Tells J new within y m₁) (hJ : ∀ {done}, J done m → J done m₁)
    (heq : x m = y m₁) : Tells J new within x m := by
  intro done hm
  obtain ⟨htold, hends⟩ := hy done (hJ hm)
  rw [heq]
  exact ⟨htold, hends⟩

end Tells

omit [World σ] in
theorem Recounts.bind {α β : Type} {J : List (Result σ) → Machine σ → Prop}
    {rest : Source → Machine σ → List (Result σ)} {places : Source → Machine σ → List (Moment σ)}
    {pieces later : List (Source × Machine σ)} {x : Run σ α} {f : α → Run σ β} {m : Machine σ}
    (hx : Recounts J rest places pieces x m)
    (hok : ∀ {a m₁}, x m = (.ok a, m₁) → Recounts J rest places later (f a) m₁)
    (herror : ∀ {e m₁}, x m = (.error e, m₁) → later = []) :
    Recounts J rest places (pieces ++ later) (x >>= f) m := by
  rw [Recounts, List.flatMap_append, List.flatMap_append]
  refine Tells.bind hx hok fun hstops => ?_
  rw [herror hstops]
  exact ⟨rfl, rfl⟩

namespace Chronicle

variable {J : List (Result σ) → Machine σ → Prop} {run : Source → Run σ Unit} {limit n : Nat}
  {new : List (Result σ)} {within : List (Moment σ)} {s : Source} {st : Statement}
  {m m₁ m' : Machine σ}

theorem tells_of_keeps {α : Type} {x : Run σ α} (hJ : Chronicle J) (hx : Run.KeepsAt Calm x m) :
    Tells J [] [] x m :=
  .of_kept fun hrun hended => hJ.calm (hx hrun hended)

theorem inFrame {name : String} {dir : Path} (hJ : Chronicle J)
    (hpiece : Tells J new within (run s) (m.entering name dir)) :
    Tells J new within (Machine.inFrame run name dir s) m := by
  intro done hm
  obtain ⟨htold, hends⟩ := hpiece done (hJ.calm (.of_same (m := m) rfl rfl rfl) hm)
  refine ⟨htold, fun r m' hrun hended => ?_⟩
  obtain ⟨r₁, m₁, hblock, hended₁, rfl⟩ := inFrame_cases hrun hended
  obtain ⟨r₂, m₂, hstatements, hended₂, rfl⟩ := block_cases hblock hended₁
  exact hJ.calm (.of_same (m := m₂) rfl rfl rfl) (hends r₂ m₂ hstatements hended₂)

variable {rest : Source → Machine σ → List (Result σ)} {places : Source → Machine σ → List (Moment σ)}

/-- One piece of script, in a frame of its own. -/
theorem piece {x : Run σ Unit} {name : String} {dir : Path} (hJ : Chronicle J)
    (hpieces : ∀ s m, Tells J (rest s m) (places s m) (run s) m) (hcalm : Calm m m₁)
    (hruns : x m = Machine.inFrame run name dir s m₁) :
    Recounts J rest places [(s, m₁.entering name dir)] x m := by
  rw [Recounts, List.flatMap_singleton, List.flatMap_singleton]
  exact (hJ.inFrame (hpieces s _)).of_eq (hJ.calm hcalm) hruns

/-- The rounds of a loop, one after the other. -/
theorem loop (hJ : Chronicle J) {body : Block}
    (hpieces : ∀ s m, Tells J (rest s m) (places s m) (run s) m) :
    Recounts J rest places ((rounds run body limit m).map (.ofBlock body, ·))
      (Machine.loop run body limit) m := by
  induction limit generalizing m with
  | zero =>
    refine .of_kept fun hrun hended => ?_
    cases hrun
    exact absurd rfl hended
  | succ limit ih =>
    have hround : Tells J (rest (.ofBlock body) m) (places (.ofBlock body) m)
        (block run (.ofBlock body)) m := by
      refine fun done hm => ⟨(hpieces _ m done hm).1, fun r m' hrun hended => ?_⟩
      obtain ⟨r₁, m₁, hstatements, hended₁, rfl⟩ := block_cases hrun hended
      have hends := (hpieces _ m done hm).2 r₁ m₁ hstatements hended₁
      exact hJ.calm (.of_same (m := m₁) rfl rfl rfl) hends
    rw [rounds, List.map_cons, Recounts, List.flatMap_cons, List.flatMap_cons]
    refine hround.outcome.bind (fun {result m₁} hends => ?_) fun {e m₁} hstops => ?_
    · cases result with
      | ok u =>
        rw [Run.eq_of_outcome_ok hends]
        exact ih
      | error f =>
        rw [Run.eq_of_outcome_error hends]
        dsimp only
        split
        · exact hJ.tells_of_keeps (.of_eq rfl (.of_same rfl rfl rfl))
        · exact hJ.tells_of_keeps (.of_eq rfl (refl_of Calm m₁))
    · rcases hblock : block run (.ofBlock body) m with ⟨(f | _) | ⟨⟩, m₂⟩
      · exact ⟨rfl, rfl⟩
      · exact ⟨rfl, rfl⟩
      · rw [Run.outcome_ok hblock] at hstops
        cases hstops

/-- The pieces of script that a statement runs, one after the other. -/
theorem script (hJ : Chronicle J) (hpieces : ∀ s m, Tells J (rest s m) (places s m) (run s) m)
    (limit : Nat) (st : Statement) (hscript : st.runsScript = true) :
    Recounts J rest places (entries run limit st m) (execute run limit st) m := by
  by_cases hloop : ∃ body, st = .while body
  · obtain ⟨body, rfl⟩ := hloop
    rw [execute_while, entries]
    split
    · exact hJ.tells_of_keeps (.of_eq rfl (refl_of Calm m))
    · exact hJ.loop hpieces
  · obtain ⟨hentries, hkeeps, -⟩ | ⟨name, dir, s, m₁, hentries, hruns, hcalm⟩ :=
      script_cases run limit m Machine.calm.log Machine.calm.runProgram hscript
        (not_exists.1 hloop)
    · rw [hentries]
      exact hJ.tells_of_keeps hkeeps
    · rw [hentries]
      exact hJ.piece hpieces hcalm hruns

/-- A statement, with its own result behind those of the pieces of script that it runs. -/
theorem execute (hJ : Chronicle J) (hpieces : ∀ s m, Tells J (rest s m) (places s m) (run s) m) :
    Tells J
      ((entries run limit st m).flatMap (fun p => rest p.1 p.2) ++
        (Result.of? st m (Machine.execute run limit st m)).toList)
      ((entries run limit st m).flatMap fun p => places p.1 p.2) (Machine.execute run limit st) m := by
  have hresult : ∀ (r : Except Halt Unit) (m' : Machine σ), Halt.Ended r →
      ∃ failure, (Result.of? st m (r, m')).toList = [⟨some st, m, failure, m'⟩] := by
    rintro ((f | _) | ⟨⟩) m' hended
    · exact ⟨some f, rfl⟩
    · exact absurd rfl hended
    · exact ⟨none, rfl⟩
  intro done hm
  cases hscript : st.runsScript with
  | false =>
    rw [entries_of_not_runsScript hscript]
    refine ⟨.nil, fun r m' hrun hended => ?_⟩
    obtain ⟨failure, hof⟩ := hresult r m' hended
    rw [hrun, hof]
    exact hJ.performed hscript hrun hended hm
  | true =>
    obtain ⟨htold, hends⟩ := hJ.script hpieces limit st hscript done hm
    refine ⟨htold.more, fun r m' hrun hended => ?_⟩
    obtain ⟨failure, hof⟩ := hresult r m' hended
    rw [hrun, hof, ← List.append_assoc]
    exact hJ.beside hscript (hends r m' hrun hended)

/-- One turn: the place behind what has been read, and what the statement does if it is carried out. -/
theorem turn (hJ : Chronicle J) {mom : List Block → Source → Machine σ → List (Moment σ)}
    (hpieces : ∀ loops s m, Tells J (rest s m) (mom loops s m) (statements n s) m)
    (hmore : (m.read s).first.isFinish = false) (loops : List Block) :
    Tells J (resultsAt rest n s m)
      (⟨m.noting (m.read s), some (m.read s).after.source, loops⟩ :: inside mom n loops s m)
      (Machine.turn (statements n) n s) m := by
  intro done hm
  have hnoted : J done (m.noting (m.read s)) := hJ.calm (.of_same (m := m) rfl rfl rfl) hm
  cases hparsed : (m.read s).parsed with
  | error f =>
    have hnone : m.met? s = none := by rw [met?, hparsed]
    rw [resultsAt_of_error hparsed, inside, hnone, turn_of_error hmore hparsed]
    refine ⟨.cons hnoted .nil, ?_⟩
    rintro _ _ ⟨⟩ -
    exact hJ.beside rfl hnoted
  | ok st =>
    cases hskips : (m.noting (m.read s)).skips st with
    | true =>
      have hnone : m.met? s = none := by
        rw [met?, hparsed]
        exact if_pos hskips
      have hresults : resultsAt rest n s m = [] := by
        rw [resultsAt, hparsed]
        exact if_pos hskips
      rw [hresults, inside, hnone, turn_of_skips hmore hparsed hskips, List.append_nil]
      refine ⟨.cons hnoted .nil, ?_⟩
      rintro _ _ ⟨⟩ -
      exact hnoted
    | false =>
      have hmeets : Meets m s st (m.noting (m.read s)) := ⟨hmore, hparsed, rfl, hskips⟩
      obtain ⟨htold, hends⟩ := hJ.execute (hpieces (st.loopsIn loops)) done hnoted
      rw [resultsAt_of_meets hmeets, inside, (met?_eq_some hmore).2 hmeets]
      refine ⟨.cons hnoted htold, fun r m' hturn hended => ?_⟩
      obtain ⟨r₁, m₂, hexec, hended₁, hcalm⟩ := turn_calm hmeets hturn hended
      exact hJ.calm hcalm (hends r₁ m₂ hexec hended₁)

/-- A run, at each of its moments. The induction is on the fuel, which bounds both the statements and the
depth of pieces in pieces. -/
theorem statements (hJ : Chronicle J) (n : Nat) (loops : List Block) (s : Source) (m : Machine σ) :
    Tells J (results n never s m) (moments n loops s m) (Machine.statements n s) m := by
  induction n generalizing loops s m with
  | zero =>
    refine fun done hm => ⟨.cons hm .nil, fun r m' hrun hended => ?_⟩
    cases hrun
    exact absurd rfl hended
  | succ n ih =>
    intro done hm
    cases hmore : (m.read s).first.isFinish with
    | true =>
      rw [results_of_finish hmore, moments, hmore, statements_of_finish hmore]
      refine ⟨.cons hm .nil, ?_⟩
      rintro _ _ ⟨⟩ -
      rwa [List.append_nil]
    | false =>
      obtain ⟨htold, hends⟩ := hJ.turn ih hmore loops done hm
      rw [results_of_more rfl hmore, moments, hmore, if_neg Bool.false_ne_true, ← List.cons_append]
      unfold resultsBehind onward
      rcases hturn : Machine.turn (Machine.statements n) n s m with ⟨(f | _) | _ | ⟨st, behind⟩, m₁⟩
      · have hlast : Told J (done ++ resultsAt (results n never) n s m) []
            [⟨m₁, some (m.read s).after.source, loops⟩] :=
          .cons (hends _ m₁ hturn (by rintro ⟨⟩)) .nil
        refine ⟨.cons hm (htold.append hlast), ?_⟩
        rw [Machine.statements, Run.bind_error hturn, List.append_nil]
        rintro _ _ ⟨⟩ -
        exact hends _ m₁ hturn (by rintro ⟨⟩)
      · refine ⟨.cons hm (htold.append .nil), ?_⟩
        rw [Machine.statements, Run.bind_error hturn]
        rintro _ _ ⟨⟩ hended
        exact absurd rfl hended
      · rw [turn_eq_none hturn] at hmore
        cases hmore
      · obtain ⟨htold', hends'⟩ := ih loops behind m₁ _ (hends _ m₁ hturn (Halt.ended_ok _))
        rw [statements_of_some hturn, ← List.append_assoc]
        exact ⟨.cons hm (htold.append htold'), hends'⟩

-- ======== requests

section Requests

variable {path : Path} {f : Failure}

/-- An alias that is run if it is there. -/
theorem hook (hJ : Chronicle J) (name : String) :
    Recounts J (results n never) (moments n []) (m.aliasStart? name {}).toList (runHook n name) m := by
  have happly : runHook n name m =
      (if m.aliases.contains name then runAlias n name {} else pure ()) m := rfl
  cases hfound : m.aliases.get? name with
  | some found =>
    have hdefined : m.aliases.contains name = true := by rw [AliasTable.contains, hfound]; rfl
    rw [hdefined, if_pos rfl] at happly
    have halias := hJ.script (hJ.statements n []) (m := m) 0 (.invoke name {}) rfl
    exact halias.of_eq id happly
  | none =>
    have hdefined : m.aliases.contains name = false := by rw [AliasTable.contains, hfound]; rfl
    rw [hdefined, if_neg Bool.false_ne_true] at happly
    rw [aliasStart?, hfound]
    exact hJ.tells_of_keeps (.of_eq happly (refl_of Calm m))

theorem trial (hJ : Chronicle J) :
    Recounts J (results n never) (moments n [])
      ((m.fileStart? path).toList ++ (m.successStart? n path).toList) (Machine.trial n path) m := by
  have hfile : Recounts J (results n never) (moments n []) (m.fileStart? path).toList
      (runFile n path) m :=
    hJ.script (hJ.statements n []) 0 (.includeFile path.text) rfl
  refine hfile.bind (fun {u m₁} hran => ?_) fun {e m₁} hstops => ?_
  · have hstart : m.successStart? n path = m₁.aliasStart? onSuccess {} := by
      unfold successStart?
      rw [hran]
    rw [hstart]
    exact hJ.hook onSuccess
  · unfold successStart?
    rw [hstops]
    rfl

theorem afterFailure (hJ : Chronicle J) (hreport : report path f m = (.ok (), m₁)) :
    Recounts J (results n never) (moments n []) (m₁.aliasStart? onFail {}).toList
      (Machine.afterFailure n path f) m := by
  rw [Machine.afterFailure, ← bind_assoc]
  have hhook := (hJ.hook (n := n) (m := m₁) onFail).outcome
  refine (hhook.bind_kept fun {result m₂ _ _ _} hrun hended => ?_).of_eq
    (hJ.calm (Machine.calm.report path f hreport (Halt.ended_ok _))) (Run.bind_ok hreport)
  refine hJ.calm ?_
  cases result with
  | ok u => exact Run.Keeps.pure _ hrun hended
  | error hook => exact Machine.calm.log _ _ _ hrun hended

theorem runScript (hJ : Chronicle J) :
    Recounts J (results n never) (moments n []) ((Request.script path).pieces n m)
      (Machine.runScript n path) m := by
  have hend : ∀ (result : Except Failure Unit) {m₂ : Machine σ} {done r m'},
      (Machine.teardown >>= fun _ => Run.ofOutcome result) m₂ = (r, m') → J done m₂ → J done m' := by
    intro result m₂ done r m' hrun hm₂
    obtain ⟨m₃, hdown, -⟩ := teardown_apply m₂
    rw [Run.bind_ok hdown] at hrun
    cases result <;> (cases hrun; exact hJ.teardown hdown hm₂)
  rw [Request.pieces, ← List.append_assoc]
  change Recounts J _ _ _ ((Machine.trial n path).outcome >>= _) m
  refine Recounts.bind hJ.trial.outcome (fun {result m₁} htrial => ?_) fun {e m₁} hstops => ?_
  · cases result with
    | ok u =>
      have hstart : m.failureStart? n path = none := by
        unfold failureStart?
        rw [htrial]
      rw [hstart]
      exact .of_kept fun hrun _ => hend (.ok u) hrun
    | error f =>
      obtain ⟨m₂, hreport, -⟩ := report_apply path f m₁
      have hstart : m.failureStart? n path = m₂.aliasStart? onFail {} := by
        unfold failureStart?
        rw [htrial]
        dsimp only
        rw [hreport]
      rw [hstart]
      exact (hJ.afterFailure hreport).bind_kept fun hrun _ => hend (.error f) hrun
  · unfold failureStart?
    rw [hstops]
    rfl

/-- A request, with the pieces of script that are started for it. -/
theorem request (hJ : Chronicle J) (n : Nat) (request : Request) (m : Machine σ) :
    Recounts J (results n never) (moments n []) (request.pieces n m) (request.run n) m := by
  have hpieces := hJ.statements n []
  cases request with
  | file path => exact hJ.script hpieces 0 (.includeFile path.text) rfl
  | invoke name bindings => exact hJ.script hpieces 0 (.invoke name bindings) rfl
  | script path => exact hJ.runScript
  | close => exact .of_kept fun hrun _ => hJ.teardown hrun
  | text content name dir => exact hJ.piece hpieces (refl_of Calm m) rfl
  | tokens given bindings =>
    have hheld : Calm m (m.holding given) := .of_same rfl rfl rfl
    exact hJ.piece hpieces hheld rfl

/-- A session: at each of its moments some of its results are behind. -/
theorem history (hJ : Chronicle J) (session : List (Errand σ)) {done : List (Result σ)} {m : Machine σ}
    (hm : J done m) : Told J done (sessionResults session m) (Machine.history session m) := by
  induction session generalizing done m with
  | nil => exact .cons hm .nil
  | cons errand session ih =>
    obtain ⟨fuel, request, meanwhile⟩ := errand
    have houtside : J done (m.outside meanwhile) := hJ.calm (.of_same (m := m) rfl rfl rfl) hm
    obtain ⟨htold, hends⟩ := hJ.request fuel request (m.outside meanwhile) done houtside
    rw [sessionResults, Machine.history]
    refine .cons hm (htold.append ?_)
    rcases hrun : request.run fuel (m.outside meanwhile) with ⟨(f | _) | ⟨⟩, m₁⟩
    · exact ih (hends _ m₁ hrun (by rintro ⟨⟩))
    · exact .nil
    · exact ih (hends _ m₁ hrun (Halt.ended_ok _))

end Requests

end Chronicle

end Machine

end PageScript

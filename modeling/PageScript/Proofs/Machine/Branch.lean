/-
A skipped branch, through whatever pieces of script.

The `then` of a conditional need not stand in the same piece of script as its `if`: an alias may hold
only the `then`, and the branch goes on behind its use. So the stations of a run are listed here in the
order of time, those within a statement in front of those behind it. From an inert station a run gets to
the next one with no effect, also where that lies in another piece of script, for a piece that ends well
there leaves nothing to be done but to drain the console. And if a run stops at an inert station, then at
a fault of the script, which is no outcome of a predicate and ends no loop; so it has failed as a whole.

In a skipped branch all stations are inert. It is a stretch of the list, and the words of conditionals on
it tell where it ends.
-/
import Mathlib.Data.List.Chain
import PageScript.Proofs.Machine.History
import PageScript.Proofs.Machine.Skipped

namespace PageScript

/-- Whether a statement is a loop. -/
def Statement.isLoop : Statement → Bool
  | .while _ => true
  | _ => false

namespace Failure

variable {f g : Failure}

theorem Carried.isSyntax_eq (h : f.Carried g) : g.isSyntax = f.isSyntax := by
  rw [isSyntax, isSyntax, h.error]

/-- A fault of the script is no outcome of a predicate. -/
theorem isPredicate_of_isSyntax (h : f.isSyntax = true) : f.isPredicate = false := by
  rw [isSyntax] at h
  split at h
  · next hfault => rw [isPredicate, isRetryable, hfault, Bool.false_or]
  · cases h

end Failure

namespace Machine

variable {σ : Type}

-- ======== stations

/-- A station of a run: a place to which it comes, and the machine there. Of the piece of script in which
the place lies it is known whether it is the body of a loop. -/
structure Station (σ : Type) where
  source : Source
  machine : Machine σ
  inLoop : Bool

namespace Station

/-- Whether the piece of script ends at a station. -/
def atEnd (p : Station σ) : Bool :=
  (p.machine.read p.source).first.isFinish

/-- The word of a conditional at a station, if the next statement is one. -/
def word? (p : Station σ) : Option Control :=
  if p.atEnd then none
  else
    match (p.machine.read p.source).parsed with
    | .ok st => st.word?
    | .error _ => none

/-- Whether the run leaves an inert station with a statement after which the console may be drained: a
word of a conditional, or the statement that has run the piece of script which ends here. The rounds of a
loop are no statements. -/
def drains (p : Station σ) : Bool :=
  p.word?.isSome || (p.atEnd && !p.inLoop)

/-- Whatever is carried out at a station is a word of a conditional. -/
def Inert (p : Station σ) : Prop :=
  Machine.Inert p.machine p.source

/-- With no effect, a run gets from one station to another. The open conditionals are as the word has
left them, if there is one. -/
structure Leads (p q : Station σ) : Prop where
  untouched : Untouched (p.machine.autoLog && p.drains).toNat p.machine q.machine
  obeyed : ∀ word, p.word? = some word → word.act p.machine.conditions = .ok q.machine.conditions
  kept : p.word? = none → q.machine.conditions = p.machine.conditions

variable {p q : Station σ}

theorem word?_of_atEnd (h : p.atEnd = true) : p.word? = none := by
  rw [word?, if_pos h]

theorem word?_eq {st : Statement} (hmore : (p.machine.read p.source).first.isFinish = false)
    (hparsed : (p.machine.read p.source).parsed = .ok st) : p.word? = st.word? := by
  rw [word?, atEnd, hmore, hparsed]
  rfl

theorem word?_eq_some {word : Control} (h : p.word? = some word) :
    p.atEnd = false ∧ (p.machine.read p.source).parsed = .ok (.control word) := by
  cases hend : p.atEnd with
  | true =>
    rw [word?_of_atEnd hend] at h
    cases h
  | false =>
    refine ⟨rfl, ?_⟩
    cases hparsed : (p.machine.read p.source).parsed with
    | error f =>
      rw [word?, hend, hparsed] at h
      cases h
    | ok st =>
      rw [word?_eq hend hparsed] at h
      cases hst : st.isControl with
      | true =>
        obtain ⟨word', rfl⟩ := Statement.exists_word hst
        cases h
        rfl
      | false =>
        rw [Statement.word?_eq_none hst] at h
        cases h

theorem drains_of_atEnd (h : p.atEnd = true) : p.drains = !p.inLoop := by
  rw [drains, word?_of_atEnd h, h]
  rfl

/-- From the end of a piece of script there is no word on the way. -/
theorem Leads.of_atEnd (hend : p.atEnd = true)
    (huntouched : Untouched (p.machine.autoLog && !p.inLoop).toNat p.machine q.machine)
    (hconditions : q.machine.conditions = p.machine.conditions) : p.Leads q := by
  have hnone := word?_of_atEnd hend
  refine ⟨?_, fun word hword => ?_, fun _ => hconditions⟩
  · rwa [drains_of_atEnd hend]
  · cases hnone.symm.trans hword

theorem inert_of_atEnd (h : p.atEnd = true) : p.Inert := by
  intro st m₁ hmeets
  cases h.symm.trans hmeets.more

theorem inert_of_word? {word : Control} (h : p.word? = some word) : p.Inert := by
  intro st m₁ hmeets
  cases hmeets.parsed.symm.trans (word?_eq_some h).2
  rfl

end Station

section Stations

variable [World σ]

/-- The stations within the statement at a place, if `rest` gives those of pieces of script. -/
def stationsWithin (rest : Bool → Source → Machine σ → List (Station σ)) (n : Nat) (s : Source)
    (m : Machine σ) : List (Station σ) :=
  match m.met? s with
  | some st =>
    (entries (statements n) n st (m.noting (m.read s))).flatMap fun e => rest st.isLoop e.1 e.2
  | none => []

/-- The stations behind the statement at a place, if `rest` gives those of runs. -/
def stationsBehind (rest : Bool → Source → Machine σ → List (Station σ)) (n : Nat) (inLoop : Bool)
    (s : Source) (m : Machine σ) : List (Station σ) :=
  match turn (statements n) n s m with
  | (.ok (some (_, behind)), m₁) => rest inLoop behind m₁
  | _ => []

/-- The stations of a run, in the order of time. -/
def stations : (fuel : Nat) → (inLoop : Bool) → Source → Machine σ → List (Station σ)
  | 0, inLoop, s, m => [⟨s, m, inLoop⟩]
  | n + 1, inLoop, s, m =>
    ⟨s, m, inLoop⟩ ::
      if (m.read s).first.isFinish then []
      else stationsWithin (stations n) n s m ++ stationsBehind (stations n) n inLoop s m

end Stations

-- ======== ends

/-- How a run ends whose last station is inert. If it ends well, then at the end of its piece of script.
If it fails, then by a fault of the script, which may be a word that cannot be obeyed. Nothing else has
been done. -/
inductive Ends (inLoop : Bool) (p : Station σ) : Except Halt Unit → Machine σ → Prop
  | well {m' : Machine σ} : p.atEnd = true → p.inLoop = inLoop → Untouched 0 p.machine m' →
      m'.conditions = p.machine.conditions → Ends inLoop p (.ok ()) m'
  | badly {f : Failure} {m' : Machine σ} : f.isSyntax = true →
      (∀ word c, p.word? = some word → word.act p.machine.conditions ≠ .ok c) →
      Untouched 0 p.machine m' → Ends inLoop p (.error (.failed f)) m'
  | unfinished {m' : Machine σ} : Ends inLoop p (.error .unfinished) m'

section Ends

variable {p q : Station σ} {inLoop : Bool} {run : Source → Run σ Unit} {n limit : Nat} {s : Source}
  {m m' m₁ : Machine σ} {st : Statement} {r : Except Halt Unit}

theorem Untouched.closing (m : Machine σ) (depth : Nat) : Untouched 0 m (m.closing depth) := by
  constructor <;> rfl

theorem Untouched.leaving (m : Machine σ) : Untouched 0 m m.leaving := by
  constructor <;> rfl

/-- The end of a block changes nothing, or is a fault itself. -/
theorem Ends.block (h : Ends inLoop p (run s m).1 (run s m).2) :
    Ends inLoop p (block run s m).1 (block run s m).2 := by
  rw [block_apply]
  rcases hrun : run s m with ⟨r, m'⟩
  rw [hrun] at h
  cases h with
  | well hend hloop huntouched hconditions =>
    rw [blockEnd]
    split
    · refine .badly rfl (fun word c hword => ?_) (huntouched.trans (.closing ..))
      rw [Station.word?_of_atEnd hend] at hword
      cases hword
    · next hclosed =>
      refine .well hend hloop (huntouched.trans (.closing ..)) ?_
      rw [← hconditions]
      exact ConditionStack.truncate_of_le (Nat.le_of_not_lt hclosed)
  | badly hsyntax hword huntouched =>
    exact .badly hsyntax hword (huntouched.trans (.closing ..))
  | unfinished => exact .unfinished

/-- So does the end of a frame. -/
theorem Ends.inFrame {name : String} {dir : Path}
    (h : Ends inLoop p (run s (m.entering name dir)).1 (run s (m.entering name dir)).2) :
    Ends inLoop p (inFrame run name dir s m).1 (inFrame run name dir s m).2 := by
  have hblock := h.block
  rw [inFrame_apply]
  rcases hrun : Machine.block run s (m.entering name dir) with ⟨r, m'⟩
  rw [hrun] at hblock
  cases hblock with
  | well hend hloop huntouched hconditions =>
    exact .well hend hloop (huntouched.trans (.leaving _)) hconditions
  | badly hsyntax hword huntouched =>
    refine .badly ?_ hword (huntouched.trans (.leaving _))
    exact (Failure.Carried.withTrace ..).isSyntax_eq.trans hsyntax
  | unfinished => exact .unfinished

variable [World σ]

/-- A statement that runs pieces of script runs one in a frame, or is a loop. -/
theorem entries_cases (run : Source → Run σ Unit) (limit : Nat) (st : Statement) (m : Machine σ) :
    entries run limit st m = [] ∨
    (∃ name dir s m₁, st.isLoop = false ∧ entries run limit st m = [(s, m₁.entering name dir)] ∧
      execute run limit st m = inFrame run name dir s m₁) ∨
    ∃ body, st = .while body ∧
      entries run limit st m = (rounds run body limit m).map (.ofBlock body, ·) ∧
      execute run limit st m = loop run body limit m := by
  cases hscript : st.runsScript with
  | false => exact .inl (entries_of_not_runsScript hscript)
  | true =>
    cases hloop : st.isLoop with
    | true =>
      cases st with
      | «while» body =>
        rw [entries, execute_while]
        cases body.span.isEmpty with
        | true => exact .inl rfl
        | false => exact .inr (.inr ⟨body, rfl, rfl, rfl⟩)
      | _ => cases hloop
    | false =>
      have hnever : ∀ body, st ≠ .while body := by
        rintro body rfl
        cases hloop
      have hcases := script_cases run limit m discreet.log discreet.runProgram hscript hnever
      obtain ⟨hentries, -⟩ | ⟨name, dir, s, m₁, hentries, hruns, -⟩ := hcases
      · exact .inl hentries
      · exact .inr (.inl ⟨name, dir, s, m₁, rfl, hentries, hruns⟩)

theorem head?_stations (n : Nat) (inLoop : Bool) (s : Source) (m : Machine σ) :
    (stations n inLoop s m).head? = some ⟨s, m, inLoop⟩ := by
  cases n <;> rfl

theorem stations_ne_nil (n : Nat) (inLoop : Bool) (s : Source) (m : Machine σ) :
    stations n inLoop s m ≠ [] := by
  cases n <;> exact List.cons_ne_nil _ _

/-- Runs with some fuel, if their last station is inert, end as they should there. -/
def EndThere (σ : Type) [World σ] (n : Nat) : Prop :=
  ∀ ⦃inLoop : Bool⦄ ⦃s : Source⦄ ⦃m : Machine σ⦄ ⦃p : Station σ⦄,
    p ∈ (stations n inLoop s m).getLast? → p.Inert →
      Ends inLoop p (statements n s m).1 (statements n s m).2

/-- The stations of the rounds of a loop. -/
def stationsOfRounds (n : Nat) (body : Block) (limit : Nat) (m : Machine σ) : List (Station σ) :=
  (rounds (statements n) body limit m).flatMap fun m₁ => stations n true (.ofBlock body) m₁

theorem stationsOfRounds_of_ok {body : Block}
    (h : block (statements n) (.ofBlock body) m = (.ok (), m₁)) :
    stationsOfRounds n body (limit + 1) m =
      stations n true (.ofBlock body) m ++ stationsOfRounds n body limit m₁ := by
  rw [stationsOfRounds, rounds, List.flatMap_cons, h]
  rfl

theorem stationsOfRounds_of_error {body : Block} {e : Halt}
    (h : block (statements n) (.ofBlock body) m = (.error e, m₁)) :
    stationsOfRounds n body (limit + 1) m = stations n true (.ofBlock body) m := by
  rw [stationsOfRounds, rounds, List.flatMap_cons, h]
  exact List.append_nil _

/-- A loop does not end in the ordinary way at an inert station: what fails there is no outcome. -/
theorem loop_ends {body : Block} (hthere : EndThere σ n)
    (hlast : p ∈ (stationsOfRounds n body limit m).getLast?) (hinert : p.Inert) :
    Ends false p (loop (statements n) body limit m).1 (loop (statements n) body limit m).2 := by
  induction limit generalizing m with
  | zero => cases hlast
  | succ limit ih =>
    rcases hblock : block (statements n) (.ofBlock body) m with ⟨(f | _) | ⟨⟩, m₁⟩
    · rw [stationsOfRounds_of_error hblock] at hlast
      have hends := (hthere hlast hinert).block
      rw [hblock] at hends
      rw [loop_of_failed hblock]
      cases hends with
      | badly hsyntax hword huntouched =>
        rw [Failure.endsLoop, hsyntax]
        exact .badly hsyntax hword huntouched
    · rw [loop, Run.bind_error (Run.outcome_unfinished hblock)]
      exact .unfinished
    · rw [loop_of_ok hblock]
      rw [stationsOfRounds_of_ok hblock, List.getLast?_append] at hlast
      rcases hrest : (stationsOfRounds n body limit m₁).getLast? with _ | q
      · -- no round follows, which means that the fuel is used up
        cases limit with
        | zero => exact .unfinished
        | succ limit =>
          rw [List.getLast?_eq_none_iff, stationsOfRounds, rounds, List.flatMap_cons,
            List.append_eq_nil_iff] at hrest
          exact absurd hrest.1 (stations_ne_nil n true _ m₁)
      · rw [hrest] at hlast
        exact ih (hrest.trans hlast)

theorem execute_ends (hthere : EndThere σ n)
    (hlast : p ∈ ((entries (statements n) n st m).flatMap fun e =>
      stations n st.isLoop e.1 e.2).getLast?) (hinert : p.Inert) :
    Ends false p (execute (statements n) n st m).1 (execute (statements n) n st m).2 := by
  obtain hnone | ⟨name, dir, s, m₁, hloop, hentries, hexec⟩ | ⟨body, rfl, hentries, hexec⟩ :=
    entries_cases (statements n) n st m
  · rw [hnone] at hlast
    cases hlast
  · rw [hentries, List.flatMap_singleton, hloop] at hlast
    rw [hexec]
    exact (hthere hlast hinert).inFrame
  · rw [hentries, List.flatMap_map] at hlast
    rw [hexec]
    exact loop_ends hthere hlast hinert

/-- If the last station within a statement is inert, then the turn goes on behind it, and has drained the
console at most, or it fails. -/
theorem turn_ends (hthere : EndThere σ n) (hmore : (m.read s).first.isFinish = false)
    (hlast : p ∈ (stationsWithin (stations n) n s m).getLast?) (hinert : p.Inert) :
    (∃ st m', turn (statements n) n s m = (.ok (some (st, (m.read s).after.source)), m') ∧
      ∀ inLoop, p.Leads ⟨(m.read s).after.source, m', inLoop⟩) ∨
    ∃ e m', turn (statements n) n s m = (.error e, m') ∧ ∀ inLoop, Ends inLoop p (.error e) m' := by
  rw [stationsWithin] at hlast
  split at hlast
  · next st hmet =>
    have hmeets := (met?_eq_some hmore).1 hmet
    have hends := execute_ends hthere hlast hinert
    rcases hexec : execute (statements n) n st (m.noting (m.read s)) with ⟨r, m₁⟩
    rw [hexec] at hends
    cases hends with
    | well hend hloop huntouched hconditions =>
      -- what is recorded for a predicate is that it holds
      have hrecorded : ∀ capturing : Bool, (if capturing then
          { m₁ with conditions := m₁.conditions.record true } else m₁) = m₁ := by
        rintro (_ | _)
        · rfl
        · rw [if_pos rfl, ConditionStack.record_true]
      have hturn := turn_of_carryOut hmeets (carryOut_of_ok hexec)
      rw [hrecorded] at hturn
      refine .inl ⟨st, _, hturn, fun inLoop => .of_atEnd hend ?_ ?_⟩
      · have hdrained := huntouched.trans (.drained m₁)
        rw [hloop, Bool.not_false, Bool.and_true]
        rwa [Nat.zero_add, huntouched.autoLog] at hdrained
      · exact (drained_conditions m₁).trans hconditions
    | @badly f _ hsyntax hword huntouched =>
      have hraised : (((m.noting (m.read s)).conditions.capturing && !st.isControl) && f.isPredicate) =
          false := by
        rw [Failure.isPredicate_of_isSyntax hsyntax, Bool.and_false]
      have hturn := turn_of_carryOut_error hmeets (carryOut_of_raised hexec hraised)
      refine .inr ⟨_, _, hturn, fun inLoop => .badly ?_ hword huntouched⟩
      exact (Failure.Carried.withToken ..).isSyntax_eq.trans hsyntax
    | unfinished =>
      have hturn := turn_of_carryOut_error hmeets (carryOut_of_unfinished hexec)
      exact .inr ⟨_, _, hturn, fun _ => .unfinished⟩
  · cases hlast

theorem stationsBehind_of_some {st : Statement} {s₁ : Source}
    (h : turn (statements n) n s m = (.ok (some (st, s₁)), m₁)) :
    stationsBehind (stations n) n inLoop s m = stations n inLoop s₁ m₁ := by
  rw [stationsBehind, h]

theorem stationsBehind_of_error {e : Halt}
    (h : turn (statements n) n s m = (.error e, m₁)) :
    stationsBehind (stations n) n inLoop s m = [] := by
  rw [stationsBehind, h]

/-- A turn at an inert station that stops is the end of the run. -/
theorem Idles.ends {e : Halt} (h : Idles s m (.error e) m') :
    Ends inLoop ⟨s, m, inLoop⟩ (.error e) m' := by
  cases h with
  | unreadable hmore hparsed =>
    obtain ⟨fault, t, rfl⟩ := read_eq_error hparsed
    refine .badly rfl (fun word c hword => ?_) (.noting m _ m.conditions)
    cases (Station.word?_eq_some hword).2.symm.trans hparsed
  | refuse hmore hparsed hact =>
    refine .badly rfl (fun word c hword => ?_) (.noting m _ m.conditions)
    cases (Station.word?_eq_some hword).2.symm.trans hparsed
    rw [hact]
    rintro ⟨⟩

/-- The induction is on the fuel: the last station of a run is that of what follows its first turn, or
lies within that turn, which then fails. -/
theorem endThere (n : Nat) : EndThere σ n := by
  induction n with
  | zero => exact fun _ _ _ _ _ _ => .unfinished
  | succ n ih =>
    intro inLoop s m p hlast hinert
    cases hmore : (m.read s).first.isFinish with
    | true =>
      rw [stations, hmore] at hlast
      cases hlast
      rw [statements_of_finish hmore]
      exact .well hmore rfl (.refl m) rfl
    | false =>
      rw [stations, hmore] at hlast
      rcases hturn : turn (statements n) n s m with ⟨e | _ | ⟨st, s₁⟩, m₁⟩
      · rw [statements, Run.bind_error hturn]
        rw [stationsBehind_of_error hturn] at hlast
        rcases hwithin : (stationsWithin (stations n) n s m).getLast? with _ | q
        · rw [List.getLast?_eq_none_iff] at hwithin
          rw [hwithin] at hlast
          cases hlast
          exact (hinert.idles hturn).ends
        · have hq : q = p := by simpa [List.getLast?_cons, hwithin] using hlast
          subst hq
          obtain ⟨st, m', hok, -⟩ | ⟨e', m', herror, hends⟩ := turn_ends ih hmore hwithin hinert
          · cases hturn.symm.trans hok
          · cases hturn.symm.trans herror
            exact hends inLoop
      · cases (turn_eq_none hturn).symm.trans hmore
      · rw [statements_of_some hturn]
        rw [stationsBehind_of_some hturn] at hlast
        refine ih ?_ hinert
        rcases hrest : (stations n inLoop s₁ m₁).getLast? with _ | q
        · exact absurd (List.getLast?_eq_none_iff.1 hrest) (stations_ne_nil n inLoop s₁ m₁)
        · simpa [List.getLast?_cons, List.getLast?_append, hrest] using hlast

end Ends

-- ======== steps

section Steps

variable [World σ] {p q : Station σ} {inLoop : Bool} {n limit : Nat} {s s₁ : Source}
  {m m₁ : Machine σ} {st : Statement}

/-- Nothing lies within a word of a conditional, or within what is passed over. -/
theorem stationsWithin_of_inert (hmore : (m.read s).first.isFinish = false) (h : Inert m s) :
    stationsWithin (stations n) n s m = [] := by
  rw [stationsWithin]
  split
  · next st hmet =>
    obtain ⟨word, rfl⟩ := Statement.exists_word (h ((met?_eq_some hmore).1 hmet))
    rw [entries_of_not_runsScript rfl, List.flatMap_nil]
  · rfl

/-- A turn at an inert station that goes on leads to the next one. -/
theorem Idles.leads {inLoop inLoop' : Bool} (h : Idles s m (.ok (some (st, s₁))) m₁) :
    Station.Leads ⟨s, m, inLoop⟩ ⟨s₁, m₁, inLoop'⟩ := by
  cases h with
  | pass hmore hparsed hst =>
    have hword : Station.word? ⟨s, m, inLoop⟩ = none :=
      (Station.word?_eq hmore hparsed).trans (Statement.word?_eq_none hst)
    refine ⟨?_, fun word h => ?_, fun _ => rfl⟩
    · have hdrains : Station.drains ⟨s, m, inLoop⟩ = false := by
        rw [Station.drains, hword, Station.atEnd, hmore]
        rfl
      rw [hdrains, Bool.and_false]
      exact .noting m _ m.conditions
    · rw [hword] at h
      cases h
  | @obey word c hmore hparsed hact =>
    have hword : Station.word? ⟨s, m, inLoop⟩ = some word :=
      (Station.word?_eq hmore hparsed).trans rfl
    refine ⟨?_, fun word' h => ?_, fun h => ?_⟩
    · have hdrains : Station.drains ⟨s, m, inLoop⟩ = true := by
        rw [Station.drains, hword]
        rfl
      rw [hdrains, Bool.and_true]
      exact .obeying ..
    · cases hword.symm.trans h
      rw [hact, drained_conditions]
    · cases hword.symm.trans h

/-- From an inert station a run gets to the next one with no effect. -/
def Steps (p q : Station σ) : Prop :=
  p.Inert → p.Leads q

theorem steps_of_rounds {body : Block}
    (hround : ∀ m, List.IsChain Steps (stations (σ := σ) n true (.ofBlock body) m)) :
    List.IsChain Steps (stationsOfRounds n body limit m) := by
  induction limit generalizing m with
  | zero => exact .nil
  | succ limit ih =>
    rcases hblock : block (statements n) (.ofBlock body) m with ⟨e | ⟨⟩, m₁⟩
    · rw [stationsOfRounds_of_error hblock]
      exact hround m
    · rw [stationsOfRounds_of_ok hblock]
      refine (hround m).append ih fun p hlast q hfirst hinert => ?_
      have hends := (endThere n hlast hinert).block
      rw [hblock] at hends
      cases limit with
      | zero => cases hfirst
      | succ limit =>
        rw [stationsOfRounds, rounds, List.flatMap_cons, List.head?_append, head?_stations] at hfirst
        cases hfirst
        cases hends with
        | well hend hloop huntouched hconditions =>
          refine .of_atEnd hend ?_ hconditions
          rwa [hloop, Bool.not_true, Bool.and_false]

theorem stations_steps (n : Nat) (inLoop : Bool) (s : Source) (m : Machine σ) :
    List.IsChain Steps (stations n inLoop s m) := by
  induction n generalizing inLoop s m with
  | zero => exact .singleton _
  | succ n ih =>
    rw [stations]
    cases hmore : (m.read s).first.isFinish with
    | true => exact .singleton _
    | false =>
      have hwithin : List.IsChain Steps (stationsWithin (stations n) n s m) := by
        rw [stationsWithin]
        split
        · next st hmet =>
          obtain hnone | ⟨name, dir, s₁, m₁, hloop, hentries, -⟩ | ⟨body, rfl, hentries, -⟩ :=
            entries_cases (statements n) n st (m.noting (m.read s))
          · rw [hnone]
            exact .nil
          · rw [hentries, List.flatMap_singleton]
            exact ih ..
          · rw [hentries, List.flatMap_map]
            exact steps_of_rounds fun m => ih ..
        · exact .nil
      rcases hturn : turn (statements n) n s m with ⟨e | _ | ⟨st, s₁⟩, m₁⟩
      · rw [stationsBehind_of_error hturn, List.append_nil]
        refine hwithin.cons fun q hfirst hinert => ?_
        rw [stationsWithin_of_inert hmore hinert] at hfirst
        cases hfirst
      · cases (turn_eq_none hturn).symm.trans hmore
      · rw [stationsBehind_of_some hturn]
        refine (hwithin.append (ih ..) fun p hlast q hfirst hinert => ?_).cons fun q hfirst hinert => ?_
        · rw [head?_stations] at hfirst
          cases hfirst
          obtain ⟨st', m', hok, hleads⟩ | ⟨e, m', herror, -⟩ :=
            turn_ends (endThere n) hmore hlast hinert
          · cases hturn.symm.trans hok
            exact hleads inLoop
          · cases hturn.symm.trans herror
        · rw [stationsWithin_of_inert hmore hinert, List.nil_append, head?_stations] at hfirst
          cases hfirst
          exact (hinert.idles hturn).leads

end Steps

-- ======== branch

section Branch

variable [World σ] {n d : Nat} {inLoop : Bool} {s : Source} {m : Machine σ} {x y : Station σ}
  {before legs rest : List (Station σ)} {top : Pending} {below : List Pending} {phases : List Phase}

/-- How often the console is drained along inert stations, if it is so after statements. -/
def drainsAlong (autoLog : Bool) (passed : List (Station σ)) : Nat :=
  autoLog.toNat * passed.countP (·.drains)

omit [World σ] in
theorem drainsAlong_cons (autoLog : Bool) (p : Station σ) (legs : List (Station σ)) :
    drainsAlong autoLog (p :: legs) = (autoLog && p.drains).toNat + drainsAlong autoLog legs := by
  rw [drainsAlong, drainsAlong, List.countP_cons]
  cases autoLog with
  | false => simp
  | true => cases p.drains <;> simp [Nat.add_comm]

omit [World σ] in
/-- Along inert stations there is no effect but that the console is drained. -/
theorem untouched_along (hsteps : List.IsChain Steps (x :: (legs ++ y :: rest)))
    (hinert : ∀ p ∈ x :: legs, p.Inert) :
    Untouched (drainsAlong x.machine.autoLog (x :: legs)) x.machine y.machine := by
  rw [drainsAlong_cons]
  induction legs generalizing x with
  | nil => exact ((List.isChain_cons_cons.1 hsteps).1 (hinert x List.mem_cons_self)).untouched
  | cons p legs ih =>
    obtain ⟨hstep, hsteps⟩ := List.isChain_cons_cons.1 hsteps
    have hfirst := (hstep (hinert x List.mem_cons_self)).untouched
    have hrest := ih hsteps fun q hq => hinert q (List.mem_cons_of_mem _ hq)
    rw [← drainsAlong_cons, hfirst.autoLog] at hrest
    exact hfirst.trans hrest

omit [World σ] in
/-- Along stations at which pieces of script end, the open conditionals stay as they are. -/
theorem conditions_along (hsteps : List.IsChain Steps (legs ++ y :: rest))
    (hends : ∀ p ∈ legs, p.atEnd = true) :
    ∀ p ∈ (legs ++ y :: rest).head?, y.machine.conditions = p.machine.conditions := by
  induction legs with
  | nil =>
    rintro p ⟨⟩
    rfl
  | cons p legs ih =>
    rintro _ ⟨⟩
    obtain ⟨hstep, hsteps⟩ := List.isChain_cons.1 hsteps
    have hend := hends p List.mem_cons_self
    have hrest := ih hsteps fun q hq => hends q (List.mem_cons_of_mem _ hq)
    cases hnext : (legs ++ y :: rest).head? with
    | none => cases legs <;> cases hnext
    | some q =>
      have hleads := hstep q hnext (Station.inert_of_atEnd hend)
      rw [hrest q hnext, hleads.kept (Station.word?_of_atEnd hend)]

omit [World σ] in
/-- A stretch of stations that starts in a skipped branch and does not pass its `endif` stays in it. The
induction is along the stretch, with the depth counted on it. -/
theorem skipped_along (hsteps : List.IsChain Steps (legs ++ y :: rest))
    (hbranch : ∀ p ∈ (legs ++ y :: rest).head?, Skipped below phases p.machine.conditions.entries)
    (hopen : (legs.map (·.word?)).foldlM openAfter phases.length = some d) :
    (∀ p ∈ legs, p.Inert) ∧
      ∃ phases', phases'.length = d ∧ Skipped below phases' y.machine.conditions.entries := by
  induction legs generalizing phases with
  | nil =>
    cases hopen
    exact ⟨fun p hp => absurd hp List.not_mem_nil, phases, rfl, hbranch y rfl⟩
  | cons p legs ih =>
    rw [List.map_cons, List.foldlM_cons] at hopen
    obtain ⟨d₁, hd₁, hopen⟩ := Option.bind_eq_some_iff.1 hopen
    obtain ⟨hstep, hsteps⟩ := List.isChain_cons.1 hsteps
    have hhere : Skipped below phases p.machine.conditions.entries := hbranch p rfl
    have hinert : p.Inert := inert_of_skipping hhere.skipping
    -- the next station is in the branch, by the word at this one
    have hnext : ∃ phases', phases'.length = d₁ ∧
        ∀ q ∈ (legs ++ y :: rest).head?, Skipped below phases' q.machine.conditions.entries := by
      cases hq : (legs ++ y :: rest).head? with
      | none => cases legs <;> cases hq
      | some q =>
        have hleads := hstep q hq hinert
        cases hword : p.word? with
        | none =>
          rw [hword] at hd₁
          cases hd₁
          refine ⟨phases, rfl, ?_⟩
          rintro _ ⟨⟩
          rwa [hleads.kept hword]
        | some word =>
          rw [hword] at hd₁
          obtain ⟨phases', -, hlen, hin⟩ := hhere.act hd₁ (hleads.obeyed word hword)
          refine ⟨phases', hlen, ?_⟩
          rintro _ ⟨⟩
          exact hin
    obtain ⟨phases₁, rfl, hbranch₁⟩ := hnext
    obtain ⟨hrest, hend⟩ := ih hsteps hbranch₁ hopen
    exact ⟨List.forall_mem_cons.2 ⟨hinert, hrest⟩, hend⟩

/-- A skipped branch has no effect. Let a run come to a `then` whose condition is false, or that lies in a
skipped branch, and later to a station before the matching `endif`, in whatever pieces of script both lie.
Nothing has been done in between but to drain the console: after each word of a conditional, and after each
statement that has run a piece of script to its end. If the run ends there, nothing else is done until it
does. And if there is the matching `endif`, then the run goes on, and what follows it, behind the ends of
the pieces of script that end with it, is carried out again, unless the conditional as a whole lies in a
skipped branch. -/
theorem skipped_branch_untouched (hrun : stations n inLoop s m = before ++ x :: (legs ++ y :: rest))
    (hthen : x.word? = some .thenEnter) (hstack : x.machine.conditions.entries = top :: below)
    (hfalse : top.result = false ∨ top.outerSkip = true)
    (hopen : (legs.map (·.word?)).foldlM openAfter 0 = some d) :
    Untouched (drainsAlong x.machine.autoLog (x :: legs)) x.machine y.machine ∧
    (rest = [] → ∀ r m', statements n s m = (r, m') → Halt.Ended r →
      Untouched (drainsAlong x.machine.autoLog (x :: legs)) x.machine m') ∧
    (d = 0 → y.word? = some .endIf →
      (Halt.Ended (statements n s m).1 → rest ≠ []) ∧
      ∀ ends z more, rest = ends ++ z :: more → (∀ p ∈ ends, p.atEnd = true) →
        Untouched (drainsAlong x.machine.autoLog (x :: (legs ++ y :: ends))) x.machine z.machine ∧
        z.machine.conditions = ⟨below⟩ ∧
        ((⟨below⟩ : ConditionStack).skipping = false → z.machine.CarriesOut z.source)) := by
  have hsteps : List.IsChain Steps (x :: (legs ++ y :: rest)) := by
    have h := stations_steps n inLoop s m
    rw [hrun] at h
    exact h.right_of_append
  have hinert : x.Inert := Station.inert_of_word? hthen
  obtain ⟨hstep, hbehind⟩ := List.isChain_cons.1 hsteps
  have hentered : ∀ p ∈ (legs ++ y :: rest).head?, Skipped below [] p.machine.conditions.entries :=
    fun p hp => .of_enter hstack hfalse ((hstep p hp hinert).obeyed _ hthen)
  obtain ⟨hpassed, phases, rfl, hbranch⟩ := skipped_along hbehind hentered hopen
  have hidle : ∀ p ∈ x :: legs, p.Inert := List.forall_mem_cons.2 ⟨hinert, hpassed⟩
  have hthere := untouched_along hsteps hidle
  have hyinert : y.Inert := inert_of_skipping hbranch.skipping
  have hlast : rest = [] → y ∈ (stations n inLoop s m).getLast? := by
    rintro rfl
    rw [hrun, List.getLast?_append, ← List.cons_append, List.getLast?_concat]
    rfl
  refine ⟨hthere, fun hnone r m' hends hended => ?_, fun hnone hword => ⟨fun hended hrest => ?_, ?_⟩⟩
  · have h := endThere n (hlast hnone) hyinert
    rw [hends] at h
    cases h with
    | well _ _ huntouched | badly _ _ huntouched => exact hthere.trans huntouched
    | unfinished => exact absurd rfl hended
  · cases List.eq_nil_of_length_eq_zero hnone
    have h := endThere n (hlast hrest) hyinert
    generalize statements n s m = result at h hended
    rcases result with ⟨r, m'⟩
    cases h with
    | well hend =>
      rw [Station.word?_of_atEnd hend] at hword
      cases hword
    | badly _ hrefused => exact hrefused _ _ hword hbranch.act_endIf
    | unfinished => exact hended rfl
  · rintro ends z more rfl hends
    cases List.eq_nil_of_length_eq_zero hnone
    have hsplit : x :: (legs ++ y :: (ends ++ z :: more)) = x :: ((legs ++ y :: ends) ++ z :: more) := by
      simp
    have hbelow : z.machine.conditions = ⟨below⟩ := by
      obtain ⟨hstep, hsteps⟩ := List.isChain_cons.1 hbehind.right_of_append
      cases hnext : (ends ++ z :: more).head? with
      | none => cases ends <;> cases hnext
      | some p =>
        have hobeyed := (hstep p hnext hyinert).obeyed _ hword
        rw [conditions_along hsteps hends p hnext]
        exact (Except.ok.inj (hbranch.act_endIf.symm.trans hobeyed)).symm
    refine ⟨?_, hbelow, fun hskip => .of_not_skipping (hbelow ▸ hskip)⟩
    rw [hsplit] at hsteps
    refine untouched_along hsteps fun p hp => ?_
    rw [← List.cons_append] at hp
    rcases List.mem_append.1 hp with hp | hp
    · exact hidle p hp
    · rcases List.mem_cons.1 hp with rfl | hp
      · exact hyinert
      · exact Station.inert_of_atEnd (hends p hp)

/-- In front of a use of an alias that consists of a `then`. The condition is false, the branch behind the
alias has a conditional in it whose own condition holds, and the console is drained after each
statement. -/
def beforeAlias : Machine Offline :=
  { Offline.machine 0 with
    arena :=
      (Arena.alloc {} (["enter", "if", "then", "click", "endif", "endif", "version", "then"].map
        (Token.word · 1))).2
    aliases := ⟨[{ name := "enter", params := [], body := ⟨7, 8⟩ }]⟩
    conditions := ⟨[{ result := false, outerSkip := false }]⟩
    autoLog := true }

/-- The click in the inner branch is not made, and the last `endif` ends what is skipped. -/
theorem skipped_branch_untouched_alias :
    ∃ before x legs y z more,
      stations 9 false (.ofBlock ⟨⟨0, 7⟩, {}⟩) beforeAlias = before ++ x :: (legs ++ y :: z :: more) ∧
      x.word? = some .thenEnter ∧
      legs.map (·.word?) = [none, some .ifBegin, some .thenEnter, none, some .endIf] ∧
      y.word? = some .endIf ∧ y.machine.calls = List.replicate 5 .consoleMessages ∧
      z.atEnd = false ∧ z.machine.conditions = ⟨[]⟩ ∧ z.machine.CarriesOut z.source := by
  obtain ⟨a, x, b, c, d, e, f, y, z, g, hrun, hthen, hstack, hcalls, hwords, hdrains, hend, hmore⟩ :
      ∃ a x b c d e f y z g,
        stations 9 false (.ofBlock ⟨⟨0, 7⟩, {}⟩) beforeAlias =
          [a] ++ x :: ([b, c, d, e, f] ++ y :: [z, g]) ∧
        x.word? = some .thenEnter ∧
        x.machine.conditions.entries = [{ result := false, outerSkip := false }] ∧
        x.machine.calls = [] ∧
        [b, c, d, e, f].map (·.word?) = [none, some .ifBegin, some .thenEnter, none, some .endIf] ∧
        drainsAlong x.machine.autoLog [x, b, c, d, e, f] = 5 ∧
        y.word? = some .endIf ∧ z.atEnd = false :=
    ⟨_, _, _, _, _, _, _, _, _, _, rfl, rfl, rfl, rfl, rfl, rfl, rfl, rfl⟩
  have hopen : ([b, c, d, e, f].map (·.word?)).foldlM openAfter 0 = some 0 := by
    rw [hwords]
    rfl
  obtain ⟨hthere, -, hbehind⟩ := skipped_branch_untouched hrun hthen hstack (.inl rfl) hopen
  obtain ⟨-, hfollows⟩ := hbehind rfl hend
  obtain ⟨-, hbelow, hcarries⟩ := hfollows [] z [g] rfl fun p hp => absurd hp List.not_mem_nil
  have hdrained := hthere.calls
  rw [hdrains, hcalls] at hdrained
  exact ⟨[a], x, [b, c, d, e, f], y, z, [g], hrun, hthen, hwords, hend, hdrained, hmore, hbelow,
    hcarries rfl⟩

/-- Behind the alias the console is drained, though no word of a conditional stands there. -/
theorem console_drained_behind_alias :
    ∃ before x p y rest,
      stations 9 false (.ofBlock ⟨⟨0, 7⟩, {}⟩) beforeAlias = before ++ x :: p :: y :: rest ∧
      x.word? = some .thenEnter ∧
      x.machine.conditions.entries = [{ result := false, outerSkip := false }] ∧
      p.word? = none ∧ y.machine.calls = .consoleMessages :: p.machine.calls :=
  ⟨[_], _, _, _, _, rfl, rfl, rfl, rfl, rfl⟩

end Branch

end Machine

end PageScript

/-
The time limit for pages.

A script may ask for one at any time, whether a browser is running or not. The browser is told at once if
it is running, and else right after its launch, of which there are two kinds. To close a browser is to
forget what it was told, but not what was asked for. So whenever a page is gone to, the browser has been
told of a limit since its launch if one was ever asked for, and the limit that it was told of last is the
one that was asked for last.

What was asked for is read off the results of the session, and what the browser was told off its dealings.
-/
import PageScript.Proofs.Machine.Chronicle

namespace PageScript

/-- The time limit that a call sets. -/
def Call.limit? : Call → Option Float
  | .setPageLoadTimeout seconds => some seconds
  | _ => none

/-- The page that a call goes to. -/
def Call.url? : Call → Option String
  | .get url => some url
  | _ => none

namespace Dealing

variable {σ : Type}

/-- Whether a call was a launch that has succeeded. -/
def hasLaunched (d : Dealing σ) : Bool :=
  d.call.launches && d.error.isNone

/-- The time limit that was set last by some calls, the latest first, since the latest launch among them. -/
def limitAfter (calls : List (Dealing σ)) : Option Float :=
  (calls.takeWhile (!·.hasLaunched)).findSome? (·.call.limit?)

theorem limitAfter_of_hasLaunched {d : Dealing σ} (h : d.hasLaunched = true) (earlier : List (Dealing σ)) :
    limitAfter (d :: earlier) = none := by
  rw [limitAfter, List.takeWhile_cons, h]
  rfl

theorem limitAfter_of_not_hasLaunched {d : Dealing σ} (h : d.hasLaunched = false)
    (earlier : List (Dealing σ)) :
    limitAfter (d :: earlier) = d.call.limit?.or (limitAfter earlier) := by
  rw [limitAfter, List.takeWhile_cons, h, Bool.not_false, if_pos rfl, List.findSome?_cons]
  cases d.call.limit? <;> rfl

theorem limitAfter_append {new : List (Dealing σ)} (h : ∀ d ∈ new, d.call.isMinor = true)
    (earlier : List (Dealing σ)) : limitAfter (new ++ earlier) = limitAfter earlier := by
  induction new with
  | nil => rfl
  | cons d new ih =>
    obtain ⟨hd, hnew⟩ := List.forall_mem_cons.1 h
    have hlaunched : d.hasLaunched = false := by
      rw [hasLaunched]
      cases hcall : d.call <;> first | rfl | (rw [hcall] at hd; cases hd)
    have hlimit : d.call.limit? = none := by
      cases hcall : d.call <;> first | rfl | (rw [hcall] at hd; cases hd)
    rw [List.cons_append, limitAfter_of_not_hasLaunched hlaunched, hlimit, Option.none_or, ih hnew]

/-- Where no page has been gone to of late, every time that one was is further back. -/
theorem suffix_of_suffix_append {d : Dealing σ} {new earlier before : List (Dealing σ)} {url : String}
    (hnew : ∀ d ∈ new, d.call.url? = none) (hd : d.call = .get url)
    (h : d :: before <:+ new ++ earlier) : d :: before <:+ earlier := by
  induction new with
  | nil => exact h
  | cons e new ih =>
    obtain ⟨he, hnew⟩ := List.forall_mem_cons.1 hnew
    rcases List.suffix_cons_iff.1 h with heq | h
    · cases heq
      rw [hd] at he
      cases he
    · exact ih hnew h

end Dealing

namespace Machine

variable {σ : Type}

/-- The time limit that a statement asks for. -/
def Result.limit? (x : Result σ) : Option Float :=
  match x.statement with
  | some (.browser (.wait seconds)) => some seconds
  | _ => none

/-- The time limit that was asked for last. -/
def lastLimit (done : List (Result σ)) : Option Float :=
  done.reverse.findSome? (·.limit?)

theorem lastLimit_concat (done : List (Result σ)) (x : Result σ) :
    lastLimit (done ++ [x]) = x.limit?.or (lastLimit done) := by
  rw [lastLimit, List.reverse_append, List.reverse_singleton, List.singleton_append,
    List.findSome?_cons]
  cases x.limit? <;> rfl

-- ======== a running browser

/-- If a browser is running, one has been launched, and since then it was told of the limit that the
machine has in mind, if there is one. -/
def Informed (m : Machine σ) : Prop :=
  m.launched = true → m.dealings.any (·.hasLaunched) = true ∧
    Dealing.limitAfter m.dealings = m.pageLoadTimeout

/-- There may have been calls, but no page has been gone to, and no other limit was asked for. -/
structure Stays (m m' : Machine σ) : Prop where
  limit : m'.pageLoadTimeout = m.pageLoadTimeout
  dealings : ∃ new, m'.dealings = new ++ m.dealings ∧ ∀ d ∈ new, d.call.url? = none

instance : IsPreorder (Machine σ) Stays where
  refl _ := ⟨rfl, [], rfl, fun _ hd => absurd hd List.not_mem_nil⟩
  trans _ _ _ h₁ h₂ := by
    obtain ⟨new₁, hnew₁, hnone₁⟩ := h₁.dealings
    obtain ⟨new₂, hnew₂, hnone₂⟩ := h₂.dealings
    refine ⟨h₂.limit.trans h₁.limit, new₂ ++ new₁, ?_, fun d hd => ?_⟩
    · rw [hnew₂, hnew₁, List.append_assoc]
    · exact (List.mem_append.1 hd).elim (hnone₂ d) (hnone₁ d)

variable [World σ] {m m' : Machine σ} {r : Except Halt Unit}

omit [World σ] in
theorem Calm.stays (h : Calm m m') : Stays m m' := by
  obtain ⟨new, hnew, hminor⟩ := h.dealings
  refine ⟨h.limit, new, hnew, fun d hd => ?_⟩
  have hd := hminor d hd
  cases hcall : d.call <;> first | rfl | (rw [hcall] at hd; cases hd)

omit [World σ] in
theorem Informed.calm (h : Informed m) (hcalm : Calm m m') : Informed m' := by
  obtain ⟨new, hnew, hminor⟩ := hcalm.dealings
  intro hlaunched
  obtain ⟨hany, hlimit⟩ := h (hcalm.launched ▸ hlaunched)
  rw [hnew, List.any_append, hany, Bool.or_true, Dealing.limitAfter_append hminor, hcalm.limit]
  exact ⟨rfl, hlimit⟩

/-- What comes of a call. -/
def dealt (m : Machine σ) (c : Call) : Dealing σ :=
  ⟨c, m.launched, m.errorOf c, (m.asking c).browser⟩

theorem Stays.of_call {c : Call} (hurl : c.url? = none)
    (hlimit : m'.pageLoadTimeout = m.pageLoadTimeout) (hdealings : m'.dealings = m.dealt c :: m.dealings) :
    Stays m m' :=
  ⟨hlimit, [m.dealt c], hdealings, fun _ hd => List.mem_singleton.1 hd ▸ hurl⟩

/-- A call that sets no limit, and launches nothing. -/
theorem Informed.asking {c : Call} (h : Informed m) (hlimit : c.limit? = none)
    (hfails : (m.dealt c).hasLaunched = false) : Informed (m.asking c) := by
  intro hlaunched
  obtain ⟨hany, hafter⟩ := h hlaunched
  refine ⟨(congrArg (_ || ·) hany).trans (Bool.or_true _), ?_⟩
  calc Dealing.limitAfter (m.dealt c :: m.dealings)
      = c.limit?.or (Dealing.limitAfter m.dealings) := Dealing.limitAfter_of_not_hasLaunched hfails _
    _ = m.pageLoadTimeout := by rw [hlimit, Option.none_or, hafter]

/-- A browser is told of a limit if it is running and one is in mind. -/
theorem informed_of_applyPageLoadTimeout (h : applyPageLoadTimeout m = (r, m'))
    (hlaunch : m.launched = true → m.dealings.any (·.hasLaunched) = true)
    (hnone : m.pageLoadTimeout = none → Dealing.limitAfter m.dealings = none) :
    Informed m' ∧ Stays m m' := by
  obtain ⟨rfl, htimeout⟩ | ⟨seconds, htimeout, rfl⟩ := applyPageLoadTimeout_cases h
  · refine ⟨fun hlaunched => ⟨hlaunch hlaunched, ?_⟩, refl_of Stays m'⟩
    rw [htimeout hlaunched, hnone (htimeout hlaunched)]
  · refine ⟨fun hlaunched => ⟨?_, ?_⟩, .of_call rfl rfl rfl⟩
    · exact (congrArg (_ || ·) (hlaunch hlaunched)).trans (Bool.or_true _)
    · have htold : (m.dealt (.setPageLoadTimeout seconds)).hasLaunched = false := rfl
      exact (Dealing.limitAfter_of_not_hasLaunched htold _).trans htimeout.symm

/-- A launch, behind which the browser is told. -/
theorem informed_of_launch {c : Call} (hlaunches : c.launches = true)
    (h : (do
      let _ ← Run.call c
      modify fun m => { m with launched := true }
      applyPageLoadTimeout : Run σ Unit) m = (r, m'))
    (hm : Informed m) : Informed m' ∧ Stays m m' := by
  have hlimit : c.limit? = none := by cases c <;> first | rfl | cases hlaunches
  have hurl : c.url? = none := by cases c <;> first | rfl | cases hlaunches
  rcases call_cases c m with ⟨a, hcall, herror⟩ | ⟨e, hcall, herror⟩
  · rw [Run.bind_ok hcall, Run.modify_bind_apply] at h
    have hdone : (m.dealt c).hasLaunched = true := by
      show (c.launches && (m.errorOf c).isNone) = true
      rw [hlaunches, herror]
      rfl
    obtain ⟨hinformed, hstays⟩ := informed_of_applyPageLoadTimeout h
      (fun _ => (congrArg (· || _) hdone).trans (Bool.true_or _))
      fun _ => Dealing.limitAfter_of_hasLaunched hdone _
    have hasked : Stays m { m.asking c with launched := true } := .of_call hurl rfl rfl
    exact ⟨hinformed, trans_of Stays hasked hstays⟩
  · rw [Run.bind_error hcall] at h
    cases h
    have hfails : (m.dealt c).hasLaunched = false := by
      show (c.launches && (m.errorOf c).isNone) = false
      rw [herror]
      exact Bool.and_false _
    exact ⟨hm.asking hlimit hfails, .of_call hurl rfl rfl⟩

theorem informed_of_ensureBrowser (h : ensureBrowser m = (r, m')) (hm : Informed m) :
    Informed m' ∧ Stays m m' := by
  rw [ensureBrowser, Run.get_bind_apply] at h
  split at h
  · cases h
    exact ⟨hm, refl_of Stays m⟩
  · rw [Run.info, Run.log, Run.modify_bind_apply] at h
    obtain ⟨hinformed, hstays⟩ := informed_of_launch (c := .start m.options) rfl h hm
    exact ⟨hinformed, hstays.limit, hstays.dealings⟩

theorem informed_of_teardown (h : teardown m = (r, m')) (hm : Informed m) :
    Informed m' ∧ Stays m m' := by
  cases hlaunched : m.launched with
  | false =>
    rw [teardown_of_not_launched hlaunched] at h
    cases h
    exact ⟨hm, refl_of Stays m⟩
  | true =>
    rw [teardown, Run.get_bind_apply, hlaunched] at h
    change (Run.ask .close >>= _) m = _ at h
    rw [Run.bind_ok (ask_apply .close m)] at h
    have hasked : Stays m (m.asking .close) := .of_call rfl rfl rfl
    rcases hreply : (Browser.answer .close m.browser m.disk).1 with e | a <;> rw [hreply] at h <;>
      (cases h; exact ⟨by rintro ⟨⟩, hasked.limit, hasked.dealings⟩)

-- ======== the limit in force

/-- A page has been gone to by one of the statements that have been done. If a limit was asked for before,
then a browser has been launched, and the limit that it was told of last since then is the one that was
asked for last. -/
def Visited (done : List (Result σ)) (d : Dealing σ) (earlier : List (Dealing σ)) (url : String) : Prop :=
  ∃ front x back, done = front ++ x :: back ∧ x.statement = some (.browser (.get url)) ∧
    x.after.dealings = d :: earlier ∧
    ∀ seconds, lastLimit front = some seconds →
      earlier.any (·.hasLaunched) = true ∧ Dealing.limitAfter earlier = some seconds

/-- The machine has in mind the limit that was asked for last, a running browser knows of it, and so it was
whenever a page was gone to. -/
structure Observed (done : List (Result σ)) (m : Machine σ) : Prop where
  limit : m.pageLoadTimeout = lastLimit done
  informed : Informed m
  visited : ∀ d earlier url, d :: earlier <:+ m.dealings → d.call = .get url →
    Visited done d earlier url

namespace Observed

variable {done : List (Result σ)} {x : Result σ} {url : String} {failure : Option Failure}

omit [World σ] in
theorem stays (h : Observed done m) (hinformed : Informed m') (hstays : Stays m m') :
    Observed done m' := by
  refine ⟨hstays.limit.trans h.limit, hinformed, fun d earlier url hsuffix hcall => ?_⟩
  obtain ⟨new, hnew, hnone⟩ := hstays.dealings
  rw [hnew] at hsuffix
  exact h.visited d earlier url (Dealing.suffix_of_suffix_append hnone hcall hsuffix) hcall

omit [World σ] in
theorem visited_concat {d : Dealing σ} {earlier : List (Dealing σ)} (x : Result σ)
    (h : Visited done d earlier url) : Visited (done ++ [x]) d earlier url := by
  obtain ⟨front, y, back, rfl, hy⟩ := h
  exact ⟨front, y, back ++ [x], List.append_assoc .., hy⟩

omit [World σ] in
/-- A statement by which no limit is asked for, once all that it does is done. -/
theorem concat (h : Observed done m) (hx : x.limit? = none) : Observed (done ++ [x]) m := by
  refine ⟨?_, h.informed, fun d earlier url hsuffix hcall => ?_⟩
  · rw [lastLimit_concat, hx, Option.none_or, h.limit]
  · exact visited_concat x (h.visited d earlier url hsuffix hcall)

/-- Going to a page. -/
theorem get (h : Observed done m) (hrun : control (.get url) m = (r, m')) :
    Observed (done ++ [⟨some (.browser (.get url)), m, failure, m'⟩]) m' := by
  change (ensureBrowser >>= _) m = _ at hrun
  rcases hensure : ensureBrowser m with ⟨e | ⟨⟩, m₁⟩ <;>
    obtain ⟨hinformed, hstays⟩ := informed_of_ensureBrowser hensure h.informed
  · rw [Run.bind_error hensure] at hrun
    cases hrun
    exact (h.stays hinformed hstays).concat rfl
  · rw [Run.bind_ok hensure] at hrun
    obtain rfl := eq_asking_of_call (c := .get url) hrun
    have hready := h.stays hinformed hstays
    refine ⟨?_, hinformed.asking rfl rfl, fun d earlier url' hsuffix hcall => ?_⟩
    · rw [lastLimit_concat]
      exact hready.limit
    · rcases List.suffix_cons_iff.1 hsuffix with heq | hsuffix
      · -- this is the call, and the browser is running
        cases heq
        cases hcall
        refine ⟨done, _, [], rfl, rfl, rfl, fun seconds hlast => ?_⟩
        obtain ⟨hany, hlimit⟩ := hinformed (launched_of_ensureBrowser hensure)
        exact ⟨hany, by rw [hlimit, hready.limit, hlast]⟩
      · exact visited_concat _ (hready.visited d earlier url' hsuffix hcall)

/-- Asking for a limit. -/
theorem wait {seconds : Float} (h : Observed done m) (hrun : control (.wait seconds) m = (r, m')) :
    Observed (done ++ [⟨some (.browser (.wait seconds)), m, failure, m'⟩]) m' := by
  rw [control, Run.modify_bind_apply] at hrun
  obtain ⟨hinformed, hstays⟩ := informed_of_applyPageLoadTimeout hrun
    (fun hlaunched => (h.informed hlaunched).1) (by rintro ⟨⟩)
  refine ⟨?_, hinformed, fun d earlier url hsuffix hcall => ?_⟩
  · rw [lastLimit_concat]
    exact hstays.limit
  · obtain ⟨new, hnew, hnone⟩ := hstays.dealings
    rw [hnew] at hsuffix
    refine visited_concat _ (h.visited d earlier url ?_ hcall)
    exact Dealing.suffix_of_suffix_append hnone hcall hsuffix

end Observed

theorem observed_chronicle : Chronicle (σ := σ) Observed where
  calm hcalm h := h.stays (h.informed.calm hcalm) hcalm.stays
  teardown hrun h :=
    have hdown := informed_of_teardown hrun h.informed
    h.stays hdown.1 hdown.2
  beside {done x m} hx h := by
    refine h.concat ?_
    rw [Result.limit?]
    split
    · next hst =>
      rw [hst] at hx
      cases hx
    · rfl
  performed {done run limit st m r m' failure} hscript hrun hended h := by
    by_cases hminor : ∀ command, st = .browser command → command.isMinor = true
    · have hcalm := execute_calm hscript hminor hrun hended
      refine (h.stays (h.informed.calm hcalm) hcalm.stays).concat ?_
      rw [Result.limit?]
      split
      · next hst =>
        cases hst
        cases hminor _ rfl
      · rfl
    · simp only [not_forall] at hminor
      obtain ⟨command, rfl, hmajor⟩ := hminor
      cases command with
      | connect endpoint =>
        rw [execute, control, Run.get_bind_apply] at hrun
        obtain ⟨hinformed, hstays⟩ :=
          informed_of_launch (c := .connect endpoint m.options) rfl hrun h.informed
        exact (h.stays hinformed hstays).concat rfl
      | get url => exact h.get hrun
      | close =>
        obtain ⟨hinformed, hstays⟩ := informed_of_teardown hrun h.informed
        exact (h.stays hinformed hstays).concat rfl
      | wait seconds => exact h.wait hrun
      | _ => exact absurd rfl hmajor

/-- The time limit for pages is in force whenever a page is gone to. At each moment of every session, each
call by which a page was gone to was made by a statement of the session; and if among the statements that
were done before it there is one that asked for a limit, then a browser had been launched by then, and the
limit that was set last since the latest launch is the one that was asked for last. -/
theorem page_limit_in_force (settings : Settings) (browser : σ) (disk : Disk)
    (session : List (Errand σ)) :
    ∀ x ∈ history session (new settings browser disk),
      ∀ d earlier url, d :: earlier <:+ x.machine.dealings → d.call = .get url →
        ∃ front y back, sessionResults session (new settings browser disk) = front ++ y :: back ∧
          y.statement = some (.browser (.get url)) ∧ y.after.dealings = d :: earlier ∧
          ∀ seconds, lastLimit front = some seconds →
            earlier.any (·.hasLaunched) = true ∧ Dealing.limitAfter earlier = some seconds := by
  have hnew : Observed [] (new settings browser disk) := by
    refine ⟨rfl, by rintro ⟨⟩, fun d earlier url hsuffix _ => ?_⟩
    exact absurd (List.suffix_nil.1 hsuffix) (List.cons_ne_nil _ _)
  intro x hx d earlier url hsuffix hcall
  obtain ⟨now, ⟨later, hresults⟩, hobserved⟩ := observed_chronicle.history session hnew x hx
  obtain ⟨front, y, back, hnow, hy⟩ := hobserved.visited d earlier url hsuffix hcall
  rw [List.nil_append] at hnow
  refine ⟨front, y, back ++ later, ?_, hy⟩
  rw [← hresults, hnow, List.append_assoc, List.cons_append]

/-- A limit before the first launch, and another one after the browser was closed, in front of a second
launch of the other kind. -/
def relaunched : List (Errand Page) :=
  [{ fuel := 8, request := .text "browser wait 5 browser get 'a'" "script" ⟨"."⟩ },
   { fuel := 8, request := .close },
   { fuel := 8, request := .text "browser wait 7 browser connect 'b' browser get 'c'" "script" ⟨"."⟩ }]

/-- The second page is gone to with four statements behind, by which a limit was asked for; since then the
browser has been told of it. -/
theorem page_limit_in_force_relaunched :
    ∃ x ∈ history relaunched (new {} {} default), ∃ d earlier,
      d :: earlier <:+ x.machine.dealings ∧ d.call = .get "c" ∧
      ∃ seconds, lastLimit ((sessionResults relaunched (new {} {} default)).take 4) = some seconds ∧
        earlier.any (·.hasLaunched) = true ∧ Dealing.limitAfter earlier = some seconds := by
  have hlast : (history relaunched (new {} {} default)).getLast?.map
      (fun x => x.machine.dealings.map (·.call.url?)) =
        some [some "c", none, none, none, some "a", none, none] := by decide +kernel
  have hresults : (sessionResults relaunched (new {} {} default)).map
        (fun y => y.after.dealings.length) = [0, 3, 4, 6, 7] ∧
      (lastLimit ((sessionResults relaunched (new {} {} default)).take 4)).isSome = true := by
    decide +kernel
  obtain ⟨x, hx, hurls⟩ := Option.map_eq_some_iff.1 hlast
  obtain ⟨d, earlier, hdealings, hd, hearlier⟩ := List.map_eq_cons_iff.1 hurls
  have hcall : d.call = .get "c" := by
    cases hcall : d.call <;> rw [hcall] at hd <;> cases hd
    rfl
  have hlength : earlier.length = 6 := by rw [← List.length_map, hearlier]; rfl
  have hmem := List.mem_of_getLast? hx
  have hsuffix : d :: earlier <:+ x.machine.dealings := hdealings ▸ List.suffix_rfl
  obtain ⟨front, y, back, hall, -, hy, hlimit⟩ :=
    page_limit_in_force {} {} default relaunched x hmem d earlier "c" hsuffix hcall
  -- the calls that had been made by then tell which of the statements it was
  have hfront : (sessionResults relaunched (new {} {} default)).take 4 = front := by
    have hlengths := hresults.1
    rw [hall, List.map_append, List.map_cons, hy, List.length_cons, hlength] at hlengths
    rw [hall]
    rcases front with _ | ⟨a, _ | ⟨b, _ | ⟨c, _ | ⟨e, _ | ⟨g, front⟩⟩⟩⟩⟩ <;> simp at hlengths ⊢
  obtain ⟨seconds, hseconds⟩ := Option.isSome_iff_exists.1 hresults.2
  exact ⟨x, hmem, d, earlier, hsuffix, hcall, seconds, hseconds, hlimit seconds (hfront ▸ hseconds)⟩

end Machine

end PageScript

/-
The session of a client, and the element in it.

A client knows its session from the answer to the request for it, and forgets it when it asks to delete
it. So of the sessions that it has opened at most one is still open, which is its own, and its requests
go there. It knows the current element from the answer that brought it, and forgets it with the page.
-/
import PageScript.Proofs.WebDriver.Answer

namespace PageScript.WebDriver

open Client

variable {origin : Option Origin} {element : Option String} {k k' : Client} {old sent : List Message}

-- ======== open sessions

/-- Of the sessions that were opened since some messages were sent, just the client's own one is open, if
it has one. -/
structure Settled (old : List Message) (k : Client) (sent : List Message) : Prop where
  traffic : k.traffic = sent ++ old
  sessions : openSessions sent = k.base?.toList
  delivers : ∀ base, k.base? = some base → k.delivers base = true

/-- A message that may come after others: where no session is open, a request for one at the origin, or
for the status of the server that was launched there; otherwise a request of the session that was opened
last and is still open, either to delete it or about no other element than the given one. -/
def Fits (origin : Option Origin) (element : Option String) (x : Message)
    (earlier : List Message) : Prop :=
  (∃ o, origin = some o ∧ openSessions earlier = [] ∧
    (x.verb = .post ∧ x.url = trimSlashes o.endpoint ++ "/session" ∨
      o.launched = true ∧ x.verb = .get ∧ x.url = o.endpoint ++ "/status")) ∨
  ∃ base rest, (openSessions earlier).head? = some base ∧ x.url = base ++ rest ∧
    (x.verb = .delete ∧ rest = "" ∨ Uses element rest x.body)

namespace Uses

variable {x : Message} {base rest : String} {body : Option Json}

theorem ne_nil (h : Uses element rest body) : rest.toList ≠ [] := by
  intro hnil
  have hslash := h.slash
  rw [hnil] at hslash
  cases hslash

/-- A request below a session is not for another one. -/
theorem opened?_eq_none (h : Uses element rest x.body) (hurl : x.url = base ++ rest) :
    x.opened? = none := by
  have hnot : ¬"/session".toList <:+ x.url.toList := by
    rintro ⟨front, hfront⟩
    have hlast := congrArg List.getLast? hfront
    rw [hurl, String.toList_append, List.getLast?_append, List.getLast?_append,
      List.getLast?_eq_some_getLast h.ne_nil, Option.some_or,
      ← List.getLast?_eq_some_getLast h.ne_nil] at hlast
    exact h.last hlast.symm
  rw [Message.opened?, if_neg fun hboth => hnot hboth.2]

/-- Nor does it delete the session. -/
theorem deletes_eq_false (h : Uses element rest x.body) (hurl : x.url = base ++ rest) :
    x.deletes base = false := by
  have hother : x.url ≠ base := by
    intro hsame
    have hlist := congrArg String.toList (hurl.symm.trans hsame)
    rw [String.toList_append, List.append_right_eq_self] at hlist
    exact h.ne_nil hlist
  simp [Message.deletes, hother]

end Uses

/-- No message, or one that may come after those that were sent. -/
theorem fits_singleton {x : Message} (h : Fits origin element x sent) :
    ∀ y earlier, y :: earlier <:+ [x] → Fits origin element y (earlier ++ sent) := by
  intro y earlier hlater
  rcases List.suffix_cons_iff.1 hlater with heq | hnil
  · cases heq
    exact h
  · exact absurd (List.suffix_nil.1 hnil) (List.cons_ne_nil _ _)

theorem fits_nil : ∀ y earlier, y :: earlier <:+ ([] : List Message) →
    Fits origin element y (earlier ++ sent) :=
  fun _ _ h => absurd (List.suffix_nil.1 h) (List.cons_ne_nil _ _)

/-- One step: a client that has at most its own session open still has. -/
theorem Settled.step (h : Settled old k sent) (hstep : Step origin element k k') :
    ∃ new, Settled old k' (new ++ sent) ∧
      ∀ x earlier, x :: earlier <:+ new → Fits origin element x (earlier ++ sent) := by
  have hadded : ∀ {x k₁}, Adds x k k₁ → k₁.traffic = [x] ++ sent ++ old := by
    intro x k₁ hadds
    rw [hadds.traffic, h.traffic]
    rfl
  have hown : ∀ {base}, k.base? = some base → openSessions sent = [base] := by
    intro base hbase
    rw [h.sessions, hbase]
    rfl
  have hnone : k.session = none → openSessions sent = [] := by
    intro hsession
    rw [h.sessions, base?_of_no_session hsession]
    rfl
  have hdelivers : ∀ {x k₁}, Adds x k k₁ → ∀ base, k₁.base? = some base →
      k₁.delivers base = true := by
    intro x k₁ hadds base hbase
    rw [delivers_of_line hadds.line]
    exact h.delivers base (hadds.base? ▸ hbase)
  -- a message that neither opens nor deletes a session
  have hplain : ∀ {x k₁}, Adds x k k₁ → x.opened? = none → (∀ base, x.deletes base = false) →
      Settled old k₁ ([x] ++ sent) := by
    intro x k₁ hadds hopened hdeletes
    refine ⟨hadded hadds, ?_, hdelivers hadds⟩
    rw [List.singleton_append, openSessions_of_not_opened hopened, hadds.base?, ← h.sessions]
    simp [hdeletes]
  cases hstep with
  | @ask _ base rest x hbase hurl huses hadds =>
    refine ⟨[x], ⟨hadded hadds, ?_, hdelivers hadds⟩,
      fits_singleton (.inr ⟨base, rest, by rw [hown hbase]; rfl, hurl, .inr huses⟩)⟩
    rw [List.singleton_append, openSessions_of_not_opened (huses.opened?_eq_none hurl), hown hbase,
      hadds.base?, hbase]
    simp [huses.deletes_eq_false hurl]
  | point other => exact ⟨[], ⟨h.traffic, h.sessions, h.delivers⟩, fits_nil⟩
  | @finish k₁ base response hbase hadds =>
    have hsent := hadded hadds
    refine ⟨[_], ⟨hsent, ?_, fun base' hbase' => ?_⟩, fits_singleton (.inr ?_)⟩
    · rw [List.singleton_append, openSessions_of_not_opened (Message.opened?_of_delete rfl),
        hown hbase, base?_of_no_session (k := k₁.alone) rfl]
      simp [Message.deletes]
    · cases (base?_of_no_session (k := k₁.alone) rfl).symm.trans hbase'
    · exact ⟨base, "", by rw [hown hbase]; rfl, String.append_empty.symm, .inl ⟨rfl, rfl⟩⟩
  | lose hlost =>
    have hbase : k.base? = none := by
      cases hbase : k.base? with
      | none => rfl
      | some base => cases (hlost base hbase).symm.trans (h.delivers base hbase)
    have halone : k.alone.base? = none := base?_of_no_session rfl
    refine ⟨[], ⟨h.traffic, ?_, fun base hbase' => ?_⟩, fits_nil⟩
    · rw [List.nil_append, h.sessions, hbase, halone]
    · cases halone.symm.trans hbase'
  | @poll _ endpoint x hsession horigin hverb hurl hadds =>
    refine ⟨[x], hplain hadds ?_ (fun base => ?_), fits_singleton (.inl
      ⟨_, horigin, hnone hsession, .inr ⟨rfl, hverb, hurl⟩⟩)⟩
    · rw [Message.opened?, if_neg fun hboth => by cases hverb.symm.trans hboth.1]
    · rw [Message.deletes, hverb]
      rfl
  | @refuse _ o x hsession horigin hverb hurl hopened hadds =>
    refine ⟨[x], hplain hadds hopened (fun base => ?_), fits_singleton (.inl
      ⟨o, horigin, hnone hsession, .inl ⟨hverb, hurl⟩⟩)⟩
    rw [Message.deletes, hverb]
    rfl
  | @join k₁ o id x hsession horigin hverb hurl hopened hreach hadds =>
    have hbase : (k₁.joining (trimSlashes o.endpoint) id).base? = some (x.url ++ "/" ++ id) := by
      rw [hurl, @String.append_assoc (trimSlashes o.endpoint)]
      rfl
    have hsent := hadded hadds
    refine ⟨[x], ⟨hsent, ?_, fun base hbase' => ?_⟩, fits_singleton (.inl
      ⟨o, horigin, hnone hsession, .inl ⟨hverb, hurl⟩⟩)⟩
    · rw [List.singleton_append, openSessions_of_opened hopened, hnone hsession, hbase]
      rfl
    · cases hbase.symm.trans hbase'
      have hreach₁ : k₁.delivers x.url = true := (delivers_of_line hadds.line x.url).trans hreach
      exact delivers_append (delivers_append hreach₁ _) _

theorem suffix_append_cases {α : Type} {x : α} {earlier latest new : List α}
    (h : x :: earlier <:+ latest ++ new) :
    x :: earlier <:+ new ∨ ∃ between, x :: between <:+ latest ∧ earlier = between ++ new := by
  obtain ⟨front, hfront⟩ := h
  rcases List.append_eq_append_iff.1 hfront with ⟨rest, hlatest, hrest⟩ | ⟨rest, -, hnew⟩
  · cases rest with
    | nil => exact .inl (hrest ▸ List.suffix_refl _)
    | cons y between =>
      obtain ⟨rfl, rfl⟩ := List.cons_eq_cons.1 hrest
      exact .inr ⟨between, ⟨front, hlatest.symm⟩, rfl⟩
  · exact .inl ⟨rest, hnew.symm⟩

/-- Any number of steps, each message after those before it. -/
theorem Settled.steps (h : Settled old k sent) (hsteps : Steps origin element k k') :
    ∃ new, Settled old k' (new ++ sent) ∧
      ∀ x earlier, x :: earlier <:+ new → Fits origin element x (earlier ++ sent) := by
  induction hsteps with
  | refl => exact ⟨[], h, fits_nil⟩
  | tail _ hstep ih =>
    obtain ⟨new, hsettled, hfits⟩ := ih
    obtain ⟨latest, hsettled', hfits'⟩ := hsettled.step hstep
    refine ⟨latest ++ new, by rw [List.append_assoc]; exact hsettled', fun x earlier hlater => ?_⟩
    rcases suffix_append_cases hlater with hbefore | ⟨between, hlatest, rfl⟩
    · exact hfits x earlier hbefore
    · rw [List.append_assoc]
      exact hfits' x between hlatest

-- ======== elements

/-- The client after some calls, each with the disk that it found. The latest call comes first. -/
def Client.after (k : Client) : List (Call × Disk) → Client
  | [] => k
  | (c, disk) :: earlier => (k.after earlier).afterCall c disk

/-- What a call has failed with, if it has. -/
def Client.errorOf (k : Client) (c : Call) (disk : Disk) : Option BrowserError :=
  BrowserError.of? (Browser.answer c k disk).1

/-- The element that was found last by calls that looked for one, if none of the calls since has looked
for one that is not there, has forgotten it or gone to another page, or has ended or opened a session. -/
def Client.located (k : Client) : List (Call × Disk) → Option String
  | [] => none
  | (c, disk) :: earlier =>
    match c with
    | .locate l =>
      match (k.after earlier).errorOf (.locate l) disk with
      | none => ((k.after earlier).afterCall (.locate l) disk).found?
      | some e => if e.isMissing then none else k.located earlier
    | .get _ | .back | .forward | .refresh | .clearCurrent => none
    | .start _ | .connect .. | .close => none
    | _ => k.located earlier

/-- Whatever is asked of a client that is tidy, it still is. -/
theorem tidy_after (hk : k.Tidy) (calls : List (Call × Disk)) : (k.after calls).Tidy := by
  induction calls with
  | nil => exact hk
  | cons latest earlier ih => exact (answer_steps latest.1 (k.after earlier) latest.2).tidy ih

/-- The current element is the one that was found last. -/
theorem element_after (htidy : k.Tidy) (hk : k.element = none) (calls : List (Call × Disk)) :
    (k.after calls).element = k.located calls := by
  induction calls with
  | nil => exact hk
  | cons latest earlier ih =>
    obtain ⟨c, disk⟩ := latest
    have hsteady : c.isSteady = true →
        ((k.after earlier).afterCall c disk).element = k.located earlier :=
      fun h => (steady_chats h _ disk).element.trans ih
    have hforgets : c.forgets = true → ((k.after earlier).afterCall c disk).element = none :=
      fun h => (forgets_chats h (k.after earlier) disk).element
    have hlaunch : c.launches = true → ((k.after earlier).afterCall c disk).element = none := by
      intro h
      obtain ⟨k₁, hretired, hnone, -, hidle⟩ := launch_steps none h (k.after earlier) disk
      exact hidle ((hretired.tidy (tidy_after htidy earlier)).element hnone)
    cases c with
    | locate l =>
      change (locate l (k.after earlier)).2.element =
        match BrowserError.of? (locate l (k.after earlier)).1 with
        | none => (locate l (k.after earlier)).2.found?
        | some e => if e.isMissing then none else k.located earlier
      obtain ⟨k₁, hchats, ⟨id, -, hfound, hlocate⟩ | ⟨e, he, hlocate⟩ | ⟨e, he, hlocate⟩⟩ :=
        locate_cases l (k.after earlier)
      · rw [hlocate]
        exact hfound.symm
      · rw [hlocate, BrowserError.of?]
        exact (if_pos he).symm
      · rw [hlocate, BrowserError.of?]
        exact (hchats.element.trans ih).trans (if_neg (Bool.not_eq_true _ ▸ he)).symm
    | get | back | forward | refresh | clearCurrent => exact hforgets rfl
    | start | connect => exact hlaunch rfl
    | close => exact (alone_close (k.after earlier)).2
    | _ => exact hsteady rfl

-- ======== no session

/-- Without a session nothing is sent, unless to open one. -/
theorem Steps.idle (h : Steps none element k k') (hk : k.session = none) :
    k'.session = none ∧ k'.traffic = k.traffic := by
  induction h with
  | refl => exact ⟨hk, rfl⟩
  | @tail k₁ _ _ hstep ih =>
    obtain ⟨hnone, htraffic⟩ := ih
    have hbase := base?_of_no_session hnone
    cases hstep with
    | ask hsome | finish hsome => cases hbase.symm.trans hsome
    | point other => exact ⟨hnone, htraffic⟩
    | lose => exact ⟨rfl, htraffic⟩
    | poll _ horigin | refuse _ horigin | join _ horigin => cases horigin

/-- There is neither a session nor an element. -/
structure Client.Alone (k : Client) : Prop where
  session : k.session = none
  element : k.element = none

/-- Something is missing for what a client is to do: a session or an element. -/
def Talk.Lacks {α : Type} (x : Talk α) (k : Client) : Prop :=
  (x k).1 = .error .notStarted ∨ (x k).1 = .error .noCurrentElement

namespace Talk.Lacks

variable {α β : Type} {x : Talk α} {f : α → Talk β}

theorem bind (h : Lacks x k) : Lacks (x >>= f) k := by
  rcases hx : x k with ⟨e | a, k₁⟩
  · rw [Lacks, hx] at h
    rw [Lacks, bind_error hx]
    exact h.imp (fun he => congrArg _ (Except.error.inj he)) fun he => congrArg _ (Except.error.inj he)
  · rw [Lacks, hx] at h
    rcases h with h | h <;> cases h

theorem map {g : α → β} (h : Lacks x k) : Lacks (g <$> x) k := by
  rw [map_eq_pure_bind]
  exact h.bind

end Talk.Lacks

theorem lacks_command {verb : Verb} {path : String} {body : Option Json} (h : k.Alone) :
    Talk.Lacks (command verb path body) k :=
  .inl (congrArg Prod.fst (command_of_none (base?_of_no_session h.session)))

theorem lacks_current (h : k.Alone) : Talk.Lacks current k :=
  .inr (congrArg Prod.fst (current_of_none h.element))

theorem lacks_navigate {path : String} {body : Json} (h : k.Alone) :
    Talk.Lacks (navigate path body) k :=
  (lacks_command (k := k.pointing none) ⟨h.session, rfl⟩).bind (f := fun _ => pure ())

/-- A gesture goes wrong only where it starts from an element that is not there. -/
theorem pointerSteps_eq_error {rect : Option Rect} {steps : List MouseStep} {x y : Float}
    {e : BrowserError} (h : pointerSteps rect x y steps = .error e) : e = .noCurrentElement := by
  induction steps generalizing x y with
  | nil => cases h
  | cons step steps ih =>
    have hrest : ∀ {x y : Float} {f : List Json → List Json},
        (do return f (← pointerSteps rect x y steps) : Except BrowserError _) = .error e →
          e = .noCurrentElement := by
      intro x y f h
      cases hsteps : pointerSteps rect x y steps with
      | error e' =>
        rw [hsteps] at h
        cases h
        exact ih hsteps
      | ok actions =>
        rw [hsteps] at h
        cases h
    cases step with
    | origin | center =>
      cases rect with
      | none =>
        cases h
        rfl
      | some r => exact hrest h
    | _ => exact hrest h

theorem lacks_perform {source : Json} (h : k.Alone) : Talk.Lacks (perform source) k :=
  (lacks_command h).bind

theorem lacks_mouse (steps : List MouseStep) (h : k.Alone) : Talk.Lacks (mouse steps) k := by
  rw [mouse]
  split
  · exact (lacks_current h).bind.bind.map.bind
  · rw [pure_bind]
    dsimp only
    cases hactions : pointerActions steps none with
    | ok source => exact lacks_perform h
    | error e =>
      rw [pointerActions] at hactions
      cases hsteps : pointerSteps none 0 0 steps with
      | ok actions =>
        rw [hsteps] at hactions
        cases hactions
      | error e' =>
        rw [hsteps] at hactions
        cases hactions
        exact .inr (congrArg Except.error (pointerSteps_eq_error hsteps))

theorem lacks_locate (l : Locator) (h : k.Alone) : Talk.Lacks (locate l) k := by
  have hquery : query l k = (.error .notStarted, k) :=
    command_of_none (base?_of_no_session h.session)
  rw [Talk.Lacks, locate_apply, hquery]
  exact .inl rfl

theorem lacks_press {key : Key} (h : k.Alone) (hkey : (keyChar? key).isNone = false) :
    Talk.Lacks (press key) k := by
  cases hchar : keyChar? key with
  | none =>
    rw [hchar] at hkey
    cases hkey
  | some c =>
    rw [Talk.Lacks, press, hchar]
    dsimp only
    rw [Talk.get_bind_apply, h.element]
    exact lacks_perform h

/-- Without a session, what needs one or an element fails for want of it. -/
theorem lacks_serve {c : Call} (h : k.Alone) (hlaunches : c.launches = false)
    (hidle : c.isIdle = false) (hvoid : c.isVoid = false) (hshot : ∀ file, c ≠ .screenshot file) :
    Talk.Lacks (serve c) k := by
  cases c with
  | start | connect => cases hlaunches
  | close | clearCurrent => cases hidle
  | get | back | forward | refresh => exact lacks_navigate h
  | viewport | setPageLoadTimeout => exact (lacks_command h).bind
  | sendToPage => exact lacks_perform h
  | locate l => exact lacks_locate l h
  | rect | checksum => exact (lacks_current h).bind.bind
  | tagName | state => exact (lacks_current h).bind.map
  | text | click | send | clear | scrollIntoView => exact (lacks_current h).bind
  | press key => exact lacks_press h hvoid
  | mouse steps => exact lacks_mouse steps h
  | screenshot file => exact absurd rfl (hshot file)
  | pageSource | readyState => exact (lacks_command h).map
  | invoke => exact lacks_command h
  | consoleMessages => exact (lacks_command h).bind

theorem lacks_screenshot (h : k.Alone) (file : Path) (disk : Disk) :
    (Client.screenshot file k disk).1 = .error .notStarted := by
  have hfetch : (fetch "/screenshot" >>= imageOf) k = (.error .notStarted, k) :=
    Talk.bind_error (command_of_none (base?_of_no_session h.session))
  rw [screenshot_apply, hfetch]

/-- How a call ends where there is no session, unless it is to open one. -/
theorem errorOf_of_alone {c : Call} (h : k.Alone) (hlaunches : c.launches = false) (disk : Disk) :
    (c.isIdle = false → c.isVoid = false →
      k.errorOf c disk = some .notStarted ∨ k.errorOf c disk = some .noCurrentElement) ∧
    (c.isIdle = true → k.errorOf c disk = none) ∧
    (c.isVoid = true → ∃ what, k.errorOf c disk = some (.unsupported what)) := by
  refine ⟨fun hidle hvoid => ?_, fun hidle => ?_, fun hvoid => ?_⟩
  · have hlacks : (∀ file, c ≠ .screenshot file) →
        BrowserError.of? (serve c k).1 = some .notStarted ∨
        BrowserError.of? (serve c k).1 = some .noCurrentElement := fun hshot =>
      (lacks_serve h hlaunches hidle hvoid hshot).imp (congrArg _) (congrArg _)
    cases c with
    | start => cases hlaunches
    | screenshot file => exact .inl (congrArg _ (lacks_screenshot h file disk))
    | _ => exact hlacks fun _ heq => by cases heq
  · cases c with
    | close =>
      change BrowserError.of? (close k).1 = none
      rw [close_apply, ending_of_none h.session]
      rfl
    | clearCurrent => rfl
    | _ => cases hidle
  · cases c with
    | press key =>
      cases hchar : keyChar? key with
      | none =>
        change ∃ what, BrowserError.of? (press key k).1 = some (.unsupported what)
        rw [press, hchar]
        exact ⟨_, rfl⟩
      | some c =>
        rw [Call.isVoid, hchar] at hvoid
        cases hvoid
    | _ => cases hvoid

-- ======== calls

/-- Whatever has been asked of a client, of the sessions that it has opened just its own is open. -/
theorem settled_after (hk : Settled [] k []) (calls : List (Call × Disk)) :
    Settled [] (k.after calls) (k.after calls).traffic := by
  induction calls with
  | nil =>
    have htraffic : k.traffic = [] := hk.traffic
    rw [Client.after, htraffic]
    exact hk
  | cons latest earlier ih =>
    obtain ⟨new, hsettled, -⟩ := ih.steps (answer_steps latest.1 (k.after earlier) latest.2)
    have htraffic := hsettled.traffic
    rw [List.append_nil] at htraffic
    rw [← htraffic] at hsettled
    exact hsettled

theorem line_after (k : Client) (calls : List (Call × Disk)) : (k.after calls).line = k.line := by
  induction calls with
  | nil => rfl
  | cons latest earlier ih => exact (answer_steps latest.1 (k.after earlier) latest.2).line.trans ih

/-- Requests stay in the session, and are about an element that is on the page. Whatever has been asked
of a new client, whatever was answered, and however the programs go on that it has launched: there is no
element without a session and an address for its requests. Of the sessions that it has opened just its own
is open, and its current element is the one that was found last. Then each message that is sent for a call
is, where no session is open, a request for one where the call says, or for the status of the server that
the call has launched; and otherwise a request of the session that was opened last and is still open, and
any element in it is the current one. Where no session is open, nothing is sent except to open one, and a
call fails for want of a session or an element; but one that has nothing to do then succeeds, and one for
a key that has no character says so. -/
theorem requests_stay_in_session (settings : BrowserSettings) (host : Host) (address : String)
    (reachable : Bool) (responses : List Response) (earlier : List (Call × Disk)) (c : Call)
    (disk : Disk) :
    let start : Client := { settings, host, server := { address, reachable, responses } }
    let k := start.after earlier
    (k.element ≠ none → k.session ≠ none ∧ k.endpoint ≠ none) ∧
    openSessions k.traffic = k.base?.toList ∧
    k.element = start.located earlier ∧
    (∃ sent, (k.afterCall c disk).traffic = sent ++ k.traffic ∧
      ∀ x before, x :: before <:+ sent →
        Fits (c.origin? settings host) (start.located earlier) x (before ++ k.traffic)) ∧
    (openSessions k.traffic = [] → c.launches = false →
      (k.afterCall c disk).traffic = k.traffic ∧
      (c.isIdle = false → c.isVoid = false →
        k.errorOf c disk = some .notStarted ∨ k.errorOf c disk = some .noCurrentElement) ∧
      (c.isIdle = true → k.errorOf c disk = none) ∧
      (c.isVoid = true → ∃ what, k.errorOf c disk = some (.unsupported what))) := by
  intro start k
  have hstart : Settled [] start [] := ⟨rfl, rfl, fun _ h => by cases h⟩
  have hfresh : start.Tidy := ⟨fun _ => rfl, fun _ => rfl⟩
  have hsettled : Settled [] k k.traffic := settled_after hstart earlier
  have htidy : k.Tidy := tidy_after hfresh earlier
  have helement : k.element = start.located earlier := element_after hfresh rfl earlier
  have hsettings : k.settings = settings := congrArg Line.settings (line_after start earlier)
  have hhost : k.host = host := congrArg Line.host (line_after start earlier)
  have hsteps := answer_steps c k disk
  rw [hsettings, hhost] at hsteps
  refine ⟨fun hsome => ?_, hsettled.sessions, helement, ?_, fun hopen hlaunches => ?_⟩
  · have hsession : k.session ≠ none := fun hnone => hsome (htidy.element hnone)
    exact ⟨hsession, fun hnone => hsession (htidy.session hnone)⟩
  · obtain ⟨sent, hsent, hfits⟩ := hsettled.steps hsteps
    exact ⟨sent, hsent.traffic.trans (List.append_nil _), helement ▸ hfits⟩
  · have hnone : k.session = none := by
      rcases hsession : k.session with _ | id
      · rfl
      · rcases hendpoint : k.endpoint with _ | endpoint
        · exact hsession.symm.trans (htidy.session hendpoint)
        · rw [hsettled.sessions, Client.base?, hendpoint, hsession] at hopen
          cases hopen
    rw [Call.origin?_of_not_launches hlaunches] at hsteps
    exact ⟨(hsteps.idle hnone).2, errorOf_of_alone ⟨hnone, htidy.element hnone⟩ hlaunches disk⟩

/-- A client whose server hands out a session, and later an element. -/
def attended : Client :=
  { settings := {}
    server :=
      { address := "", reachable := true
        responses := [.answer 200 "\x7b\"value\":\x7b\"sessionId\":\"s\"\x7d\x7d", Server.blank,
          .answer 200 "\x7b\"value\":\x7b\"element-6066-11e4-a52f-4d7362f9c6f8\":\"e\"\x7d\x7d"] } }

/-- A session is opened, and then an element is looked for. -/
def searching : List (Call × Disk) :=
  [(.locate ⟨.css, "#a"⟩, default), (.connect "http://h/" default, default)]

/-- A click is one request, about the element that was found. -/
theorem requests_stay_in_session_click :
    attended.located searching = some "e" ∧
    openSessions (attended.after searching).traffic = ["http://h/session/s"] ∧
    ∃ sent, ((attended.after searching).afterCall .click default).traffic =
        sent ++ (attended.after searching).traffic ∧
      sent.map (·.url) = ["http://h/session/s/element/e/click"] ∧
      ∀ x before, x :: before <:+ sent →
        Fits none (some "e") x (before ++ (attended.after searching).traffic) := by
  have hlocated : attended.located searching = some "e" := by decide +kernel
  have hopen : openSessions (attended.after searching).traffic = ["http://h/session/s"] := by
    decide +kernel
  have hbefore : (attended.after searching).traffic.map (·.url) =
      ["http://h/session/s/element", "http://h/session/s/window/rect", "http://h/session"] := by
    decide +kernel
  have hafter : ((attended.after searching).afterCall .click default).traffic.map (·.url) =
      ["http://h/session/s/element/e/click", "http://h/session/s/element",
        "http://h/session/s/window/rect", "http://h/session"] := by decide +kernel
  obtain ⟨-, -, -, ⟨sent, hsent, hfits⟩, -⟩ := requests_stay_in_session {} {} "" true
    attended.server.responses searching .click default
  change ((attended.after searching).afterCall .click default).traffic =
    sent ++ (attended.after searching).traffic at hsent
  change ∀ x before, x :: before <:+ sent → Fits none (attended.located searching) x
    (before ++ (attended.after searching).traffic) at hfits
  rw [hlocated] at hfits
  refine ⟨hlocated, hopen, sent, hsent, ?_, hfits⟩
  rw [hsent, List.map_append, hbefore] at hafter
  exact List.append_cancel_right (hafter.trans (List.singleton_append ..).symm)

/-- A client on a host with a server program that is ready at once. -/
def launching : Client :=
  { host := { start := fun disk _ _ _ => .ok ({ checks := 1 }, disk) } }

/-- Without a session, closing it is no failure for want of one, nor is a key that has no character; and a
server that is launched is asked for its status before there is a session. -/
theorem close_succeeds_without_session :
    openSessions launching.traffic = [] ∧
    (launching.errorOf .close default ≠ some .notStarted ∧
      launching.errorOf .close default ≠ some .noCurrentElement) ∧
    (launching.errorOf (.press (.code 0xD800)) default ≠ some .notStarted ∧
      launching.errorOf (.press (.code 0xD800)) default ≠ some .noCurrentElement) ∧
    (launching.afterCall (.start default) default).traffic.map (fun x => (x.verb, x.url)) =
      [(.post, "http://127.0.0.1:49152/session"), (.get, "http://127.0.0.1:49152/status")] := by
  decide +kernel

end PageScript.WebDriver

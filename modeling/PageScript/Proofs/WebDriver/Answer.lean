/-
What each call on a client comes to.

Most calls leave the session and its element as they are, and only make requests. Going to another page
forgets the element, and looking for one changes it. A call to close the browser ends the session, and a
call to launch one does so first.
-/
import PageScript.Proofs.Machine.Contact
import PageScript.Proofs.WebDriver.Talk

namespace PageScript

namespace Call

/-- Whether a call leaves the session and its element as they are. -/
def isSteady : Call → Bool
  | .start _ | .connect .. | .close => false
  | .get _ | .back | .forward | .refresh | .clearCurrent | .locate _ => false
  | _ => true

/-- Whether a call only forgets the element, besides the requests that it makes. -/
def forgets : Call → Bool
  | .get _ | .back | .forward | .refresh | .clearCurrent => true
  | _ => false

/-- Whether a call has nothing to do where there is no session. -/
def isIdle : Call → Bool
  | .close | .clearCurrent => true
  | _ => false

/-- Whether a call is to press a key for which there is no character. -/
def isVoid : Call → Bool
  | .press key => (WebDriver.keyChar? key).isNone
  | _ => false

/-- Where a call opens a session, if it does: where it says, where the settings say, or on a server that
is launched. -/
def origin? (settings : BrowserSettings) (host : WebDriver.Host) : Call → Option WebDriver.Origin
  | .start _ =>
    match settings.webdriverUrl with
    | some url => some ⟨url, false⟩
    | none =>
      (host.portFor (.ofSettings settings)).toOption.map fun port => ⟨WebDriver.localAddress port, true⟩
  | .connect endpoint _ => some ⟨endpoint, false⟩
  | _ => none

theorem origin?_of_not_launches {c : Call} (h : c.launches = false) (settings : BrowserSettings)
    (host : WebDriver.Host) : c.origin? settings host = none := by
  cases c with
  | start | connect => cases h
  | _ => rfl

end Call

/-- Whether an element was looked for that is not there. -/
def BrowserError.isMissing : BrowserError → Bool
  | .noSuchElement _ => true
  | _ => false

namespace WebDriver

open Client

variable {c : Call} {k : Client}

/-- The client after a call. -/
def Client.afterCall (k : Client) (c : Call) (disk : Disk) : Client :=
  (Browser.answer c k disk).2.1

-- ======== within a page

/-- A screenshot is fetched, and then written to the disk. -/
theorem screenshot_apply (file : Path) (k : Client) (disk : Disk) :
    Client.screenshot file k disk = match (fetch "/screenshot" >>= imageOf) k with
      | (.error e, k₁) => (.error e, k₁, disk)
      | (.ok bytes, k₁) =>
        match disk.write file bytes with
        | .ok disk => (.ok (), k₁, disk)
        | .error e => (.error (.io e), k₁, disk) := rfl

theorem screenshot_client (file : Path) (k : Client) (disk : Disk) :
    (Client.screenshot file k disk).2.1 = ((fetch "/screenshot" >>= imageOf) k).2 := by
  rw [screenshot_apply]
  split
  · next h => rw [h]
  · next h =>
    rw [h]
    split <;> rfl

theorem scroll_chats (script : String) :
    Talk.KeepsAt (Chats k.element) (do let _ ← execute script [elementRef (← current)]) k :=
  element_chats fun _ hid =>
    .bind (command_chats (.of_reference hid) k) fun _ k₁ _ => Talk.Keeps.pure _ k₁

theorem consoleMessages_chats : Talk.KeepsAt (Chats k.element) consoleMessages k := by
  refine .bind (command_chats (.plain (by decide) rfl) k) fun _ k₁ _ => ?_
  split
  · exact Talk.Keeps.pure _ k₁
  · exact Talk.Keeps.throw _ k₁

theorem serve_chats (h : c.isSteady = true) (k : Client) :
    Talk.KeepsAt (Chats k.element) (serve c) k := by
  cases c with
  | viewport o => exact viewport_chats o k
  | setPageLoadTimeout seconds =>
    exact .bind (command_chats (.plain (by decide) rfl) k) fun _ k₁ _ =>
      Talk.Keeps.pure _ k₁
  | sendToPage text => exact perform_chats _ k
  | text => exact text_chats
  | tagName => exact (elementFetch_chats (by decide)).map _
  | rect => exact rect_chats
  | state which =>
    refine (elementFetch_chats ?_).map _
    cases which <;> decide
  | checksum =>
    exact .bind (elementFetch_chats (by decide)) fun value k₁ _ =>
      .bind (imageOf_chats value k₁) fun _ k₂ _ => Talk.Keeps.pure _ k₂
  | click => exact elementPost_chats (by decide) rfl
  | send text => exact elementPost_chats (by decide) rfl
  | clear => exact elementPost_chats (by decide) rfl
  | press key => exact press_chats key
  | scrollIntoView => exact scroll_chats _
  | mouse steps => exact mouse_chats steps
  | screenshot file => exact Talk.Keeps.pure _ k
  | pageSource => exact (command_chats (.plain (by decide) rfl) k).map _
  | readyState => exact (command_chats (.of_script fun _ h => absurd h List.not_mem_nil) k).map _
  | invoke hook args =>
    refine command_chats (.of_script fun a ha id hid => ?_) k
    rcases List.mem_cons.1 ha with rfl | ha
    · cases hid
    · rw [List.mem_singleton.1 ha] at hid
      cases hid
  | consoleMessages => exact consoleMessages_chats
  | _ => cases h

/-- A steady call makes requests about the current element at most, and leaves it. -/
theorem steady_chats (h : c.isSteady = true) (k : Client) (disk : Disk) :
    Chats k.element k (k.afterCall c disk) := by
  cases c with
  | screenshot file =>
    have himage : Talk.KeepsAt (Chats k.element) (fetch "/screenshot" >>= imageOf) k :=
      .bind (command_chats (.plain (by decide) rfl) k) fun value k₁ _ =>
        imageOf_chats value k₁
    rw [Talk.KeepsAt, ← screenshot_client file k disk] at himage
    exact himage
  | start => cases h
  | _ => exact serve_chats h k

-- ======== other elements

theorem navigate_chats {path : String} {body : Json} (h : Uses none path (some body)) (k : Client) :
    Chats none (k.pointing none) (navigate path body k).2 := by
  have hposted : Talk.KeepsAt (Chats none) (do let _ ← post path body) (k.pointing none) :=
    .bind (command_chats h _) fun _ k₁ _ => Talk.Keeps.pure _ k₁
  exact hposted

/-- A call that forgets the element does so first, and its requests are about none. -/
theorem forgets_chats (h : c.forgets = true) (k : Client) (disk : Disk) :
    Chats none (k.pointing none) (k.afterCall c disk) := by
  cases c with
  | get url => exact navigate_chats (.plain (by decide) rfl) k
  | back => exact navigate_chats (.plain (by decide) rfl) k
  | forward => exact navigate_chats (.plain (by decide) rfl) k
  | refresh => exact navigate_chats (.plain (by decide) rfl) k
  | clearCurrent => exact refl_of (Chats none) (k.pointing none)
  | _ => cases h

/-- The element that the latest message brings. -/
def Client.found? (k : Client) : Option String :=
  k.traffic.head?.bind fun x => x.response.value.toOption.bind elementOf?

/-- What is asked for when an element is looked for. -/
def Client.query (l : Locator) : Talk Json :=
  post "/element" (Json.ofFields [("using", .str (strategy l).1), ("value", .str (strategy l).2)])

theorem locate_apply (l : Locator) (k : Client) :
    locate l k = (match (query l k).1 with
      | .ok value =>
        match elementOf? value with
        | some id => setElement (some id)
        | none => throw (.protocol 200 "invalid element reference" value.compact)
      | .error (.noSuchElement _) => do
        setElement none
        throw (.noSuchElement l.display)
      | .error e => throw e : Talk Unit) (query l k).2 :=
  Talk.bind_ok rfl

/-- How a call ends that looks for an element. If one is found, it is the one that the latest message
brings; if there is none, there is no current element any more, and if something else goes wrong, the
current element is still the same. -/
theorem locate_cases (l : Locator) (k : Client) :
    ∃ k₁, Chats k.element k k₁ ∧
      ((∃ id, k₁.base? ≠ none ∧ k₁.found? = some id ∧
          locate l k = (.ok (), k₁.pointing (some id))) ∨
        (∃ e, e.isMissing = true ∧ locate l k = (.error e, k₁.pointing none)) ∨
        ∃ e, e.isMissing = false ∧ locate l k = (.error e, k₁)) := by
  have hchats : Talk.KeepsAt (Chats k.element) (query l) k :=
    command_chats (.plain (by decide) rfl) k
  rw [Talk.KeepsAt] at hchats
  refine ⟨(query l k).2, hchats, ?_⟩
  rw [locate_apply]
  rcases hquery : query l k with ⟨e | value, k₁⟩
  · cases e with
    | noSuchElement what => exact .inr (.inl ⟨_, rfl, rfl⟩)
    | _ => exact .inr (.inr ⟨_, rfl, rfl⟩)
  · obtain ⟨hbase, x, htraffic, hvalue⟩ := exists_message_of_command hquery
    rw [hquery] at hchats
    dsimp only
    cases helement : elementOf? value with
    | none => exact .inr (.inr ⟨_, rfl, rfl⟩)
    | some id =>
      refine .inl ⟨id, hchats.base? ▸ hbase, ?_, rfl⟩
      rw [found?, htraffic, List.head?_cons, Option.bind_some, hvalue]
      exact helement

-- ======== sessions

/-- The request with which a session is ended, where there is one. -/
def Client.ending (k : Client) : Except BrowserError Json × Client :=
  if k.session.isSome then command .delete "" none k else (.ok .null, k)

theorem close_apply (k : Client) :
    close k = (k.ending.1.map fun _ => (), k.ending.2.alone) := by
  refine (Talk.bind_ok (a := k.ending.1) rfl).trans ?_
  cases k.ending.1 <;> rfl

theorem ending_of_none (h : k.session = none) : k.ending = (.ok .null, k) := by
  rw [Client.ending, h]
  rfl

/-- A session is ended with a request to delete it, if this gets through, and is forgotten. -/
theorem close_steps (element : Option String) (k : Client) :
    Steps none element k (close k).2 := by
  rw [close_apply]
  cases hbase : k.base? with
  | none =>
    have hunsent : k.ending.2 = k := by
      rw [Client.ending]
      split
      · rw [command_of_none hbase]
      · rfl
    rw [hunsent]
    refine .single (.lose fun base h => ?_)
    cases hbase.symm.trans h
  | some base =>
    have hsession : k.session.isSome = true := by
      cases hsession : k.session with
      | none => cases (base?_of_no_session hsession).symm.trans hbase
      | some id => rfl
    rw [Client.ending, if_pos hsession, command_of_some hbase, String.append_empty]
    cases hdelivers : k.delivers base with
    | false =>
      obtain ⟨reason, hrequest⟩ := request_of_not_delivers .delete none hdelivers
      rw [hrequest]
      refine .single (.lose fun base' h => ?_)
      cases hbase.symm.trans h
      exact hdelivers
    | true =>
      obtain ⟨response, k₁, hrequest, hadds⟩ := request_of_delivers .delete none hdelivers
      rw [hrequest]
      exact .single (.finish hbase hadds)

theorem alone_close (k : Client) : (close k).2.session = none ∧ (close k).2.element = none := by
  rw [close_apply]
  exact ⟨rfl, rfl⟩

theorem retire_apply (k : Client) : retire k = if k.session.isSome then close k else (.ok (), k) := by
  rw [retire, Talk.get_bind_apply]
  split <;> rfl

theorem retire_steps (element : Option String) (k : Client) :
    Steps none element k (retire k).2 ∧ (retire k).2.session = none := by
  rw [retire_apply]
  split
  · exact ⟨close_steps element k, (alone_close k).1⟩
  · next h => exact ⟨.refl, by simpa using h⟩

/-- The request for a session, and what is answered. -/
def opening (endpoint : String) (o : BrowserOptions) (response : Response) : Message :=
  ⟨.post, trimSlashes endpoint ++ "/session", some (capabilities o), response⟩

theorem opened?_opening (endpoint : String) (o : BrowserOptions) (response : Response) :
    (opening endpoint o response).opened? = (response.value.toOption.bind Message.sessionOf?).map
      fun id => (opening endpoint o response).url ++ "/" ++ id := by
  have hsession : "/session".toList <:+ (opening endpoint o response).url.toList := by
    rw [opening, String.toList_append]
    exact List.suffix_append ..
  rw [Message.opened?, if_pos ⟨rfl, hsession⟩]
  rfl

section OpenSession

variable {endpoint : String} {o : BrowserOptions} {value : Json} {k₁ : Client}

theorem openSession_of_refused
    (h : request .post (trimSlashes endpoint ++ "/session") (some (capabilities o)) k =
      (.ok value, k₁)) (hid : Message.sessionOf? value = none) :
    (openSession endpoint o k).2 = k₁ := by
  change (value.field? "sessionId").bind Json.text? = none at hid
  rw [openSession, Talk.bind_ok h, hid]
  rfl

theorem openSession_of_handed {id : String}
    (h : request .post (trimSlashes endpoint ++ "/session") (some (capabilities o)) k =
      (.ok value, k₁)) (hid : Message.sessionOf? value = some id) :
    openSession endpoint o k = viewport o (k₁.joining (trimSlashes endpoint) id) := by
  change (value.field? "sessionId").bind Json.text? = some id at hid
  rw [openSession, Talk.bind_ok h, hid]
  rfl

/-- How the request for a session ends: it does not get through, or no session is handed out, or the
client has one then, and gives the page its size. -/
theorem openSession_cases (endpoint : String) (o : BrowserOptions) (k : Client) :
    (openSession endpoint o k).2 = k ∨
      ∃ response k₁, Adds (opening endpoint o response) k k₁ ∧
        k.delivers (opening endpoint o response).url = true ∧
        ((opening endpoint o response).opened? = none ∧ (openSession endpoint o k).2 = k₁ ∨
          ∃ id, (opening endpoint o response).opened? =
              some ((opening endpoint o response).url ++ "/" ++ id) ∧
            openSession endpoint o k = viewport o (k₁.joining (trimSlashes endpoint) id)) := by
  cases hdelivers : k.delivers (trimSlashes endpoint ++ "/session") with
  | false =>
    obtain ⟨reason, hrequest⟩ :=
      request_of_not_delivers .post (some (capabilities o)) hdelivers
    rw [openSession, Talk.bind_error hrequest]
    exact .inl rfl
  | true =>
    obtain ⟨response, k₁, hrequest, hadds⟩ :=
      request_of_delivers .post (some (capabilities o)) hdelivers
    refine .inr ⟨response, k₁, hadds, hdelivers, ?_⟩
    rw [opened?_opening]
    cases hvalue : response.value with
    | error e =>
      rw [hvalue] at hrequest
      rw [openSession, Talk.bind_error hrequest]
      exact .inl ⟨rfl, rfl⟩
    | ok value =>
      rw [hvalue] at hrequest
      rw [Except.toOption, Option.bind_some]
      cases hid : Message.sessionOf? value with
      | none => exact .inl ⟨rfl, openSession_of_refused hrequest hid⟩
      | some id => exact .inr ⟨id, rfl, openSession_of_handed hrequest hid⟩

/-- Where there is no session, one may be opened. -/
theorem openSession_steps (origin : Origin) (element : Option String) (h : k.session = none)
    (o : BrowserOptions) :
    Steps (some origin) element k (openSession origin.endpoint o k).2 := by
  rcases openSession_cases origin.endpoint o k with
    hfailed | ⟨response, k₁, hadds, hdelivers, ⟨hopened, hrefused⟩ | ⟨id, hopened, hhanded⟩⟩
  · rw [hfailed]
    exact .refl
  · rw [hrefused]
    exact .single (.refuse h rfl rfl rfl hopened hadds)
  · rw [hhanded]
    have hsized : Talk.KeepsAt (Chats element) (viewport o)
        (k₁.joining (trimSlashes origin.endpoint) id) := viewport_chats o _
    exact .trans (.single (.join h rfl rfl rfl hopened hdelivers hadds)) hsized.steps.of_none

/-- If there was no current element before, there is none then. -/
theorem openSession_element (endpoint : String) (o : BrowserOptions) (h : k.element = none) :
    (openSession endpoint o k).2.element = none := by
  rcases openSession_cases endpoint o k with
    hfailed | ⟨response, k₁, hadds, -, ⟨-, hrefused⟩ | ⟨id, -, hhanded⟩⟩
  · rw [hfailed, h]
  · rw [hrefused, hadds.element, h]
  · rw [hhanded]
    have hsized : Talk.KeepsAt (Chats none) (viewport o)
        (k₁.joining (trimSlashes endpoint) id) := viewport_chats o _
    exact hsized.element

end OpenSession

-- ======== launching

section Launching

variable {element : Option String}

/-- Waiting for a server to be ready takes no more than requests for its status. -/
theorem awaitReady_stays {endpoint : String} (h : k.session = none)
    (exit : Option (Nat × ExitStatus)) (asked left : Nat) :
    Talk.KeepsAt (Stays (some ⟨endpoint, true⟩) element)
      (awaitReady (endpoint ++ "/status") exit asked left) k := by
  induction left generalizing k asked with
  | zero => exact Talk.Keeps.throw _ k
  | succ left ih =>
    have hasked : Stays (some ⟨endpoint, true⟩) element k (isReady (endpoint ++ "/status") k).2 := by
      change Stays _ _ k { k with server := (k.server.send .get (endpoint ++ "/status") none).2 }
      cases hdelivers : k.delivers (endpoint ++ "/status") with
      | false =>
        rw [send_of_not_delivers .get none hdelivers]
        exact refl_of (Stays _ _) k
      | true =>
        obtain ⟨response, -, hadds⟩ := send_of_delivers .get none hdelivers
        exact ⟨hadds.toSame, .single (.poll h rfl rfl rfl hadds)⟩
    rw [awaitReady]
    split
    · exact Talk.Keeps.throw _ k
    · refine .bind hasked fun ready k₁ hready => ?_
      split
      · rw [hready] at hasked
        exact ih (hasked.session.trans h) _
      · exact Talk.Keeps.pure _ k₁

/-- A server is found without a change of the session, and where the call opens one. -/
theorem findServer_stays (element : Option String) (h : k.session = none) (o : BrowserOptions)
    (disk : Disk) :
    Stays ((Call.start o).origin? k.settings k.host) element k (k.findServer disk).2.1 ∧
      ∀ endpoint, (k.findServer disk).1 = .ok endpoint →
        ∃ launched, (Call.start o).origin? k.settings k.host = some ⟨endpoint, launched⟩ := by
  have hhere : ∀ {origin}, Stays origin element k k := refl_of (Stays _ _) k
  rw [Client.findServer, Call.origin?]
  cases k.settings.webdriverUrl with
  | some url => exact ⟨hhere, fun endpoint hfound => ⟨false, by cases hfound; rfl⟩⟩
  | none =>
    dsimp only
    rw [Client.launch]
    cases hport : k.host.portFor (.ofSettings k.settings) with
    | error e => exact ⟨hhere, fun endpoint hfound => by cases hfound⟩
    | ok port =>
      dsimp only
      split
      · exact ⟨hhere, fun endpoint hfound => by cases hfound⟩
      · next startup disk' _ =>
        have hwaits : Talk.KeepsAt (Stays (some ⟨localAddress port, true⟩) element)
            (awaitReady (localAddress port ++ "/status") startup.exit 0 startup.checks) k :=
          awaitReady_stays h ..
        refine ⟨hwaits, fun endpoint hfound => ⟨true, ?_⟩⟩
        rcases hready : awaitReady (localAddress port ++ "/status") startup.exit 0 startup.checks k
          with ⟨e | ⟨⟩, k₁⟩ <;> rw [ExceptT.run, hready] at hfound <;> cases hfound
        rfl

/-- A call to launch a browser ends the session that there is, and may then open another one. -/
theorem launch_steps (element : Option String) (h : c.launches = true) (k : Client) (disk : Disk) :
    ∃ k₁, Steps none element k k₁ ∧ k₁.session = none ∧
      Steps (c.origin? k.settings k.host) element k₁ (k.afterCall c disk) ∧
      (k₁.element = none → (k.afterCall c disk).element = none) := by
  obtain ⟨hretired, hnone⟩ := retire_steps element k
  have hsettings : (retire k).2.settings = k.settings := congrArg Line.settings hretired.line
  have hhost : (retire k).2.host = k.host := congrArg Line.host hretired.line
  refine ⟨(retire k).2, hretired, hnone, ?_⟩
  rw [Client.afterCall]
  cases c with
  | connect endpoint o =>
    change Steps _ _ _ ((retire >>= fun _ => openSession endpoint o) k).2 ∧
      (_ → ((retire >>= fun _ => openSession endpoint o) k).2.element = none)
    rcases hrun : retire k with ⟨e | ⟨⟩, k₁⟩
    · rw [Talk.bind_error hrun]
      exact ⟨.refl, id⟩
    · rw [Talk.bind_ok hrun]
      rw [hrun] at hnone
      exact ⟨openSession_steps ⟨endpoint, false⟩ element hnone o,
        openSession_element endpoint o⟩
  | start o =>
    change Steps _ _ _ (Client.start o k disk).2.1 ∧
      (_ → (Client.start o k disk).2.1.element = none)
    rw [Client.start]
    rcases hrun : retire k with ⟨e | ⟨⟩, k₁⟩
    · rw [ExceptT.run, hrun]
      exact ⟨.refl, id⟩
    · rw [hrun] at hnone hsettings hhost
      rw [ExceptT.run, hrun, ← hsettings, ← hhost]
      obtain ⟨hstays, horigin⟩ := findServer_stays element hnone o disk
      dsimp only at hnone hstays horigin ⊢
      rcases hfound : k₁.findServer disk with ⟨e | endpoint, k₂, disk₂⟩
        <;> rw [hfound] at hstays horigin
      · exact ⟨hstays.steps, fun hidle => hstays.element.trans hidle⟩
      · obtain ⟨launched, horigin⟩ := horigin endpoint rfl
        rw [horigin] at hstays ⊢
        exact ⟨hstays.steps.trans (openSession_steps ⟨endpoint, launched⟩ element
            (hstays.session.trans hnone) o),
          fun hidle => openSession_element endpoint o (hstays.element.trans hidle)⟩
  | _ => cases h

end Launching

-- ======== all calls

/-- Whatever is asked of a client, it does by steps. Its requests are about the element that is current
when it is asked, and it opens a session only where the call says so. -/
theorem answer_steps (c : Call) (k : Client) (disk : Disk) :
    Steps (c.origin? k.settings k.host) k.element k (k.afterCall c disk) := by
  have hlaunch : c.launches = true →
      Steps (c.origin? k.settings k.host) k.element k (k.afterCall c disk) := by
    intro h
    obtain ⟨k₁, hclosed, -, hopened, -⟩ := launch_steps k.element h k disk
    exact hclosed.of_none.trans hopened
  cases c with
  | start | connect => exact hlaunch rfl
  | close => exact close_steps k.element k
  | get | back | forward | refresh | clearCurrent =>
    exact .trans (.single (.point none (absurd rfl))) (forgets_chats rfl k disk).steps.of_unused
  | locate l =>
    change Steps none k.element k (locate l k).2
    obtain ⟨k₁, hchats, ⟨id, hbase, -, hlocate⟩ | ⟨e, -, hlocate⟩ | ⟨e, -, hlocate⟩⟩ :=
      locate_cases l k
    · rw [hlocate]
      exact .tail hchats.steps (.point (some id) fun _ => hbase)
    · rw [hlocate]
      exact .tail hchats.steps (.point none (absurd rfl))
    · rw [hlocate]
      exact hchats.steps
  | _ => exact (steady_chats rfl k disk).steps.of_none

end WebDriver

end PageScript

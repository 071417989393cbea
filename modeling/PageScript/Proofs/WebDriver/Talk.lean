/-
What a client does, step by step.

Whatever is asked of a client, it does by few kinds of steps: a request of its session, a change of the
current element, the end of the session, and, where it has none, the request for a new one, or for the
status of a server that it has launched for it. `Step` says of each kind when it is taken and what it
leaves, and `answer_steps` that nothing else is done for a call. What is true of each step is true of
everything that a client does.
-/
import Mathlib.Logic.Relation
import Mathlib.Order.Defs.Unbundled
import PageScript.Proofs.WebDriver.Message

namespace PageScript.WebDriver

-- ======== talks

namespace Talk

variable {α β : Type} {R : Client → Client → Prop} {k k' k₁ : Client}

theorem bind_ok {x : Talk α} {f : α → Talk β} {a : α} (h : x k = (.ok a, k₁)) :
    (x >>= f) k = f a k₁ := by
  show ExceptT.bind x f k = _
  simp only [ExceptT.bind, ExceptT.mk, StateT.bind, bind, h]
  rfl

theorem bind_error {x : Talk α} {f : α → Talk β} {e : BrowserError} (h : x k = (.error e, k₁)) :
    (x >>= f) k = (.error e, k₁) := by
  show ExceptT.bind x f k = _
  simp only [ExceptT.bind, ExceptT.mk, StateT.bind, bind, h]
  rfl

@[simp] theorem get_bind_apply (f : Client → Talk β) (k : Client) : (get >>= f) k = f k k := rfl

/-- What a client does from where it starts leaves a client that is `R`-related to it. -/
def KeepsAt (R : Client → Client → Prop) (x : Talk α) (k : Client) : Prop :=
  R k (x k).2

/-- The same, wherever it starts. -/
def Keeps (R : Client → Client → Prop) (x : Talk α) : Prop :=
  ∀ k, KeepsAt R x k

theorem KeepsAt.of_eq {x : Talk α} {r : Except BrowserError α} (h : x k = (r, k')) (hk : R k k') :
    KeepsAt R x k := by
  rw [KeepsAt, h]
  exact hk

section Preorder

variable [IsPreorder Client R]

theorem KeepsAt.bind {x : Talk α} {f : α → Talk β} (hx : KeepsAt R x k)
    (hf : ∀ a k₁, x k = (.ok a, k₁) → KeepsAt R (f a) k₁) : KeepsAt R (x >>= f) k := by
  rcases hxk : x k with ⟨e | a, k₁⟩
  · rw [KeepsAt, bind_error hxk]
    rw [KeepsAt, hxk] at hx
    exact hx
  · rw [KeepsAt, bind_ok hxk]
    rw [KeepsAt, hxk] at hx
    exact trans_of R hx (hf a k₁ hxk)

theorem Keeps.pure (a : α) : Keeps R (pure a : Talk α) :=
  fun k => refl_of R k

theorem Keeps.throw (e : BrowserError) : Keeps R (throw e : Talk α) :=
  fun k => refl_of R k

theorem KeepsAt.map {x : Talk α} (f : α → β) (hx : KeepsAt R x k) : KeepsAt R (f <$> x) k := by
  rw [map_eq_pure_bind]
  exact hx.bind fun _ k₁ _ => Keeps.pure _ k₁

end Preorder

end Talk

-- ======== requests

/-- A server after an exchange. -/
def Server.keeping (s : Server) (x : Exchange) (responses : List Response) : Server :=
  { s with responses, exchanges := x :: s.exchanges }

theorem Server.serve_eq (s : Server) (request : Request) :
    ∃ response responses, s.serve request = (response, s.keeping ⟨request, response⟩ responses) := by
  rw [serve]
  split
  exact ⟨_, _, rfl⟩

namespace Client

variable {verb : Verb} {url : String} {body : Option Json} {k k' : Client}

/-- A client that knows of the same session and element as another one. -/
structure Same (k k' : Client) : Prop where
  endpoint : k'.endpoint = k.endpoint
  session : k'.session = k.session
  element : k'.element = k.element

theorem Same.base? (h : Same k k') : k'.base? = k.base? := by
  rw [Client.base?, Client.base?, h.endpoint, h.session]

instance : IsPreorder Client Same where
  refl _ := ⟨rfl, rfl, rfl⟩
  trans _ _ _ h₁ h₂ := ⟨h₂.endpoint.trans h₁.endpoint, h₂.session.trans h₁.session,
    h₂.element.trans h₁.element⟩

/-- A client that has sent one more message, with the same session still. -/
structure Adds (x : Message) (k k' : Client) : Prop extends Same k k' where
  line : k'.line = k.line
  traffic : k'.traffic = x :: k.traffic

/-- The result of a request, by what became of it. -/
def resultOf : Except BrowserError (Nat × String) → Except BrowserError Json
  | .ok (status, text) => readAnswer status text
  | .error e => .error e

theorem liftExcept_apply {α : Type} (e : Except BrowserError α) (k : Client) :
    request.liftExcept e k = (e, k) := by
  cases e <;> rfl

theorem request_apply (k : Client) :
    request verb url body k = (resultOf (k.server.send verb url body).1,
      { k with server := (k.server.send verb url body).2 }) := by
  have hread : ∀ sent (k : Client), (do
      let received ← request.liftExcept sent
      request.liftExcept (readAnswer received.1 received.2) : Talk Json) k = (resultOf sent, k) := by
    intro sent k
    rcases sent with e | ⟨status, text⟩
    · rfl
    · exact (Talk.bind_ok (liftExcept_apply _ k)).trans (liftExcept_apply _ k)
  exact hread ..

/-- What is sent and gets through is one more message, and its result is what the response brings. -/
theorem send_of_delivers (verb : Verb) (body : Option Json) (h : k.delivers url = true) :
    ∃ response, resultOf (k.server.send verb url body).1 = response.value ∧
      Adds ⟨verb, url, body, response⟩ k { k with server := (k.server.send verb url body).2 } := by
  obtain ⟨hreach, hpre⟩ := Bool.and_eq_true_iff.1 h
  obtain ⟨path, hpath⟩ : ∃ path, k.server.pathOf? url = some path := by
    rw [Server.pathOf?, if_pos hpre]
    exact ⟨_, rfl⟩
  obtain ⟨response, responses, hserve⟩ := k.server.serve_eq ⟨verb, path, body⟩
  have hsend : resultOf (k.server.send verb url body).1 = response.value ∧
      (k.server.send verb url body).2 =
        k.server.keeping ⟨⟨verb, path, body⟩, response⟩ responses := by
    rw [Server.send, hreach, hpath]
    dsimp only
    rw [hserve]
    cases response <;> exact ⟨rfl, rfl⟩
  refine ⟨response, hsend.1, ⟨rfl, rfl, rfl⟩, by rw [hsend.2]; rfl, ?_⟩
  rw [hsend.2, ← Server.append_of_pathOf? hpath]
  rfl

/-- What does not get through changes nothing. -/
theorem send_of_not_delivers (verb : Verb) (body : Option Json) (h : k.delivers url = false) :
    k.server.send verb url body = (.error (.http "error sending request"), k.server) := by
  rw [Server.send]
  split
  · next path hreach hpath =>
    rw [Server.pathOf?] at hpath
    split at hpath
    · next hpre => rw [delivers, hreach, hpre] at h; cases h
    · cases hpath
  · rfl

theorem request_of_delivers (verb : Verb) (body : Option Json) (h : k.delivers url = true) :
    ∃ response k', request verb url body k = (response.value, k') ∧
      Adds ⟨verb, url, body, response⟩ k k' := by
  obtain ⟨response, hresult, hadds⟩ := send_of_delivers verb body h
  exact ⟨response, _, by rw [request_apply, hresult], hadds⟩

theorem request_of_not_delivers (verb : Verb) (body : Option Json) (h : k.delivers url = false) :
    ∃ reason, request verb url body k = (.error (.http reason), k) :=
  ⟨_, by rw [request_apply, send_of_not_delivers verb body h, resultOf]⟩

theorem command_of_none {path : String} (h : k.base? = none) :
    command verb path body k = (.error .notStarted, k) := by
  rw [command, Talk.get_bind_apply]
  rcases hendpoint : k.endpoint with _ | endpoint
  · rfl
  · rcases hsession : k.session with _ | id
    · rfl
    · rw [base?, hendpoint, hsession] at h
      cases h

theorem command_of_some {path base : String} (h : k.base? = some base) :
    command verb path body k = request verb (base ++ path) body k := by
  rw [base?] at h
  rw [command, Talk.get_bind_apply]
  split at h
  · next hendpoint hsession =>
    cases h
    rw [hendpoint, hsession]
  · cases h

/-- A request of the session fails with nothing sent, or is one more message. -/
theorem command_cases (verb : Verb) (path : String) (body : Option Json) (k : Client) :
    (∃ e, command verb path body k = (.error e, k)) ∨
      ∃ base response k', k.base? = some base ∧ command verb path body k = (response.value, k') ∧
        Adds ⟨verb, base ++ path, body, response⟩ k k' := by
  cases hbase : k.base? with
  | none => exact .inl ⟨_, command_of_none hbase⟩
  | some base =>
    rw [command_of_some hbase]
    cases hdelivers : k.delivers (base ++ path) with
    | false =>
      obtain ⟨reason, hrequest⟩ := request_of_not_delivers verb body hdelivers
      exact .inl ⟨_, hrequest⟩
    | true =>
      obtain ⟨response, k', hrequest, hadds⟩ := request_of_delivers verb body hdelivers
      exact .inr ⟨base, response, k', rfl, hrequest, hadds⟩

/-- A value comes from a message of the session. -/
theorem exists_message_of_command {path : String} {value : Json}
    (h : command verb path body k = (.ok value, k')) :
    k.base? ≠ none ∧ ∃ x, k'.traffic = x :: k.traffic ∧ x.response.value = .ok value := by
  rcases command_cases verb path body k with
    ⟨e, hfailed⟩ | ⟨base, response, k₁, hbase, hsent, hadds⟩
  · cases hfailed.symm.trans h
  · obtain ⟨hvalue, rfl⟩ := Prod.ext_iff.1 (hsent.symm.trans h)
    exact ⟨by rw [hbase]; exact Option.some_ne_none _, _, hadds.traffic, hvalue⟩

theorem current_of_some {id : String} (h : k.element = some id) : current k = (.ok id, k) := by
  rw [current, Talk.get_bind_apply, h]
  rfl

theorem current_of_none (h : k.element = none) : current k = (.error .noCurrentElement, k) := by
  rw [current, Talk.get_bind_apply, h]
  rfl

/-- The client with another current element, or with none. -/
def pointing (k : Client) (element : Option String) : Client :=
  { k with element }

/-- The client without its session. -/
def alone (k : Client) : Client :=
  { k with session := none, element := none }

/-- The client with a new session. -/
def joining (k : Client) (endpoint id : String) : Client :=
  { k with endpoint := some endpoint, session := some id, element := none }

end Client

-- ======== steps

/-- What a request of a session may name. Its path below that of the session starts with a slash and is
not that of a request for a session. If it is about an element, then about the given one, and any element
among the arguments of a script is that one. -/
structure Uses (element : Option String) (rest : String) (body : Option Json) : Prop where
  slash : rest.toList.head? = some '/'
  last : rest.toList.getLast? ≠ some 'n'
  path : "/element/".toList <+: rest.toList → ∃ id what, element = some id ∧
    '/' ∉ what.toList ∧ rest = "/element/" ++ id ++ "/" ++ what
  args : ∀ args, body.bind (·.field? "args") = some (.arr args) → ∀ a ∈ args, ∀ id,
    elementOf? a = some id → element = some id

theorem Uses.of_none {element : Option String} {rest : String} {body : Option Json}
    (h : Uses none rest body) : Uses element rest body where
  slash := h.slash
  last := h.last
  path hpre := by
    obtain ⟨_, _, hnone, -⟩ := h.path hpre
    cases hnone
  args args hargs a ha id hid := nomatch h.args args hargs a ha id hid

open Client

/-- Where a session may be opened, and whether on a server that is launched for it. -/
structure Origin where
  endpoint : String
  launched : Bool

/-- One step of a client, which may open a session at the given origin, and whose requests may be about
the given element. -/
inductive Step (origin : Option Origin) (element : Option String) (k : Client) : Client → Prop
  | ask {k' : Client} {base rest : String} {x : Message} : k.base? = some base →
      x.url = base ++ rest → Uses element rest x.body → Adds x k k' → Step origin element k k'
  | point (other : Option String) : (other ≠ none → k.base? ≠ none) →
      Step origin element k (k.pointing other)
  | finish {k' : Client} {base : String} {response : Response} : k.base? = some base →
      Adds ⟨.delete, base, none, response⟩ k k' → Step origin element k k'.alone
  | lose : (∀ base, k.base? = some base → k.delivers base = false) → Step origin element k k.alone
  | poll {k' : Client} {endpoint : String} {x : Message} : k.session = none →
      origin = some ⟨endpoint, true⟩ → x.verb = .get → x.url = endpoint ++ "/status" →
      Adds x k k' → Step origin element k k'
  | refuse {k' : Client} {o : Origin} {x : Message} : k.session = none → origin = some o →
      x.verb = .post → x.url = trimSlashes o.endpoint ++ "/session" → x.opened? = none →
      Adds x k k' → Step origin element k k'
  | join {k' : Client} {o : Origin} {id : String} {x : Message} : k.session = none →
      origin = some o → x.verb = .post → x.url = trimSlashes o.endpoint ++ "/session" →
      x.opened? = some (x.url ++ "/" ++ id) → k.delivers x.url = true → Adds x k k' →
      Step origin element k (k'.joining (trimSlashes o.endpoint) id)

/-- Any number of steps. -/
def Steps (origin : Option Origin) (element : Option String) (k k' : Client) : Prop :=
  Relation.ReflTransGen (Step origin element) k k'

/-- Any number of steps that leave the session and its element as they are. -/
structure Stays (origin : Option Origin) (used : Option String) (k k' : Client) : Prop
    extends Same k k' where
  steps : Steps origin used k k'

/-- Any number of steps that are no more than requests of the session. -/
abbrev Chats (used : Option String) : Client → Client → Prop :=
  Stays none used

section Steps

variable {origin : Option Origin} {element : Option String} {k k' : Client}

instance : IsPreorder Client (Stays origin element) where
  refl k := ⟨refl_of Same k, .refl⟩
  trans _ _ _ h₁ h₂ := ⟨trans_of Same h₁.toSame h₂.toSame, h₁.steps.trans h₂.steps⟩

/-- What opens no session is a step wherever one might be opened, and what is about no other element. -/
theorem Step.mono {other : Option String} (h : Step none other k k')
    (huses : ∀ {rest body}, Uses other rest body → Uses element rest body) :
    Step origin element k k' := by
  cases h with
  | ask hbase hurl h hadds => exact .ask hbase hurl (huses h) hadds
  | point other hpoint => exact .point other hpoint
  | finish hbase hadds => exact .finish hbase hadds
  | lose hlost => exact .lose hlost
  | poll _ horigin | refuse _ horigin | join _ horigin => cases horigin

theorem Steps.of_none (h : Steps none element k k') : Steps origin element k k' :=
  h.lift id fun _ _ h => h.mono id

theorem Steps.of_unused (h : Steps none none k k') : Steps origin element k k' :=
  h.lift id fun _ _ h => h.mono Uses.of_none

theorem Step.line (h : Step origin element k k') : k'.line = k.line := by
  cases h with
  | ask _ _ _ hadds | poll _ _ _ _ hadds | refuse _ _ _ _ _ hadds => exact hadds.line
  | finish _ hadds | join _ _ _ _ _ _ hadds => exact hadds.line
  | point | lose => rfl

theorem Steps.line (h : Steps origin element k k') : k'.line = k.line := by
  induction h with
  | refl => rfl
  | tail _ hstep ih => exact hstep.line.trans ih

/-- There is no element without a session, and no session without an address for its requests. -/
structure Client.Tidy (k : Client) : Prop where
  session : k.endpoint = none → k.session = none
  element : k.session = none → k.element = none

theorem Client.Same.tidy (h : Same k k') (hk : k.Tidy) : k'.Tidy where
  session := by
    rw [h.endpoint, h.session]
    exact hk.session
  element := by
    rw [h.session, h.element]
    exact hk.element

theorem Step.tidy (h : Step origin element k k') (hk : k.Tidy) : k'.Tidy := by
  cases h with
  | ask _ _ _ hadds | poll _ _ _ _ hadds | refuse _ _ _ _ _ hadds => exact hadds.tidy hk
  | point other hpoint =>
    refine ⟨hk.session, fun hnone => ?_⟩
    exact Classical.byContradiction fun hother => hpoint hother (base?_of_no_session hnone)
  | finish | lose => exact ⟨fun _ => rfl, fun _ => rfl⟩
  | join => exact ⟨fun h => (by cases h), fun _ => rfl⟩

theorem Steps.tidy (h : Steps origin element k k') (hk : k.Tidy) : k'.Tidy := by
  induction h with
  | refl => exact hk
  | tail _ hstep ih => exact hstep.tidy ih

end Steps

-- ======== requests

section Requests

variable {element : Option String} {verb : Verb} {path : String} {body : Option Json} {k : Client}

theorem command_chats (h : Uses element path body) :
    Talk.Keeps (Chats element) (command verb path body) := by
  intro k
  rcases command_cases verb path body k with ⟨e, hfailed⟩ | ⟨base, response, k', hbase, hsent, hadds⟩
  · exact .of_eq hfailed (refl_of _ k)
  · exact .of_eq hsent ⟨hadds.toSame, .single (.ask hbase rfl h hadds)⟩

/-- The path of a request that is about no element. -/
structure IsPlain (path : String) : Prop where
  slash : path.toList.head? = some '/'
  last : path.toList.getLast? ≠ some 'n'
  element : ¬"/element/".toList <+: path.toList

instance (path : String) : Decidable (IsPlain path) :=
  decidable_of_iff (path.toList.head? = some '/' ∧ path.toList.getLast? ≠ some 'n' ∧
      ¬"/element/".toList <+: path.toList)
    ⟨fun h => ⟨h.1, h.2.1, h.2.2⟩, fun h => ⟨h.slash, h.last, h.element⟩⟩

theorem Uses.plain (hpath : IsPlain path) (hargs : body.bind (·.field? "args") = none) :
    Uses element path body where
  slash := hpath.slash
  last := hpath.last
  path h := absurd h hpath.element
  args _ h := by
    rw [hargs] at h
    cases h

/-- The last part of the path of a request about an element. -/
structure IsWord (what : String) : Prop where
  slash : '/' ∉ what.toList
  last : what.toList.getLast? ≠ some 'n'
  ne_nil : what.toList ≠ []

instance (what : String) : Decidable (IsWord what) :=
  decidable_of_iff ('/' ∉ what.toList ∧ what.toList.getLast? ≠ some 'n' ∧ what.toList ≠ [])
    ⟨fun h => ⟨h.1, h.2.1, h.2.2⟩, fun h => ⟨h.slash, h.last, h.ne_nil⟩⟩

theorem Uses.of_element {id what : String} (hwhat : IsWord what)
    (hargs : body.bind (·.field? "args") = none) :
    Uses (some id) ("/element/" ++ id ++ "/" ++ what) body where
  slash := by
    rw [String.append_assoc, String.append_assoc, String.toList_append]
    rfl
  last := by
    have hlast := hwhat.last
    rw [List.getLast?_eq_some_getLast hwhat.ne_nil] at hlast
    rw [String.toList_append, List.getLast?_append, List.getLast?_eq_some_getLast hwhat.ne_nil]
    exact hlast
  path _ := ⟨id, what, rfl, hwhat.slash, rfl⟩
  args _ h := by
    rw [hargs] at h
    cases h

theorem Uses.of_script {script : String} {args : List Json}
    (h : ∀ a ∈ args, ∀ id, elementOf? a = some id → element = some id) :
    Uses element "/execute/sync"
      (some (Json.ofFields [("script", .str script), ("args", .arr args)])) where
  slash := by decide
  last := by decide
  path hpre := absurd hpre (by decide)
  args args' hargs := by
    cases hargs
    exact h

theorem Uses.of_reference {script id : String} (h : element = some id) :
    Uses element "/execute/sync"
      (some (Json.ofFields [("script", .str script), ("args", .arr [elementRef id])])) := by
  refine .of_script fun a ha other hother => ?_
  rw [List.mem_singleton.1 ha] at hother
  cases hother
  exact h

/-- A request about the current element, if there is one. -/
theorem element_chats {α : Type} {next : String → Talk α}
    (h : ∀ id, k.element = some id → Talk.KeepsAt (Chats k.element) (next id) k) :
    Talk.KeepsAt (Chats k.element) (current >>= next) k := by
  cases helement : k.element with
  | none =>
    rw [← helement]
    exact .of_eq (Talk.bind_error (current_of_none helement)) (refl_of _ k)
  | some id =>
    rw [Talk.KeepsAt, Talk.bind_ok (current_of_some helement), ← helement]
    exact h id helement

theorem elementFetch_chats {what : String} (hwhat : IsWord what) :
    Talk.KeepsAt (Chats k.element) (elementFetch what) k :=
  element_chats fun _ hid => hid ▸ command_chats (.of_element hwhat rfl) k

theorem elementPost_chats {what : String} (hwhat : IsWord what) {body : Json}
    (hargs : body.field? "args" = none) :
    Talk.KeepsAt (Chats k.element) (elementPost what body) k :=
  element_chats fun id hid => by
    have huses : Uses k.element ("/element/" ++ id ++ "/" ++ what) (some body) :=
      hid ▸ .of_element hwhat hargs
    exact .bind (command_chats huses k) fun _ k₁ _ => Talk.Keeps.pure _ k₁

theorem perform_chats (source : Json) : Talk.Keeps (Chats element) (perform source) :=
  fun k => .bind (command_chats (.plain (by decide) rfl) k) fun _ k₁ _ =>
    .bind (command_chats (.plain (by decide) rfl) k₁) fun _ k₂ _ =>
      Talk.Keeps.pure _ k₂

theorem viewport_chats (o : BrowserOptions) : Talk.Keeps (Chats element) (viewport o) :=
  fun k => .bind (command_chats (.plain (by decide) rfl) k) fun _ k₁ _ =>
    Talk.Keeps.pure _ k₁

theorem imageOf_chats (value : Json) : Talk.Keeps (Chats element) (imageOf value) := by
  rw [imageOf]
  split
  · exact .pure _
  · exact .throw _

theorem rect_chats : Talk.KeepsAt (Chats k.element) rect k := by
  refine .bind (elementFetch_chats (by decide)) fun value k₁ _ => ?_
  split
  · exact Talk.Keeps.pure _ k₁
  · exact Talk.Keeps.throw _ k₁

theorem text_chats : Talk.KeepsAt (Chats k.element) text k := by
  refine element_chats fun id hid => ?_
  refine .bind (command_chats (.of_reference hid) k) fun value k₁ _ => ?_
  split <;> exact Talk.Keeps.pure _ k₁

theorem press_chats (key : Key) : Talk.KeepsAt (Chats k.element) (press key) k := by
  rw [press]
  split
  · exact Talk.Keeps.throw _ k
  · next c _ =>
    rw [Talk.KeepsAt, Talk.get_bind_apply]
    split
    · exact elementPost_chats (by decide) rfl
    · exact perform_chats _ k

theorem mouse_chats (steps : List MouseStep) : Talk.KeepsAt (Chats k.element) (mouse steps) k := by
  rw [mouse]
  split
  · refine .bind (rect_chats.map some) fun found k₁ _ => ?_
    dsimp only
    split
    · exact perform_chats _ k₁
    · exact Talk.Keeps.throw _ k₁
  · rw [pure_bind]
    dsimp only
    split
    · exact perform_chats _ k
    · exact Talk.Keeps.throw _ k

end Requests

end PageScript.WebDriver

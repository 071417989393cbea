/-
What goes over the wire, and the sessions that are open after it.

A message is a request with the whole address that it was sent to, and what became of it. Which sessions
are open can be told from the messages alone: each answer that hands out a session opens one, and a
request to delete it ends it, whatever is answered.
-/
import PageScript.WebDriver.Client

namespace PageScript.WebDriver

/-- The value that a response brings, or what went wrong. -/
def Response.value : Response → Except BrowserError Json
  | .answer status text => readAnswer status text
  | .hangup => .error (.http "connection closed before message completed")

/-- A request with the address that it was sent to, and what became of it. -/
structure Message where
  verb : Verb
  url : String
  body : Option Json
  response : Response

namespace Message

/-- The session that a value hands out. -/
def sessionOf? (value : Json) : Option String :=
  (value.field? "sessionId").bind Json.text?

/-- Where the session is that has been opened with a message, if this was a request for one and one was
handed out. -/
def opened? (x : Message) : Option String :=
  if x.verb = .post ∧ "/session".toList <:+ x.url.toList then
    (x.response.value.toOption.bind sessionOf?).map fun id => x.url ++ "/" ++ id
  else none

/-- Whether a message is a request to delete what is at an address. -/
def deletes (x : Message) (base : String) : Bool :=
  x.verb = .delete && x.url = base

end Message

/-- Where the sessions are that have been opened and not been deleted since, the latest first. The
messages are given in the same order. -/
def openSessions : List Message → List String
  | [] => []
  | x :: earlier =>
    match x.opened? with
    | some base => base :: openSessions earlier
    | none => (openSessions earlier).filter fun base => !x.deletes base

section OpenSessions

variable {x : Message} {earlier : List Message} {base : String}

theorem openSessions_of_opened (h : x.opened? = some base) :
    openSessions (x :: earlier) = base :: openSessions earlier := by
  rw [openSessions, h]

theorem openSessions_of_not_opened (h : x.opened? = none) :
    openSessions (x :: earlier) = (openSessions earlier).filter fun base => !x.deletes base := by
  rw [openSessions, h]

theorem Message.opened?_of_delete (h : x.verb = .delete) : x.opened? = none := by
  rw [opened?, h]
  rfl

theorem Message.deletes_of_opened {other : String} (h : x.opened? = some other) :
    x.deletes base = false := by
  cases hverb : x.verb with
  | delete => cases (opened?_of_delete hverb).symm.trans h
  | get | post => simp [deletes, hverb]

theorem mem_openSessions_cons :
    base ∈ openSessions (x :: earlier) ↔
      x.opened? = some base ∨ base ∈ openSessions earlier ∧ x.deletes base = false := by
  cases hopened : x.opened? with
  | none => simp [openSessions_of_not_opened hopened]
  | some other =>
    simp [openSessions_of_opened hopened, Message.deletes_of_opened hopened, eq_comm]

/-- A session is open exactly if it has been opened with some message and not deleted with a later one. -/
theorem mem_openSessions {messages : List Message} :
    base ∈ openSessions messages ↔
      ∃ later x earlier, messages = later ++ x :: earlier ∧ x.opened? = some base ∧
        ∀ y ∈ later, y.deletes base = false := by
  induction messages with
  | nil => simp [openSessions]
  | cons x messages ih =>
    rw [mem_openSessions_cons, ih]
    constructor
    · rintro (hopened | ⟨⟨later, y, earlier, rfl, hopened, hkept⟩, hx⟩)
      · exact ⟨[], x, messages, rfl, hopened, fun _ h => absurd h List.not_mem_nil⟩
      · exact ⟨x :: later, y, earlier, rfl, hopened, List.forall_mem_cons.2 ⟨hx, hkept⟩⟩
    · rintro ⟨later, y, earlier, heq, hopened, hkept⟩
      rcases List.cons_eq_append_iff.1 heq with ⟨rfl, h⟩ | ⟨rest, rfl, rfl⟩
      · cases h
        exact .inl hopened
      · obtain ⟨hx, hkept⟩ := List.forall_mem_cons.1 hkept
        exact .inr ⟨⟨rest, y, earlier, rfl, hopened, hkept⟩, hx⟩

end OpenSessions

-- ======== clients

namespace Client

variable {k : Client}

/-- The messages that a client has sent, the latest first. -/
def traffic (k : Client) : List Message :=
  k.server.exchanges.map fun x =>
    ⟨x.request.verb, k.server.address ++ x.request.path, x.request.body, x.response⟩

/-- Whether a request to an address gets through. -/
def delivers (k : Client) (url : String) : Bool :=
  k.server.reachable && k.server.address.toList.isPrefixOf url.toList

/-- The address that the requests of the session start with, if there is a session. -/
def base? (k : Client) : Option String :=
  match k.endpoint, k.session with
  | some endpoint, some id => some (endpoint ++ "/session/" ++ id)
  | _, _ => none

theorem base?_of_no_session (h : k.session = none) : k.base? = none := by
  rw [base?, h]
  cases k.endpoint <;> rfl

/-- What no request changes: the settings, the host, and which requests get through. -/
structure Line where
  settings : BrowserSettings
  host : Host
  address : String
  reachable : Bool

def line (k : Client) : Line where
  settings := k.settings
  host := k.host
  address := k.server.address
  reachable := k.server.reachable

theorem delivers_of_line {k' : Client} (h : k'.line = k.line) (url : String) :
    k'.delivers url = k.delivers url := by
  have hreachable : k'.server.reachable = k.server.reachable := congrArg Line.reachable h
  have haddress : k'.server.address = k.server.address := congrArg Line.address h
  rw [delivers, delivers, hreachable, haddress]

theorem delivers_append {url : String} (h : k.delivers url = true) (tail : String) :
    k.delivers (url ++ tail) = true := by
  rw [delivers, Bool.and_eq_true, List.isPrefixOf_iff_prefix] at h ⊢
  rw [String.toList_append]
  exact ⟨h.1, h.2.trans (List.prefix_append ..)⟩

end Client

theorem Server.append_of_pathOf? {s : Server} {url path : String} (h : s.pathOf? url = some path) :
    s.address ++ path = url := by
  rw [pathOf?] at h
  split at h
  · next hpre =>
    obtain ⟨tail, htail⟩ := List.isPrefixOf_iff_prefix.1 hpre
    cases h
    rw [← String.toList_inj, String.toList_append, String.toList_ofList, ← htail,
      ← String.length_toList, List.drop_left]
  · cases h

end PageScript.WebDriver

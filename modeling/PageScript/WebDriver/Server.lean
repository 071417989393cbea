/-
Requests to a WebDriver server and the answers they get.

A server is known by its address and by the answers it will give, one for each request; when none is
left, every request is answered well and with no value. It keeps all exchanges. A request to any
other address, or to a server that cannot be reached, gets no answer at all.
-/
import PageScript.Browser.Error
import PageScript.Json.Basic

namespace PageScript.WebDriver

/-- What a request asks for. -/
inductive Verb where
  | get
  | post
  | delete
  deriving Repr, DecidableEq, Inhabited

/-- The word for what a request asks for. -/
def Verb.name : Verb → String
  | .get => "GET"
  | .post => "POST"
  | .delete => "DELETE"

/-- A request; its path is what follows the server's address. -/
structure Request where
  verb : Verb
  path : String
  body : Option Json
  deriving Inhabited

/-- An answer, or none: the connection was closed without one. -/
inductive Response where
  | answer (status : Nat) (body : String)
  | hangup
  deriving Repr, DecidableEq, Inhabited

/-- A request and what became of it. -/
structure Exchange where
  request : Request
  response : Response
  deriving Inhabited

/-- A server. -/
structure Server where
  /-- Where requests to it are sent, without a slash at the end. -/
  address : String := ""
  reachable : Bool := true
  /-- The answers it will give. -/
  responses : List Response := []
  /-- The exchanges there were, the latest first. -/
  exchanges : List Exchange := []
  deriving Inhabited

namespace Server

/-- The answer of a server that has no other one left. -/
def blank : Response :=
  .answer 200 "\x7b\"value\":null\x7d"

/-- The path of an address at the server. -/
def pathOf? (s : Server) (url : String) : Option String :=
  if s.address.toList.isPrefixOf url.toList then
    some (String.ofList (url.toList.drop s.address.length))
  else none

/-- Answers a request. -/
def serve (s : Server) (request : Request) : Response × Server :=
  let (response, responses) :=
    match s.responses with
    | [] => (blank, [])
    | first :: rest => (first, rest)
  (response, { s with responses, exchanges := ⟨request, response⟩ :: s.exchanges })

/-- Sends a request to an address, and gives status and body of the answer. -/
def send (s : Server) (verb : Verb) (url : String) (body : Option Json) :
    Except BrowserError (Nat × String) × Server :=
  match s.reachable, s.pathOf? url with
  | true, some path =>
    match s.serve ⟨verb, path, body⟩ with
    | (.answer status text, s) => (.ok (status, text), s)
    | (.hangup, s) => (.error (.http "connection closed before message completed"), s)
  | _, _ => (.error (.http "error sending request"), s)

end Server

end PageScript.WebDriver

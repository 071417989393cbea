/-
A browser driven through a WebDriver server.

A client has at most one session and at most one current element; whatever is asked of the session or
the element when there is none fails without a request. Going to another page forgets the element, and
so does looking for one that is not there.

A server program that a client has launched is stopped again when the session ends or cannot be opened.
All that a client can see of this is that its requests get no answer any more, so it is left out.
-/
import PageScript.Bytes.Base64
import PageScript.Bytes.Crc32
import PageScript.Command
import PageScript.WebDriver.Launch
import PageScript.WebDriver.Server
import PageScript.WebDriver.Wire

namespace PageScript.WebDriver

/-- A client with the server it talks to and the host on which it launches one. -/
structure Client where
  settings : BrowserSettings := {}
  server : Server := {}
  host : Host := {}
  /-- The address of the server on which a session was opened last. -/
  endpoint : Option String := none
  /-- The session. -/
  session : Option String := none
  /-- The current element. -/
  element : Option String := none
  deriving Inhabited

/-- Something that a client does. -/
abbrev Talk := ExceptT BrowserError (StateM Client)

namespace Client

-- ======== requests

/-- Sends a request to an address, and gives the value of the answer. -/
def request (verb : Verb) (url : String) (body : Option Json) : Talk Json := do
  let sent ← modifyGet fun c =>
    let (sent, server) := c.server.send verb url body
    (sent, { c with server })
  let (status, text) ← liftExcept sent
  liftExcept (readAnswer status text)
where
  /-- A result, or its error. -/
  liftExcept {α : Type} : Except BrowserError α → Talk α
    | .ok a => pure a
    | .error e => throw e

/-- Sends a request of the session. -/
def command (verb : Verb) (path : String) (body : Option Json) : Talk Json := do
  let c ← get
  match c.endpoint, c.session with
  | some endpoint, some session => request verb (endpoint ++ "/session/" ++ session ++ path) body
  | _, _ => throw .notStarted

/-- Asks the session for a value. -/
def fetch (path : String) : Talk Json :=
  command .get path none

/-- Gives the session something to do. -/
def post (path : String) (body : Json) : Talk Json :=
  command .post path (some body)

/-- The current element. -/
def current : Talk String := do
  match (← get).element with
  | some id => return id
  | none => throw .noCurrentElement

/-- Sets the current element or forgets it. -/
def setElement (element : Option String) : Talk Unit :=
  modify fun c => { c with element }

/-- Asks the current element for a value. -/
def elementFetch (what : String) : Talk Json := do
  let id ← current
  fetch ("/element/" ++ id ++ "/" ++ what)

/-- Gives the current element something to do. -/
def elementPost (what : String) (body : Json) : Talk Unit := do
  let id ← current
  let _ ← post ("/element/" ++ id ++ "/" ++ what) body

/-- Runs a script on the page. -/
def execute (script : String) (args : List Json) : Talk Json :=
  post "/execute/sync" (Json.ofFields [("script", .str script), ("args", .arr args)])

/-- Performs the actions of one input device, and then lets go of it. -/
def perform (source : Json) : Talk Unit := do
  let _ ← post "/actions" (.obj [("actions", .arr [source])])
  let _ ← command .delete "/actions" none

/-- Takes a value as text; anything else counts as the empty text. -/
def textOrEmpty (value : Json) : String :=
  value.text?.getD ""

/-- The image in an answer. -/
def imageOf (value : Json) : Talk (List UInt8) :=
  match Bytes.ofBase64? (textOrEmpty value) with
  | some bytes => pure bytes
  | none => throw (.base64 "invalid image")

-- ======== scripts

/-- The script that reads the text of an element, or the value of a form field. -/
def textScript : String :=
  "const el = arguments[0]; const tag = el.tagName; " ++
  "if (tag === 'INPUT' || tag === 'TEXTAREA' || tag === 'SELECT') return el.value; " ++
  "return el.textContent;"

/-- The script that runs a test hook of the page. -/
def hookScript : String :=
  "const hook = window[arguments[0]]; " ++
  "if (typeof hook !== 'function') throw new Error('no test hook ' + arguments[0]); " ++
  "return hook.apply(window, arguments[1]);"

/-- The script that scrolls an element into view. -/
def scrollScript : String :=
  "arguments[0].scrollIntoView(\x7b block: 'center', inline: 'center' \x7d);"

/-- The script that says how far the document has been loaded. -/
def readyScript : String := "return document.readyState;"

-- ======== sessions

/-- Gives the page the size in the options. -/
def viewport (o : BrowserOptions) : Talk Unit := do
  let (width, height) := windowSize o
  let _ ← post "/window/rect" (Json.ofFields [("width", .int width), ("height", .int height)])

/-- An address without slashes at its end. -/
def trimSlashes (endpoint : String) : String :=
  String.ofList (endpoint.toList.reverse.dropWhile (· = '/')).reverse

/-- Opens a session. -/
def openSession (endpoint : String) (o : BrowserOptions) : Talk Unit := do
  let endpoint := trimSlashes endpoint
  let value ← request .post (endpoint ++ "/session") (some (capabilities o))
  match (value.field? "sessionId").bind Json.text? with
  | none => throw (.protocol 200 "session not created" value.compact)
  | some id =>
    modify fun c => { c with endpoint := some endpoint, session := some id, element := none }
    viewport o

/-- Ends the session, if there is one. It is forgotten even if the server does not agree. -/
def close : Talk Unit := do
  let result ← ExceptT.mk fun c =>
    let (result, c) :=
      if c.session.isSome then (command .delete "" none).run c else (.ok .null, c)
    (.ok result, { c with session := none, element := none })
  match result with
  | .ok _ => pure ()
  | .error e => throw e

/-- Ends the session that there is before another one is opened. -/
def retire : Talk Unit := do
  if (← get).session.isSome then close

-- ======== launching

/-- Asks for the status of a server program, and says whether it answers well. -/
def isReady (url : String) : Talk Bool :=
  modifyGet fun c =>
    let (sent, server) := c.server.send .get url none
    let ready :=
      match sent with
      | .ok (status, _) => 200 ≤ status && status < 300
      | .error _ => false
    (ready, { c with server })

/-- Asks a server program for its status until it answers well, if it can be asked so many times more. -/
def awaitReady (url : String) (exit : Option (Nat × ExitStatus)) (asked : Nat) :
    (left : Nat) → Talk Unit
  | 0 => throw (.launch (.notReady asked))
  | left + 1 =>
    match exit.filter (·.1 ≤ asked) with
    | some (_, status) => throw (.launch (.exited status))
    | none => do
      if !(← isReady url) then awaitReady url exit (asked + 1) left

/-- Launches a server program, and gives its address once it is ready. -/
def launch (l : Launch) (c : Client) (disk : Disk) : Except BrowserError String × Client × Disk :=
  match c.host.portFor l with
  | .error e => (.error (.io e), c, disk)
  | .ok port =>
    match c.host.start disk l.program ("--port=" ++ Number.natText port) l.timeoutMs with
    | .error cause => (.error (.launch (.spawn l.program cause)), c, disk)
    | .ok (startup, disk) =>
      let address := localAddress port
      let (ready, c) := (awaitReady (address ++ "/status") startup.exit 0 startup.checks).run c
      (ready.map fun _ => address, c, disk)

/-- The address of the server that is running, or else of one that is launched. -/
def findServer (c : Client) (disk : Disk) : Except BrowserError String × Client × Disk :=
  match c.settings.webdriverUrl with
  | some url => (.ok url, c, disk)
  | none => launch (.ofSettings c.settings) c disk

/-- Opens a session. -/
def start (o : BrowserOptions) (c : Client) (disk : Disk) :
    Except BrowserError Unit × Client × Disk :=
  match retire.run c with
  | (.error e, c) => (.error e, c, disk)
  | (.ok (), c) =>
    match c.findServer disk with
    | (.error e, c, disk) => (.error e, c, disk)
    | (.ok endpoint, c, disk) =>
      let (result, c) := (openSession endpoint o).run c
      (result, c, disk)

/-- Goes to another page, on which there is no current element. -/
def navigate (path : String) (body : Json) : Talk Unit := do
  setElement none
  let _ ← post path body

-- ======== elements

/-- Finds an element and makes it the current one. -/
def locate (l : Locator) : Talk Unit := do
  let (way, value) := strategy l
  let found ← ExceptT.mk fun c =>
    let (found, c) :=
      (post "/element" (Json.ofFields [("using", .str way), ("value", .str value)])).run c
    (.ok found, c)
  match found with
  | .ok value =>
    match elementOf? value with
    | some id => setElement (some id)
    | none => throw (.protocol 200 "invalid element reference" value.compact)
  | .error (.noSuchElement _) =>
    setElement none
    throw (.noSuchElement l.display)
  | .error e => throw e

/-- The text of the current element. -/
def text : Talk String := do
  match ← execute textScript [elementRef (← current)] with
  | .str s => return s
  | .null => return ""
  | other => return other.compact

/-- The rectangle of the current element. -/
def rect : Talk Rect := do
  match rectOf? (← elementFetch "rect") with
  | some r => return r
  | none => throw (.json "malformed rectangle")

/-- Presses a key, on the current element if there is one. -/
def press (key : Key) : Talk Unit := do
  match keyChar? key with
  | none => throw (.unsupported ("key " ++ keyText key))
  | some c =>
    if (← get).element.isSome then
      elementPost "value" (.obj [("text", .str c.toString)])
    else perform (keyActions c.toString)

/-- Makes a gesture with the mouse. -/
def mouse (steps : List MouseStep) : Talk Unit := do
  let rect ← if needsRect steps then some <$> rect else pure none
  match pointerActions steps rect with
  | .ok source => perform source
  | .error e => throw e

/-- The console messages since the last time. -/
def consoleMessages : Talk (List String) := do
  match (← post "/se/log" (.obj [("type", .str "browser")])).items?.bind (·.mapM consoleLine?) with
  | some lines => return lines
  | none => throw (.json "malformed console messages")

/-- Answers a call that leaves the disk alone. -/
def serve : (c : Call) → Talk c.Reply
  | .start _ => pure ()
  | .connect endpoint o => do retire; openSession endpoint o
  | .get url => navigate "/url" (.obj [("url", .str url)])
  | .close => close
  | .viewport o => viewport o
  | .back => navigate "/back" (.obj [])
  | .forward => navigate "/forward" (.obj [])
  | .refresh => navigate "/refresh" (.obj [])
  | .setPageLoadTimeout seconds => do
    let _ ← post "/timeouts" (.obj [("pageLoad", milliseconds seconds)])
  | .sendToPage text => perform (keyActions text)
  | .locate l => locate l
  | .clearCurrent => setElement none
  | .text => text
  | .tagName => textOrEmpty <$> elementFetch "name"
  | .rect => rect
  | .state which => (·.bool?.getD false) <$> elementFetch which.name
  | .checksum => do return Bytes.crc32 (← imageOf (← elementFetch "screenshot"))
  | .click => elementPost "click" (.obj [])
  | .send text => elementPost "value" (.obj [("text", .str text)])
  | .clear => elementPost "clear" (.obj [])
  | .press key => press key
  | .scrollIntoView => do let _ ← execute scrollScript [elementRef (← current)]
  | .mouse steps => mouse steps
  | .screenshot _ => pure ()
  | .pageSource => textOrEmpty <$> fetch "/source"
  | .readyState => textOrEmpty <$> execute readyScript []
  | .invoke hook args => execute hookScript [.str hook, .arr args]
  | .consoleMessages => consoleMessages

/-- Takes a screenshot and writes it to a file. -/
def screenshot (file : Path) (c : Client) (disk : Disk) :
    Except BrowserError Unit × Client × Disk :=
  match (do imageOf (← fetch "/screenshot") : Talk (List UInt8)).run c with
  | (.error e, c) => (.error e, c, disk)
  | (.ok bytes, c) =>
    match disk.write file bytes with
    | .ok disk => (.ok (), c, disk)
    | .error e => (.error (.io e), c, disk)

end Client

instance : Browser Client where
  answer
    | .start o => Client.start o
    | .screenshot file => Client.screenshot file
    | call => fun c disk => let (reply, c) := (Client.serve call).run c; (reply, c, disk)

instance [Programs Client] : World Client := {}

end PageScript.WebDriver

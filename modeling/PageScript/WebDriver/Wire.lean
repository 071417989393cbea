/-
How the WebDriver protocol writes things: locators, keys, gestures, launch options, and answers.
-/
import PageScript.Browser.Error
import PageScript.Browser.Basic
import PageScript.Json.Reader
import PageScript.Json.Record
import PageScript.Json.Writer
import PageScript.Number.Decimal
import PageScript.Text.Blank

namespace PageScript.WebDriver

-- ======== answers

/-- The value in the body of an answer, which must not stand there twice; an empty body has none. -/
def envelope? (body : String) : Option Json :=
  if Text.trim body = "" then some .null
  else if 1 < (Json.writtenFields body).countP (·.1 = "value") then none
  else
    match (Json.parse? body).bind (Json.record? ["value"]) with
    | some [value] => some (value.getD .null)
    | _ => none

/-- Code and message of an error answer. -/
def errorParts (value : Json) : String × String :=
  let parts? := do
    match ← Json.record? ["error", "message"] value with
    | [some code, message] => some (← code.text?, ← Json.textOr? "" message)
    | _ => none
  parts?.getD ("unknown error", "")

/-- What an error answer means. -/
def errorOf (status : Nat) (value : Json) : BrowserError :=
  let (code, message) := errorParts value
  if code = "no such element" ∨ code = "stale element reference" then .noSuchElement message
  else if code = "invalid session id" then .notStarted
  else .protocol status code message

/-- The value of an answer, or what went wrong. -/
def readAnswer (status : Nat) (body : String) : Except BrowserError Json :=
  match envelope? body with
  | none => .error (.json "malformed answer")
  | some value => if 200 ≤ status ∧ status < 300 then .ok value else .error (errorOf status value)

/-- The rectangle in an answer. -/
def rectOf? (value : Json) : Option Rect := do
  match ← Json.record? ["x", "y", "width", "height"] value with
  | [some x, some y, some width, some height] =>
    some ⟨← x.number?, ← y.number?, ← width.number?, ← height.number?⟩
  | _ => none

/-- A console message in an answer, with its level in front if it has one. -/
def consoleLine? (value : Json) : Option String := do
  match ← Json.record? ["level", "message"] value with
  | [level, some message] =>
    let level ← Json.textOr? "" level
    let message ← message.text?
    some (if level = "" then message else "[" ++ level ++ "] " ++ message)
  | _ => none

-- ======== elements

/-- The field under which the protocol puts an element's name. -/
def elementKey : String := "element-6066-11e4-a52f-4d7362f9c6f8"

/-- The element that a value refers to. -/
def elementOf? (value : Json) : Option String :=
  (value.field? elementKey).bind Json.text?

/-- A reference to an element. -/
def elementRef (id : String) : Json :=
  .obj [(elementKey, .str id)]

/-- A text in which every occurrence of a character is replaced. -/
def replaceChar (c : Char) (instead cs : List Char) : List Char :=
  cs.flatMap fun d => if d = c then instead else [d]

/-- A text for use between single quotes in a selector: backslashes are doubled, and after that each
quote gets one in front. -/
def escapeAttribute (cs : List Char) : List Char :=
  replaceChar '\'' ['\\', '\''] (replaceChar '\\' ['\\', '\\'] cs)

/-- A selector for the elements of which an attribute has a given value. -/
def attributeSelector (name value : String) : String :=
  "*[" ++ name ++ "='" ++ String.ofList (escapeAttribute value.toList) ++ "']"

/-- The strategy that finds a locator's element, and what it is given. -/
def strategy (l : Locator) : String × String :=
  match l.kind with
  | .css => ("css selector", l.value)
  | .xpath => ("xpath", l.value)
  | .testId => ("css selector", attributeSelector "test-id" l.value)
  | .field => ("css selector", attributeSelector "name" l.value)

-- ======== keys

/-- The character that stands for a key. Codes that no character has stand for none. -/
def keyChar? : Key → Option Char
  | .enter => some '\ue007'
  | .tab => some '\ue004'
  | .space => some ' '
  | .escape => some '\ue00c'
  | .backspace => some '\ue003'
  | .code 13 => some '\ue007'
  | .code 9 => some '\ue004'
  | .code 27 => some '\ue00c'
  | .code 8 => some '\ue003'
  | .code n => if n.isValidChar then some (Char.ofNat n) else none

/-- A key as messages show it. -/
def keyText : Key → String
  | .enter => "Enter"
  | .tab => "Tab"
  | .space => "Space"
  | .escape => "Escape"
  | .backspace => "Backspace"
  | .code n => "Code(" ++ Number.natText n ++ ")"

/-- A text typed on the keyboard. -/
def keyActions (text : String) : Json :=
  let stroke (c : Char) : List Json :=
    [Json.ofFields [("type", .str "keyDown"), ("value", .str c.toString)],
      Json.ofFields [("type", .str "keyUp"), ("value", .str c.toString)]]
  Json.ofFields [("type", .str "key"), ("id", .str "keyboard"),
    ("actions", .arr (text.toList.flatMap stroke))]

-- ======== gestures

/-- Moves the pointer to a point of the page, which has no points left of or above its origin. -/
def pointerMove (x y : Float) : Json :=
  let coordinate (v : Float) : Json := .int (Number.roundedNat (2 ^ 63 - 1) v)
  Json.ofFields [("type", .str "pointerMove"), ("duration", .int 0), ("origin", .str "viewport"),
    ("x", coordinate x), ("y", coordinate y)]

/-- A whole number of milliseconds. -/
def milliseconds (seconds : Float) : Json :=
  .int (Number.roundedNat (2 ^ 64 - 1) (Number.nonnegative seconds * 1000.0))

/-- Presses or releases the mouse button. -/
def pointerButton (what : String) : Json :=
  Json.ofFields [("type", .str what), ("button", .int 0)]

/-- The pointer actions of a gesture that starts at a point. The rectangle is the current element's,
which some steps start from. -/
def pointerSteps (rect : Option Rect) (x y : Float) :
    List MouseStep → Except BrowserError (List Json)
  | [] => .ok []
  | step :: rest =>
    let moveTo (x y : Float) : Except BrowserError (List Json) := do
      return pointerMove x y :: (← pointerSteps rect x y rest)
    let acting (actions : List Json) : Except BrowserError (List Json) := do
      return actions ++ (← pointerSteps rect x y rest)
    match step with
    | .body => moveTo 0 0
    | .origin =>
      match rect with
      | some r => moveTo r.x r.y
      | none => .error .noCurrentElement
    | .center =>
      match rect with
      | some r => moveTo (r.x + r.width / 2) (r.y + r.height / 2)
      | none => .error .noCurrentElement
    | .move dx dy => moveTo (x + dx) (y + dy)
    | .down => acting [pointerButton "pointerDown"]
    | .up => acting [pointerButton "pointerUp"]
    | .click => acting [pointerButton "pointerDown", pointerButton "pointerUp"]
    | .sleep seconds =>
      acting [Json.ofFields [("type", .str "pause"), ("duration", milliseconds seconds)]]

/-- A gesture of the mouse. -/
def pointerActions (steps : List MouseStep) (rect : Option Rect) : Except BrowserError Json := do
  let actions ← pointerSteps rect 0 0 steps
  return Json.ofFields [("type", .str "pointer"), ("id", .str "mouse"),
    ("parameters", .obj [("pointerType", .str "mouse")]), ("actions", .arr actions)]

/-- Whether a gesture starts from the current element somewhere. -/
def needsRect (steps : List MouseStep) : Bool :=
  steps.any fun
    | .origin => true
    | .center => true
    | _ => false

-- ======== options

/-- The size of a window with a page of the size in the options. The sums are those of 32-bit numbers as
long as they stay below `2 ^ 32`; sizes that add up to more are left out. -/
def windowSize (o : BrowserOptions) : Nat × Nat :=
  (o.width + o.chromeWidth, o.height + o.chromeHeight)

/-- The value of a preference: what it is as JSON, or else the text. -/
def prefValue (value : String) : Json :=
  (Json.parse? value).getD (.str value)

/-- What is asked of a new session. -/
def capabilities (o : BrowserOptions) : Json :=
  let (width, height) := windowSize o
  let size := "--window-size=" ++ Number.natText width ++ "," ++ Number.natText height
  let args := o.args ++ [size] ++ (if o.headless then ["--headless=new"] else []) ++
    ["--disable-extensions", "--disable-infobars"]
  let chrome := Json.ofFields [("args", .arr (args.map .str)),
    ("prefs", Json.ofFields (o.prefs.map fun (name, value) => (name, prefValue value)))]
  .obj [("capabilities", .obj [("alwaysMatch", Json.ofFields [("browserName", .str "chrome"),
    ("goog:chromeOptions", chrome),
    ("goog:loggingPrefs", .obj [("browser", .str "ALL")])])])]

end PageScript.WebDriver

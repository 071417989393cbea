/-
The calls that a script makes on a browser, and what a browser is: something that answers them.
-/
import PageScript.Browser.Error
import PageScript.Disk
import PageScript.Json.Basic
import PageScript.Probe

namespace PageScript

/-- A call on a browser. -/
inductive Call where
  /-- Launch a browser. -/
  | start (options : BrowserOptions)
  /-- Take over a browser at an address. -/
  | connect (endpoint : String) (options : BrowserOptions)
  | get (url : String)
  | close
  /-- Give the page of a running browser the size in the options. -/
  | viewport (options : BrowserOptions)
  | back
  | forward
  | refresh
  | setPageLoadTimeout (seconds : Float)
  /-- Type into whatever has the focus. -/
  | sendToPage (text : String)
  /-- Find an element and make it the current one. -/
  | locate (locator : Locator)
  /-- Forget the current element. -/
  | clearCurrent
  /-- The text of the current element, or the value of a form field. -/
  | text
  | tagName
  | rect
  | state (which : ElementState)
  /-- The CRC-32 of the current element's image. -/
  | checksum
  | click
  | send (text : String)
  | clear
  | press (key : Key)
  | scrollIntoView
  | mouse (steps : List MouseStep)
  | screenshot (file : Path)
  | pageSource
  /-- How far the document has been loaded. -/
  | readyState
  /-- Run a test hook of the page. -/
  | invoke (hook : String) (args : List Json)
  /-- The console messages since the last such call. -/
  | consoleMessages
  deriving Inhabited

namespace Call

/-- What a call is answered with. -/
@[reducible]
def Reply : Call → Type
  | .text => String
  | .tagName => String
  | .rect => Rect
  | .state _ => Bool
  | .checksum => Nat
  | .pageSource => String
  | .readyState => String
  | .invoke .. => Json
  | .consoleMessages => List String
  | _ => Unit

/-- The name of a call. -/
def name : Call → String
  | .start _ => "start"
  | .connect .. => "connect"
  | .get _ => "get"
  | .close => "close"
  | .viewport _ => "viewport"
  | .back => "back"
  | .forward => "forward"
  | .refresh => "refresh"
  | .setPageLoadTimeout _ => "set_page_load_timeout"
  | .sendToPage _ => "send_to_page"
  | .locate _ => "locate"
  | .clearCurrent => "clear_current"
  | .text => "text"
  | .tagName => "tag_name"
  | .rect => "rect"
  | .state .displayed => "is_displayed"
  | .state .enabled => "is_enabled"
  | .state .selected => "is_selected"
  | .checksum => "checksum"
  | .click => "click"
  | .send _ => "send"
  | .clear => "clear"
  | .press _ => "press"
  | .scrollIntoView => "scroll_into_view"
  | .mouse _ => "mouse"
  | .screenshot _ => "screenshot"
  | .pageSource => "page_source"
  | .readyState => "ready_state"
  | .invoke .. => "call"
  | .consoleMessages => "console_messages"

end Call

/-- What answers the calls. A browser keeps a state of its own and may write files, but time does
not pass in a call. -/
class Browser (σ : Type) where
  answer : (c : Call) → σ → Disk → Except BrowserError c.Reply × σ × Disk

end PageScript

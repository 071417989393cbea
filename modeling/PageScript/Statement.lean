/-
Statements: what a script asks for, read in full before anything is done.
-/
import PageScript.Alias
import PageScript.Json.Basic
import PageScript.Probe
import PageScript.Source

namespace PageScript

/-- What a script asks of the browser as a whole. -/
inductive BrowserCommand where
  | start
  | connect (endpoint : String)
  | size (width height : Nat)
  | chrome (width height : Nat)
  | get (url : String)
  | close
  | wait (seconds : Float)
  | back
  | forward
  | refresh
  | send (text : String)
  | headless (on : Bool)
  | option (argument : String)
  | prefs (name value : String)
  deriving Inhabited

/-- The words of a conditional. -/
inductive Control where
  | ifBegin
  | thenEnter
  | endIf
  deriving Repr, DecidableEq, Inhabited

/-- A statement. -/
inductive Statement where
  | version
  | defaultWait (seconds : Float)
  | defaultScreenshot (directory : String)
  | browser (command : BrowserCommand)
  | includeFile (file : String)
  | call (hook : String) (args : List Json)
  | defineAlias (definition : Alias)
  | invoke (name : String) (bindings : Bindings)
  | locate (locator : Locator)
  /-- A check on the page that is tried again until it holds or the budget is spent. -/
  | verify (probe : Probe)
  /-- The next check is turned round. -/
  | not
  | logAuto (on : Bool)
  | logDump
  | dump
  | info
  | clickNow
  | screenshot (file : String)
  | sleep (seconds : Float)
  | wait (seconds : Float)
  | pushWait
  | popWait
  | echo (text : String)
  | set (text : String)
  | send (text : String)
  | clear
  | press (key : Key)
  | exec (command : String) (args : List String) (run : Bool)
  | control (word : Control)
  | fail (message : String)
  | mouse (steps : List MouseStep)
  | while (block : Block)
  | scrollIntoView
  deriving Inhabited

/-- Whether a statement is run even in a skipped branch: the words of a conditional are. -/
def Statement.isControl : Statement → Bool
  | .control _ => true
  | _ => false

end PageScript

/-
The fixed words that start a statement.
-/
import PageScript.Browser.Basic

namespace PageScript

/-- A word that starts a statement. -/
inductive Keyword where
  | version
  | default
  | browser
  | includeFile
  | call
  | alias
  | locate (kind : LocatorKind)
  | log
  | dump
  | info
  | click
  | clickNow
  | screenshot
  | sleep
  | tag
  | not
  | displayed
  | enabled
  | selected
  | at
  | size
  | check
  | checksum
  | wait
  | waitFor
  | echo
  | set
  | send
  | clear
  | press
  | sendKey
  | push
  | pop
  | exec
  | execInclude
  | ifBegin
  | thenEnter
  | endIf
  | fail
  | mouse
  | while
  | scrollIntoView
  deriving Repr, DecidableEq, Inhabited

namespace Keyword

/-- The words and what they start; of two words for one keyword the first is its name. -/
def table : List (String × Keyword) := [
  ("version", .version), ("default", .default), ("browser", .browser),
  ("include", .includeFile), ("call", .call), ("alias", .alias), ("function", .alias),
  ("select", .locate .css), ("xpath", .locate .xpath), ("test-id", .locate .testId),
  ("field", .locate .field), ("log", .log), ("dump", .dump), ("info", .info), ("click", .click),
  ("click-now", .clickNow), ("screenshot", .screenshot), ("sleep", .sleep), ("tag", .tag),
  ("not", .not), ("displayed", .displayed), ("enabled", .enabled), ("selected", .selected),
  ("at", .at), ("size", .size), ("check", .check), ("checksum", .checksum), ("wait", .wait),
  ("wait-for", .waitFor), ("echo", .echo), ("set", .set), ("send", .send), ("clear", .clear),
  ("press", .press), ("sendkey", .sendKey), ("push", .push), ("pop", .pop), ("exec", .exec),
  ("exec-include", .execInclude), ("if", .ifBegin), ("then", .thenEnter), ("endif", .endIf),
  ("fail", .fail), ("mouse", .mouse), ("while", .while), ("scroll-into-view", .scrollIntoView)]

/-- The keyword of a word. -/
def ofWord? (word : String) : Option Keyword :=
  (table.find? fun e => e.1 = word).map Prod.snd

/-- The word of a keyword. -/
def name (k : Keyword) : String :=
  ((table.find? fun e => e.2 = k).map Prod.fst).getD "?"

end Keyword

/-- The truth value of a word for on or off; the case of letters does not count. -/
def truthValue? (word : String) : Option Bool :=
  match Text.lowered word with
  | "on" => some true
  | "yes" => some true
  | "true" => some true
  | "off" => some false
  | "no" => some false
  | "false" => some false
  | _ => none

end PageScript

/-
The vocabulary of browser automation: how elements are found, where they lie, which keys are pressed
and what a mouse does, and the options a browser is launched with.
-/
import PageScript.Text.Blank

namespace PageScript

-- ======== locators

/-- How an element is found. -/
inductive LocatorKind where
  | css
  | xpath
  | testId
  | field
  deriving Repr, DecidableEq, Inhabited

/-- The statement word for a way of finding elements. -/
def LocatorKind.name : LocatorKind → String
  | .css => "select"
  | .xpath => "xpath"
  | .testId => "test-id"
  | .field => "field"

/-- What to look for on a page. -/
structure Locator where
  kind : LocatorKind
  value : String
  deriving Repr, DecidableEq, Inhabited

/-- A locator as messages show it. -/
def Locator.display (l : Locator) : String :=
  l.kind.name ++ " \"" ++ l.value ++ "\""

-- ======== elements

/-- Where an element lies on the page and how large it is. -/
structure Rect where
  x : Float := 0
  y : Float := 0
  width : Float := 0
  height : Float := 0
  deriving Inhabited

/-- A key to press; `code` is a character by its code point. -/
inductive Key where
  | enter
  | tab
  | space
  | escape
  | backspace
  | code (point : Nat)
  deriving Repr, DecidableEq, Inhabited

/-- The key of a name, in which the case of letters does not count; a single character names
itself. -/
def Key.ofName? (name : String) : Option Key :=
  match Text.lowered name with
  | "enter" => some .enter
  | "return" => some .enter
  | "tab" => some .tab
  | "space" => some .space
  | "escape" => some .escape
  | "esc" => some .escape
  | "backspace" => some .backspace
  | _ =>
    match name.toList with
    | [c] => some (.code c.toNat)
    | _ => none

/-- One step of a mouse gesture. -/
inductive MouseStep where
  /-- Go to the origin of the page. -/
  | body
  /-- Go to the top left corner of the current element. -/
  | origin
  /-- Go to the centre of the current element. -/
  | center
  /-- Move from where the pointer is. -/
  | move (dx dy : Float)
  | down
  | up
  | click
  | sleep (seconds : Float)
  deriving Inhabited

-- ======== options

/-- The options a browser is launched with. -/
structure BrowserOptions where
  width : Nat := 1280
  height : Nat := 720
  /-- What the window's decoration adds to the page's size. -/
  chromeWidth : Nat := 0
  chromeHeight : Nat := 0
  headless : Bool := false
  args : List String := []
  /-- Preferences in the order of their names. -/
  prefs : List (String × String) := []
  deriving Repr, DecidableEq, Inhabited

/-- Preferences with one of them set: replaced, or put in front of the first greater name. -/
def setPref (name value : String) : List (String × String) → List (String × String)
  | [] => [(name, value)]
  | (other, old) :: rest =>
    if name = other then (name, value) :: rest
    else if name < other then (name, value) :: (other, old) :: rest
    else (other, old) :: setPref name value rest

end PageScript

/-
Probes: the checks on a page that are tried again until they hold.
-/
import PageScript.Geometry

namespace PageScript

/-- A state that an element is in or not. -/
inductive ElementState where
  | displayed
  | enabled
  | selected
  deriving Repr, DecidableEq, Inhabited

/-- The statement word for a state. -/
def ElementState.name : ElementState → String
  | .displayed => "displayed"
  | .enabled => "enabled"
  | .selected => "selected"

/-- A check on the current page that may come to hold later. -/
inductive Probe where
  | locate (locator : Locator)
  | click
  | text (expected : String)
  | tag (expected : String)
  | state (which : ElementState) (wanted : Bool)
  | geometry (measure : Measure) (expected : AxisPair)
  | checksum (expected : Nat)
  | navigation
  deriving Inhabited

namespace Probe

/-- A probe as messages show it. -/
def display : Probe → String
  | .locate locator => locator.display
  | .click => "click"
  | .text expected => "check \"" ++ expected ++ "\""
  | .tag expected => "tag \"" ++ expected ++ "\""
  | .state which wanted => which.name ++ (if wanted then " true" else " false")
  | .geometry measure expected => measure.name ++ " " ++ expected.display
  | .checksum expected => "checksum crc32:" ++ Number.natText expected
  | .navigation => "navigation"

/-- Whether the current element is looked up again before the probe is tried again: not if the probe
itself looks for an element or is about the whole document. -/
def needsElement : Probe → Bool
  | .locate _ => false
  | .navigation => false
  | _ => true

end Probe

end PageScript

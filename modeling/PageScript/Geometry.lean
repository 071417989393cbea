/-
Expectations on where an element lies and how large it is.

Measured values are compared as whole pixels. An expectation is one per axis: anything, a value, or
a range with both ends, which may be written either way round.
-/
import PageScript.Browser.Basic
import PageScript.Number.Decimal

namespace PageScript

/-- What one coordinate is expected to be. -/
inductive Axis where
  | any
  | exact (value : Float)
  | range (lo hi : Float)
  deriving Inhabited

namespace Axis

/-- Whether a measured value is as expected. -/
def accepts (a : Axis) (measured : Float) : Bool :=
  let value := Number.round measured
  match a with
  | .any => true
  | .exact expected => value == Number.round expected
  | .range lo hi => Number.least lo hi ≤ value && value ≤ Number.greatest hi lo

/-- An expectation the way scripts write it. -/
def display : Axis → String
  | .any => "*"
  | .exact value => Number.text value
  | .range lo hi => Number.text lo ++ ":" ++ Number.text hi

end Axis

/-- What a pair of coordinates is expected to be. -/
structure AxisPair where
  first : Axis
  second : Axis
  deriving Inhabited

namespace AxisPair

/-- A pair of expectations the way scripts write it. -/
def display (p : AxisPair) : String :=
  p.first.display ++ "," ++ p.second.display

/-- Whether two measured values are as expected. -/
def accepts (p : AxisPair) (a b : Float) : Bool :=
  p.first.accepts a && p.second.accepts b

end AxisPair

/-- Which two measures of an element an expectation is about. -/
inductive Measure where
  | position
  | size
  deriving Repr, DecidableEq, Inhabited

namespace Measure

/-- The statement word for a measure. -/
def name : Measure → String
  | .position => "at"
  | .size => "size"

/-- The two values of a measure. -/
def values : Measure → Rect → Float × Float
  | .position, r => (r.x, r.y)
  | .size, r => (r.width, r.height)

end Measure

end PageScript

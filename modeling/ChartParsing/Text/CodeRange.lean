/-!
# Ranges of code points

A property of characters is given as a list of closed ranges of code points.
A character has the property exactly when some range of the list covers it.
-/

namespace ChartParsing.Text

/-- All code points from `first` to `last`, both included. -/
structure CodeRange where
  first : Nat
  last : Nat
  deriving DecidableEq, Repr

/-- Whether a character lies in the range. -/
def CodeRange.covers (range : CodeRange) (c : Char) : Bool :=
  range.first ≤ c.toNat && c.toNat ≤ range.last

/-- Whether a character lies in one of the ranges. -/
def coveredBy (ranges : List CodeRange) (c : Char) : Bool :=
  ranges.any (·.covers c)

end ChartParsing.Text

/-!
# Intervals of Code Points

The properties of characters that this library consults are tables of closed intervals.
-/

namespace IncidentTracker.Text

/-- Whether a code point lies in one of the given closed intervals. -/
def inIntervals (intervals : List (Nat × Nat)) (code : Nat) : Bool :=
  intervals.any fun interval => interval.1 ≤ code && code ≤ interval.2

end IncidentTracker.Text

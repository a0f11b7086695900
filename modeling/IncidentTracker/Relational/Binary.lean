/-!
# Binary Numbers of Limited Precision

A number that is not negative is kept as `mantissa * 2 ^ power`. A format has a certain number of
binary digits for the mantissa; what does not fit is rounded to the nearest number that does, and
from the middle between two of them to the one with the even last digit. The power is not bounded.
-/

namespace IncidentTracker.Relational

/-- The number `mantissa * 2 ^ power`. -/
structure Binary where
  mantissa : Nat
  power : Int
  deriving DecidableEq, Repr

namespace Binary

/-! ## §1 Rounding -/

/-- The integer nearest to a quotient; from the middle between two, the even one. -/
def nearestQuotient (n d : Nat) : Nat :=
  let quotient := n / d
  let twice := 2 * (n % d)
  if twice < d || (twice = d && quotient % 2 = 0) then quotient else quotient + 1

/-- The nearest number with so many binary digits. -/
def round (digits : Nat) (x : Binary) : Binary :=
  let excess := Nat.log2 x.mantissa + 1 - digits
  ⟨nearestQuotient x.mantissa (Nat.pow 2 excess), x.power + excess⟩

/-! ## §2 Arithmetic -/

/-- The rounded product of two numbers. -/
def times (digits : Nat) (x y : Binary) : Binary :=
  round digits ⟨x.mantissa * y.mantissa, x.power + y.power⟩

/-- A number multiplied by a factor so many times, rounded each time. -/
def timesEach (digits : Nat) (x factor : Binary) : Nat → Binary
  | 0 => x
  | count + 1 => timesEach digits (times digits x factor) factor count

/-- The number nearest to a natural number. -/
def ofNat (digits n : Nat) : Binary :=
  round digits ⟨n, 0⟩

/-- The number nearest to one over a natural number. -/
def reciprocal (digits n : Nat) : Binary :=
  let shift := Nat.log2 n + digits + 2
  let dividend := Nat.pow 2 shift
  -- the last digit stands for all that are left out
  let last := if dividend % n = 0 then 0 else 1
  round digits ⟨2 * (dividend / n) + last, -(shift + 1 : Int)⟩

/-! ## §3 Comparison -/

/-- Whether a number is a given natural number. -/
def isNat (x : Binary) (n : Nat) : Bool :=
  x.mantissa * Nat.pow 2 x.power.toNat == n * Nat.pow 2 (-x.power).toNat

/-- Whether a number is at most `2 ^ power`. -/
def isAtMost (x : Binary) (power : Int) : Bool :=
  let distance := x.power - power
  x.mantissa * Nat.pow 2 distance.toNat ≤ Nat.pow 2 (-distance).toNat

end Binary

end IncidentTracker.Relational

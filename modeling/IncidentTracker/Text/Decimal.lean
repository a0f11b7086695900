/-!
# Decimal Texts of Integers

Identifiers are written in plain decimal. Read back, a decimal may carry a sign and leading
zeros, and it must lie in the range of a signed 64-bit word.
-/

namespace IncidentTracker.Text.Decimal

/-- The decimal text of an integer. -/
def ofInt : Int → List Char
  | .ofNat n => Nat.toDigits 10 n
  | .negSucc n => '-' :: Nat.toDigits 10 (n + 1)

/-- The value of a decimal digit. -/
def digitValue (c : Char) : Nat :=
  c.toNat - '0'.toNat

/-- The number a run of decimal digits stands for, continuing from `start`. -/
def valueFrom (start : Nat) (digits : List Char) : Nat :=
  digits.foldl (fun n c => 10 * n + digitValue c) start

/-- Whether an integer fits a signed 64-bit word. -/
def isWord (n : Int) : Bool :=
  -9223372036854775808 ≤ n && n ≤ 9223372036854775807

/-- A run of at least one digit. -/
def isNumber (digits : List Char) : Bool :=
  !digits.isEmpty && digits.all Char.isDigit

/-- A text split into the sign it begins with, if any, and the rest. -/
def splitSign : List Char → Bool × List Char
  | '-' :: rest => (true, rest)
  | '+' :: rest => (false, rest)
  | rest => (false, rest)

/-- The integer a text denotes, where it is an optional sign and digits in range. -/
def toWord? (text : List Char) : Option Int :=
  let (negative, digits) := splitSign text
  let size : Int := valueFrom 0 digits
  let value := if negative then -size else size
  if isNumber digits && isWord value then some value else none

/-- Whatever is read lies in range. -/
theorem isWord_of_toWord? {text : List Char} {n : Int} (h : toWord? text = some n) :
    isWord n = true := by
  simp only [toWord?, Option.ite_none_right_eq_some, Bool.and_eq_true, Option.some.injEq] at h
  exact h.2 ▸ h.1.2

end IncidentTracker.Text.Decimal

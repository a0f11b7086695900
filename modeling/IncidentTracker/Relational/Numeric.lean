import IncidentTracker.Relational.Binary
import IncidentTracker.Text.Decimal

/-!
# Numbers Compared With a Column of Integers

When a column of integers is compared with a bound text, the text is taken as a number if all of
it, blanks at the ends apart, is one. Plain integers in range are exact. Anything else is a
floating-point number: at most twenty digits of it count, they are scaled by powers of ten in a
format of 64 binary digits, rounded at every step, and the outcome is rounded once more to a
format of 53. The integer is equal to it if it is what all this ends at.
-/

namespace IncidentTracker.Relational

/-- The number a bound text denotes. -/
inductive Numeric where
  | exact (value : Int)
  /-- A number with a sign, still to be rounded to a floating-point number. -/
  | rounded (negative : Bool) (size : Binary)
  deriving DecidableEq, Repr

namespace Numeric

/-! ## §1 Digits -/

/-- Whether a character counts as a blank beside a number. -/
def isSpace (c : Char) : Bool :=
  c = ' ' || (9 ≤ c.toNat && c.toNat ≤ 13)

/-- A text without the blanks at its ends. -/
def trim (text : List Char) : List Char :=
  ((text.dropWhile isSpace).reverse.dropWhile isSpace).reverse

/-- From this number on no further digit is taken in. -/
def digitLimit : Nat := 1844674407370955160

/-- The digits that count, and how many powers of ten the others are worth: a digit before the
    point that is not taken in is worth one, a digit after the point that is takes one away. -/
def significant (whole fraction : List Char) : Nat × Int :=
  let (digits, power) := whole.foldl (fun (digits, power) c =>
    if digits < digitLimit then (10 * digits + Text.Decimal.digitValue c, power)
    else (digits, power + 1)) ((0 : Nat), (0 : Int))
  fraction.foldl (fun (digits, power) c =>
    if digits < digitLimit then (10 * digits + Text.Decimal.digitValue c, power - 1)
    else (digits, power)) (digits, power)

/-- The largest exponent that a further digit still adds to. -/
def exponentLimit : Nat := 10000

/-- The size of an exponent. A digit behind one that has reached the limit brings it back there. -/
def exponentSize (digits : List Char) : Nat :=
  digits.foldl (fun size c =>
    if size < exponentLimit then 10 * size + Text.Decimal.digitValue c else exponentLimit) 0

/-- The exponent a text begins with a mark for; without a mark it is zero. -/
def exponent? : List Char → Option Int
  | [] => some 0
  | c :: text =>
    let (negative, digits) := Text.Decimal.splitSign text
    if (c = 'e' || c = 'E') && Text.Decimal.isNumber digits then
      let size : Int := exponentSize digits
      some (if negative then -size else size)
    else none

/-! ## §2 Scaling -/

/-- The binary digits of the format in which numbers are scaled. -/
def scalingDigits : Nat := 64

/-- Digits below this number are multiplied by ten as long as the power is positive. -/
def widenLimit : Nat := 1844674407370955161

/-- Digits that take in powers of ten while there is room for them, and the powers left over. -/
def widen (digits : Nat) : Nat → Nat × Nat
  | 0 => (digits, 0)
  | power + 1 => if digits < widenLimit then widen (10 * digits) power else (digits, power + 1)

/-- Digits that give up zeros at their end for powers of ten below one, and the powers left
    over. -/
def narrow (digits : Nat) : Nat → Nat × Nat
  | 0 => (digits, 0)
  | power + 1 => if digits % 10 = 0 then narrow (digits / 10) power else (digits, power + 1)

/-- A number times a power of ten, by factors of a hundred powers, of ten and of one. -/
def scaleWith (factor : Nat → Binary) (x : Binary) (power : Nat) : Binary :=
  let x := x.timesEach scalingDigits (factor 100) (power / 100)
  let x := x.timesEach scalingDigits (factor 10) (power % 100 / 10)
  x.timesEach scalingDigits (factor 1) (power % 10)

/-- The number `digits * 10 ^ power`, as near as the scaling comes to it. -/
def scaled (digits : Nat) (power : Int) : Binary :=
  if 0 ≤ power then
    let (digits, left) := widen digits power.toNat
    scaleWith (fun n => .ofNat scalingDigits (Nat.pow 10 n)) ⟨digits, 0⟩ left
  else
    let (digits, left) := narrow digits (-power).toNat
    scaleWith (fun n => .reciprocal scalingDigits (Nat.pow 10 n)) ⟨digits, 0⟩ left

/-! ## §3 Reading -/

/-- The number that all of a text denotes, if it denotes one. -/
def ofText? (text : List Char) : Option Numeric :=
  let (negative, text) := Text.Decimal.splitSign (trim text)
  let whole := text.takeWhile Char.isDigit
  let text := text.dropWhile Char.isDigit
  let (pointed, text) :=
    match text with
    | '.' :: text => (true, text)
    | text => (false, text)
  let fraction := if pointed then text.takeWhile Char.isDigit else []
  let text := if pointed then text.dropWhile Char.isDigit else text
  if whole.isEmpty && fraction.isEmpty then none
  else
    match exponent? text with
    | none => none
    | some exponent =>
      let size : Int := Text.Decimal.valueFrom 0 whole
      let value := if negative then -size else size
      -- only whole numbers without an exponent stay exact, and only as far as a word goes
      if !pointed && text.isEmpty && Text.Decimal.isWord value then some (.exact value)
      else
        let (digits, power) := significant whole fraction
        some (.rounded negative (scaled digits (power + exponent)))

/-! ## §4 Comparison -/

/-- The binary digits of a floating-point number. -/
def floatDigits : Nat := 53

/-- Half of the smallest positive floating-point number is this power of two; it is still nearest
    to zero. -/
def zeroPower : Int := -1075

/-- Whether a size rounds to a given natural number in the format of floating-point numbers. -/
def roundsTo (size : Binary) (n : Nat) : Bool :=
  if n = 0 then size.isAtMost zeroPower else (size.round floatDigits).isNat n

/-- Whether an integer equals a number. -/
def equals (n : Int) : Numeric → Bool
  | .exact value => value == n
  | .rounded negative size =>
    if n = 0 then roundsTo size 0
    else (negative == decide (n < 0)) && roundsTo size n.natAbs

end Numeric

end IncidentTracker.Relational

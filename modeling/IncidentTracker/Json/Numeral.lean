import IncidentTracker.Json.Fault
import IncidentTracker.Text.Decimal
import IncidentTracker.Text.Shortest

/-!
# Numerals

A numeral of the grammar and the number it denotes. A plain integer that fits a 64-bit word is
exact. Every other numeral denotes a floating-point number, formed from the leading digits that
fit an unsigned word and a power of ten; one too large for that is no number that can be read.
-/

namespace IncidentTracker.Json

/-- A numeral as written: sign, digits before and after the point, signed exponent. -/
structure Numeral where
  negative : Bool
  whole : List Char
  fraction : List Char
  exponent : Option (Bool × List Char)
  /-- Whether it has neither point nor exponent. -/
  plain : Bool
  deriving DecidableEq, Repr

/-- The number a numeral denotes. -/
inductive Number where
  | integer (value : Int)
  | decimal (value : Float)

/-- Takes digits into an unsigned word while they fit; returns the digits left over. -/
def absorb (word : Nat) : List Char → Nat × List Char
  | [] => (word, [])
  | c :: rest =>
    let next := 10 * word + Text.Decimal.digitValue c
    if next < Nat.pow 2 64 then absorb next rest else (word, c :: rest)

/-- Divides by a power of ten, in steps that floating point can hold. -/
def scaleDown (x : Float) (power : Nat) : Float :=
  if power ≤ 308 then x / Float.ofScientific 1 false power
  else if x == 0 then x
  else scaleDown (x / Float.ofScientific 1 false 308) (power - 308)
termination_by power

/-- The floating-point number `word * 10 ^ power`, where it is finite. -/
def scaled (word : Nat) (power : Int) : Except Fault Float :=
  let x := word.toUInt64.toFloat
  match power with
  | .ofNat n =>
    -- no larger power of ten is finite
    if n ≤ 308 then
      let y := x * Float.ofScientific 1 false n
      if y.isInf then .error .grammar else .ok y
    else if x == 0 then .ok x
    else .error .grammar
  | .negSucc n => .ok (scaleDown x (n + 1))

/-- The signed form of a floating-point number. -/
def withSign (negative : Bool) (x : Float) : Float :=
  if negative then -x else x

/-- The largest exponent that is taken at its value. -/
def exponentLimit : Int := 2147483647

/-- The exponent held within its limits. -/
def clampExponent (n : Int) : Int :=
  max (-exponentLimit - 1) (min exponentLimit n)

/-- The number a numeral denotes. -/
def Numeral.number (n : Numeral) : Except Fault Number :=
  let (word, left) := absorb 0 n.whole
  if n.plain && left.isEmpty then
    if !n.negative then .ok (.integer word)
    -- minus zero, and what a signed word cannot hold, are floating-point numbers
    else if word = 0 || Nat.pow 2 63 < word then .ok (.decimal (-word.toUInt64.toFloat))
    else .ok (.integer (-word))
  else
    -- a digit left over before the point is worth a power of ten, one taken in after it costs one
    let (significand, unused) := absorb word n.fraction
    let power : Int := left.length - (n.fraction.length - unused.length : Nat)
    match n.exponent with
    | none => do
      let x ← scaled significand power
      return .decimal (withSign n.negative x)
    | some (down, digits) =>
      let size : Int := Text.Decimal.valueFrom 0 digits
      if exponentLimit < size then
        if significand ≠ 0 && !down then .error .grammar
        else .ok (.decimal (withSign n.negative 0))
      else do
        let x ← scaled significand (clampExponent (if down then power - size else power + size))
        return .decimal (withSign n.negative x)

/-- A number as messages name it. -/
def Number.found : Number → Found
  | .integer value => .integer value
  | .decimal value => .decimal (Text.Shortest.ofFloat value)

end IncidentTracker.Json

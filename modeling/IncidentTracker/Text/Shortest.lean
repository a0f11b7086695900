/-!
# Shortest Decimal Texts of Binary Fractions

A floating-point number is shown with the fewest digits that single it out among all numbers of
its format, and of the candidates with that many digits by the one nearest to it. The number is
taken apart into `mantissa * 2 ^ power`, and the search runs in exact integer arithmetic.
-/

namespace IncidentTracker.Text.Shortest

/-- A positive finite number `mantissa * 2 ^ power`; `closer` says that the next smaller number
    lies only half as far away as the next larger one. -/
structure Parts where
  mantissa : Nat
  power : Int
  closer : Bool

/-- A decimal `digits * 10 ^ power`. -/
structure Digits where
  digits : Nat
  power : Int
  deriving DecidableEq, Repr

/-- The parts of a positive finite number from the bits of its encoding, sign removed. -/
def Parts.ofBits (bits : Nat) : Parts :=
  let field : Nat := bits / Nat.pow 2 52 % Nat.pow 2 11
  let rest : Nat := bits % Nat.pow 2 52
  if field = 0 then ⟨rest, -1074, false⟩
  else ⟨Nat.pow 2 52 + rest, (field : Int) - 1075, rest == 0 && 1 < field⟩

/-- `n * 10 ^ power` over the denominator of a quarter unit in the last place: the scale on which
    a number and the ends of its rounding interval are all integers. -/
structure Scale where
  /-- Factor for multiples of a quarter unit. -/
  quarter : Nat
  /-- Factor for decimals of the grid. -/
  grid : Nat

/-- The common scale of quarter units `2 ^ (power - 2)` and of the grid `10 ^ exponent`. -/
def Scale.of (power exponent : Int) : Scale :=
  let binary := power - 2
  ⟨Nat.pow 2 binary.toNat * Nat.pow 10 (-exponent).toNat,
    Nat.pow 10 exponent.toNat * Nat.pow 2 (-binary).toNat⟩

/-- The nearest decimal on the grid `10 ^ exponent` inside the rounding interval, if any. The
    ends of the interval belong to it when the mantissa is even. -/
def onGrid (p : Parts) (exponent : Int) : Option Digits :=
  let scale := Scale.of p.power exponent
  let value := 4 * p.mantissa * scale.quarter
  let low := (4 * p.mantissa - (if p.closer then 1 else 2)) * scale.quarter
  let high := (4 * p.mantissa + 2) * scale.quarter
  let closed := p.mantissa % 2 == 0
  let inside := fun n : Nat =>
    let x := n * scale.grid
    if closed then low ≤ x && x ≤ high else low < x && x < high
  -- if any point of the grid lies inside, one of the two next to the value does
  let below := value / scale.grid
  let above := below + 1
  match inside below && below != 0, inside above with
  | true, true =>
    if value - below * scale.grid ≤ above * scale.grid - value then some ⟨below, exponent⟩
    else some ⟨above, exponent⟩
  | true, false => some ⟨below, exponent⟩
  | false, true => some ⟨above, exponent⟩
  | false, false => none

/-- The largest power of ten not above a positive number, searched downwards from `start`. -/
def leadingPower (p : Parts) (start : Int) : Nat → Int
  | 0 => start
  | steps + 1 =>
    let scale := Scale.of p.power start
    if scale.grid ≤ 4 * p.mantissa * scale.quarter then start
    else leadingPower p (start - 1) steps

/-- The first grid with a hit, from the coarsest to `steps` grids finer. -/
def search (p : Parts) (exponent : Int) : Nat → Digits
  | 0 => ⟨p.mantissa, p.power⟩
  | steps + 1 =>
    match onGrid p exponent with
    | some found => found
    | none => search p (exponent - 1) steps

/-- The shortest digits of a positive finite number. -/
def digits (p : Parts) : Digits :=
  search p (leadingPower p 308 640 + 1) 20

/-! ## §1 Layout -/

/-- Digits as text: positional while the leading digit stands between the fifth place after the
    point and the sixteenth before it, with a signed exponent otherwise. -/
def layout (d : Digits) : List Char :=
  let text := (Nat.toDigits 10 d.digits).reverse.dropWhile (· == '0') |>.reverse
  let dropped := (Nat.toDigits 10 d.digits).length - text.length
  let count : Int := text.length
  -- the power of ten of the leading digit
  let leading := d.power + dropped + count - 1
  if -5 ≤ leading && leading ≤ 15 then
    if leading < 0 then
      ['0', '.'] ++ List.replicate (-leading - 1).toNat '0' ++ text
    else if count ≤ leading + 1 then
      text ++ List.replicate (leading + 1 - count).toNat '0' ++ ['.', '0']
    else
      text.take (leading + 1).toNat ++ '.' :: text.drop (leading + 1).toNat
  else
    text.take 1 ++ (if text.length = 1 then [] else '.' :: text.drop 1) ++
      'e' :: (if leading < 0 then '-' else '+') :: Nat.toDigits 10 leading.natAbs

/-- The text of a finite floating-point number. -/
def ofFloat (x : Float) : String :=
  let bits : Nat := x.toBits.toNat
  let sign := if bits / Nat.pow 2 63 = 1 then ['-'] else []
  let rest : Nat := bits % Nat.pow 2 63
  String.ofList (sign ++ (if rest = 0 then "0.0".toList else layout (digits (Parts.ofBits rest))))

end IncidentTracker.Text.Shortest

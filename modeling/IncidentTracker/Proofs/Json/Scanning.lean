import IncidentTracker.Json.Render
import IncidentTracker.Json.Scan
import IncidentTracker.Proofs.Text.Numerals
import Mathlib.Data.List.TakeWhile

/-!
# Scanning Scalars

What the parts of a scalar are scanned as, whatever follows them in the text. A text carries its own
end. A numeral does not, so what follows one must not go on with it. A plain numeral that fits a
signed 64-bit word denotes its integer.

Main statements: `scanBody_bare`, `scanLiteral_append`, `scanWhole_append` and `number_toDigits`.
-/

namespace IncidentTracker.Json

open Text.Decimal
  (digitValue isNumber isNumber_toDigits isWord ofInt valueFrom valueFrom_toDigits)

/-! ## §1 Texts -/

theorem hexValue_hexDigit : ∀ n, n < 16 → Text.hexValue (hexDigit n) = some n := by
  decide

theorem hexUnit_control {n : Nat} (h : n < 32) :
    hexUnit '0' '0' (hexDigit (n / 16)) (hexDigit (n % 16)) = some n := by
  have hzero : Text.hexValue '0' = some 0 := by decide
  have hhigh := hexValue_hexDigit (n / 16) (by omega)
  have hlow := hexValue_hexDigit (n % 16) (by omega)
  have hsum : 16 * (n / 16) + n % 16 = n := Nat.div_add_mod n 16
  simp [hexUnit, hzero, hhigh, hlow, hsum]

/-- A character that needs no escape stands for itself. -/
theorem scanBody_bare {c : Char} (hquote : c ≠ '"') (hslash : c ≠ '\\') (h : ¬c.toNat < 32)
    (done : List Char) (unreadable : Option Fault) (rest : List Char) :
    scanBody done unreadable (c :: rest) = scanBody (c :: done) unreadable rest := by
  -- only the last case takes a character as it stands
  rw [scanBody.eq_def]
  split
  case h_7 heq =>
    obtain ⟨rfl, rfl⟩ := List.cons.inj heq
    rw [if_neg h]
  all_goals simp_all

/-! ## §2 Literals -/

private theorem missing_append (word rest : List Char) : missing word (word ++ rest) = none := by
  induction word with
  | nil => rfl
  | cons c word ih => rw [List.cons_append, missing, if_pos rfl, ih]

theorem scanLiteral_append (start : Start) (value : Scalar) (word rest : List Char) :
    scanLiteral start value word (word ++ rest) = ⟨.scalar start (.ok value) none, rest⟩ := by
  rw [scanLiteral, missing_append]
  simp only [List.drop_left]

/-! ## §3 Numerals -/

private theorem head?_toDigits_append (n : Nat) (rest : List Char) :
    (Nat.toDigits 10 n ++ rest).head? = (Nat.toDigits 10 n).head? := by
  obtain ⟨c, digits, heq⟩ := List.exists_cons_of_ne_nil (Nat.toDigits_ne_nil (n := n) (b := 10))
  rw [heq]
  rfl

/-- Only zero is written with a zero in front. -/
theorem eq_zero_of_head?_toDigits {n : Nat}
    (h : (Nat.toDigits 10 n).head? = some '0') : n = 0 := by
  -- the induction is on the tenth part, whose digits stand in front of the last one
  induction n using Nat.strongRecOn with
  | _ n ih =>
    by_cases hlt : n < 10
    · rw [Nat.toDigits_of_lt_base hlt, List.head?_cons, Option.some.injEq] at h
      have hdigits : ∀ m, m < 10 → Nat.digitChar m = '0' → m = 0 := by decide
      exact hdigits n hlt h
    · -- the digits of the tenth part come first, and that is not zero
      have hle : 10 ≤ n := Nat.not_lt.mp hlt
      rw [Nat.toDigits_of_base_le (by decide) hle, head?_toDigits_append] at h
      have hzero := ih (n / 10) (Nat.div_lt_self (by omega) (by decide)) h
      omega

/-- Digits whose number fits an unsigned word are all taken in. -/
private theorem absorb_eq {digits : List Char} {word : Nat}
    (h : valueFrom word digits < Nat.pow 2 64) :
    absorb word digits = (valueFrom word digits, []) := by
  -- the number only grows on the way, so if all digits fit then so does every prefix of them
  have hgrow : ∀ (digits : List Char) (start : Nat), start ≤ valueFrom start digits := by
    intro digits
    induction digits with
    | nil => exact fun start => Nat.le_refl start
    | cons c digits ih =>
      intro start
      have hnext := ih (10 * start + digitValue c)
      simp only [valueFrom, List.foldl_cons] at hnext ⊢
      omega
  induction digits generalizing word with
  | nil => rfl
  | cons c digits ih =>
    have hnext := hgrow digits (10 * word + digitValue c)
    simp only [valueFrom, List.foldl_cons] at h hnext ih ⊢
    rw [absorb, if_pos (Nat.lt_of_le_of_lt hnext h), ih h]

/-- A numeral that stands before this text ends where the text begins. -/
def EndsNumeral (rest : List Char) : Prop :=
  ∀ c, rest.head? = some c → c.isDigit = false ∧ c ≠ '.' ∧ c ≠ 'e' ∧ c ≠ 'E'

theorem endsNumeral_nil : EndsNumeral [] := by
  intro c h
  cases h

theorem endsNumeral_cons {c : Char} (h : c.isDigit = false ∧ c ≠ '.' ∧ c ≠ 'e' ∧ c ≠ 'E')
    (rest : List Char) : EndsNumeral (c :: rest) := by
  intro d hd
  cases hd
  exact h

theorem scanExponent_of_ends {rest : List Char} (h : EndsNumeral rest) :
    scanExponent rest = .ok (none, rest) := by
  cases rest with
  | nil => rfl
  | cons c rest =>
    obtain ⟨-, -, hlower, hupper⟩ := h c rfl
    have hmark : (c = 'e' || c = 'E') = false := by simp [hlower, hupper]
    unfold scanExponent
    simp only [hmark, Bool.false_eq_true, if_false]

/-- Digits in front of a text that ends them are the digits that are taken. -/
theorem takeDigits_append {digits rest : List Char} (hdigits : isNumber digits = true)
    (hend : ∀ c, rest.head? = some c → c.isDigit = false) :
    digitDue (digits ++ rest) = none ∧ (digits ++ rest).takeWhile Char.isDigit = digits ∧
      (digits ++ rest).dropWhile Char.isDigit = rest := by
  rw [isNumber, Bool.and_eq_true, List.all_eq_true] at hdigits
  obtain ⟨hne, hall⟩ := hdigits
  -- nothing is taken from `rest`, which begins with no digit
  have hrest : rest.takeWhile Char.isDigit = [] ∧ rest.dropWhile Char.isDigit = rest := by
    cases rest with
    | nil => exact ⟨rfl, rfl⟩
    | cons c rest =>
      have hc : ¬c.isDigit = true := by simp [hend c rfl]
      exact ⟨List.takeWhile_cons_of_neg hc, List.dropWhile_cons_of_neg hc⟩
  refine ⟨?_, ?_, ?_⟩
  · cases digits with
    | nil => cases hne
    | cons c digits => rw [List.cons_append, digitDue, if_pos (hall c List.mem_cons_self)]
  · rw [List.takeWhile_append_of_pos hall, hrest.1, List.append_nil]
  · rw [List.dropWhile_append_of_pos hall, hrest.2]

/-- Digits before the point, where a zero in front stands alone. -/
theorem scanWhole_append {digits rest : List Char} (hdigits : isNumber digits = true)
    (hzero : digits.head? = some '0' → digits.length = 1)
    (hend : ∀ c, rest.head? = some c → c.isDigit = false) :
    scanWhole (digits ++ rest) = .ok (digits, rest) := by
  obtain ⟨hdue, htake, hdrop⟩ := takeDigits_append hdigits hend
  have hhead : (digits ++ rest).head? = digits.head? := by
    cases digits with
    | nil => cases hdigits
    | cons c digits => rfl
  -- a zero in front is the only digit
  have hlone : ((digits ++ rest).head? = some '0' && digits.length ≠ 1) = false := by
    rw [hhead]
    by_cases hfirst : digits.head? = some '0'
    · simp [hzero hfirst]
    · simp [hfirst]
  unfold scanWhole
  simp only [hdue, htake, hdrop, hlone, Bool.false_eq_true, if_false]

/-- A plain numeral that fits an unsigned word, and half as much below zero, denotes an integer. -/
theorem number_toDigits {n : Nat} (h : n < Nat.pow 2 64) :
    Numeral.number ⟨false, Nat.toDigits 10 n, [], none, true⟩ = .ok (.integer n) ∧
      (n ≠ 0 → n ≤ Nat.pow 2 63 →
        Numeral.number ⟨true, Nat.toDigits 10 n, [], none, true⟩ = .ok (.integer (-n))) := by
  -- the digits fit into a word, so none is left over
  have habsorb : absorb 0 (Nat.toDigits 10 n) = (n, []) := by
    rw [absorb_eq (by rwa [valueFrom_toDigits]), valueFrom_toDigits]
  constructor
  · simp [Numeral.number, habsorb]
  · intro hzero hle
    have hlt : ¬Nat.pow 2 63 < n := Nat.not_lt.mpr hle
    simp [Numeral.number, habsorb, hzero, hlt]

/-- What begins a numeral begins nothing else. -/
theorem ne_of_beginsNumeral {c d : Char} (hc : c = '-' ∨ c.isDigit = true) (hminus : d ≠ '-')
    (hdigit : d.isDigit = false) : c ≠ d := by
  rintro rfl
  rcases hc with rfl | hc
  · exact hminus rfl
  · rw [hdigit] at hc
    cases hc

theorem scanScalar_numeral {c : Char} (hc : c = '-' ∨ c.isDigit = true) (rest : List Char) :
    scanScalar c rest = scanNumber (c :: rest) := by
  -- a sign or a digit is none of the characters that begin other scalars
  have hne : ∀ d : Char, d ≠ '-' → d.isDigit = false → c ≠ d := fun d => ne_of_beginsNumeral hc
  have hnumber : (c = '-' || c.isDigit) = true := by
    rcases hc with rfl | hc
    · rfl
    · rw [hc, Bool.or_true]
  rw [scanScalar, if_neg (hne _ (by decide) (by decide)), if_neg (hne _ (by decide) (by decide)),
    if_neg (hne _ (by decide) (by decide)), if_neg (hne _ (by decide) (by decide)),
    if_pos hnumber]

end IncidentTracker.Json

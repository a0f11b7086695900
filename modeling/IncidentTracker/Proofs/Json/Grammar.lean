import IncidentTracker.Proofs.Json.Scanning

/-!
# The Grammar of Texts and Numerals

Everything the grammar lets stand between quotes, and every numeral, in the way it is written: a
text with each of its escapes, a numeral with its leading sign and the letter of its exponent. What
is written in this way is always scanned to its end. It can be passed over, whatever it stands for;
only half a surrogate pair stands for no character, and a numeral may be too large for a number.

Main statements: `scanText_pieces` and `scanNumber_figures`.
-/

namespace IncidentTracker.Json

open Text.Decimal (isNumber splitSign)

/-! ## §1 Texts -/

/-- A piece of a text between its quotes. -/
inductive Piece where
  /-- A character that stands for itself. -/
  | bare (c : Char) (valid : c ≠ '"' ∧ c ≠ '\\' ∧ ¬c.toNat < 32)
  /-- A backslash and a character that names another. -/
  | named (c : Char) (valid : (namedEscape c).isSome = true)
  /-- A backslash, the letter `u` and four hexadecimal digits. -/
  | unit (a b c d : Char) (valid : (hexUnit a b c d).isSome = true)

/-- A piece as it is written. -/
def Piece.chars : Piece → List Char
  | .bare c _ => [c]
  | .named c _ => ['\\', c]
  | .unit a b c d _ => ['\\', 'u', a, b, c, d]

/-- The characters that pieces stand for: the two halves of a surrogate pair are one, and half of a
    pair is none. -/
def decode : List Piece → Option (List Char)
  | [] => some []
  | .bare c _ :: pieces => (decode pieces).map (c :: ·)
  | .named c valid :: pieces => (decode pieces).map ((namedEscape c).get valid :: ·)
  | .unit a b c d valid :: pieces =>
    let unit := (hexUnit a b c d).get valid
    if isLeading unit then
      match pieces with
      | .unit e f g h valid' :: rest =>
        let trailing := (hexUnit e f g h).get valid'
        if isTrailing trailing then (decode rest).map (pairChar unit trailing :: ·) else none
      | _ => none
    else if isTrailing unit then none
    else (decode pieces).map (Char.ofNat unit :: ·)

/-- The text that pieces stand for. -/
def textOf (pieces : List Piece) : Option String :=
  (decode pieces).map String.ofList

/-- What reading a text gives. -/
def textContent (pieces : List Piece) : Except Fault Scalar :=
  match textOf pieces with
  | some s => .ok (.text s)
  | none => .error .grammar

theorem namedEscape_u : namedEscape 'u' = none := by
  decide

/-- A character is scanned back from its name. -/
theorem scanBody_named {c e : Char} (h : namedEscape c = some e) (done : List Char)
    (unreadable : Option Fault) (rest : List Char) :
    scanBody done unreadable ('\\' :: c :: rest) = scanBody (e :: done) unreadable rest := by
  have hu : c ≠ 'u' := by
    rintro rfl
    rw [namedEscape_u] at h
    cases h
  rw [scanBody.eq_def]
  split
  all_goals grind

theorem scanBody_unit {a b c d : Char} {unit : Nat} (h : hexUnit a b c d = some unit)
    (hleading : isLeading unit = false) (done : List Char) (unreadable : Option Fault)
    (rest : List Char) :
    scanBody done unreadable ('\\' :: 'u' :: a :: b :: c :: d :: rest) =
      if isTrailing unit then scanBody done (unreadable <|> some .grammar) rest
      else scanBody (Char.ofNat unit :: done) unreadable rest := by
  rw [scanBody.eq_def]
  simp only [h, hleading, Bool.false_eq_true, if_false]

theorem scanBody_pair {a b c d e f g i : Char} {leading trailing : Nat}
    (h : hexUnit a b c d = some leading) (hleading : isLeading leading = true)
    (h' : hexUnit e f g i = some trailing) (done : List Char) (unreadable : Option Fault)
    (rest : List Char) :
    scanBody done unreadable
        ('\\' :: 'u' :: a :: b :: c :: d :: '\\' :: 'u' :: e :: f :: g :: i :: rest) =
      if isTrailing trailing then scanBody (pairChar leading trailing :: done) unreadable rest
      else scanBody done (unreadable <|> some .grammar)
        ('\\' :: 'u' :: e :: f :: g :: i :: rest) := by
  rw [scanBody.eq_def]
  simp only [h, hleading, h', if_true, Option.filter]
  -- a second unit that is no trailing one is left to be scanned again, on its own
  cases isTrailing trailing <;> rfl

/-- The first half of a pair stands alone before anything but four digits of its own. -/
theorem scanBody_lone {a b c d : Char} {leading : Nat} (h : hexUnit a b c d = some leading)
    (hleading : isLeading leading = true) (done : List Char) (unreadable : Option Fault)
    {rest : List Char} (hnil : rest ≠ []) (hslash : rest ≠ ['\\'])
    (hunit : ∀ more, rest ≠ '\\' :: 'u' :: more) :
    scanBody done unreadable ('\\' :: 'u' :: a :: b :: c :: d :: rest) =
      scanBody done (unreadable <|> some .grammar) rest := by
  -- no second unit follows, so what is skipped is a fault of grammar
  have hfault : loneLeading rest = .grammar := by
    rw [loneLeading.eq_def]
    split <;> simp_all
  rw [scanBody.eq_def]
  simp only [h, hleading, if_true]
  split
  case h_1 heq => exact absurd rfl (hunit _)
  case h_2 => rw [hfault]

/-- What a scanned text comes to: the characters its pieces stand for, after those that were there,
    or a fault to whoever reads it, if there was none before; in any case its end is found. -/
def Body.Reads (body : Body) (done : List Char) (unreadable : Option Fault)
    (decoded : Option (List Char)) (rest : List Char) : Prop :=
  body.ending = .ok rest ∧
    match decoded with
    | some s => body.reversed = s.reverse ++ done ∧ body.unreadable = unreadable
    | none => body.unreadable = (unreadable <|> some .grammar)

section

variable {body : Body} {done rest : List Char} {unreadable : Option Fault}
  {decoded : Option (List Char)}

theorem Body.Reads.cons {c : Char} (h : body.Reads (c :: done) unreadable decoded rest) :
    body.Reads done unreadable (decoded.map (c :: ·)) rest := by
  cases decoded with
  | none => exact h
  | some s =>
    obtain ⟨hending, hreversed, hunreadable⟩ := h
    refine ⟨hending, ?_, hunreadable⟩
    rw [hreversed, List.reverse_cons, List.append_assoc, List.singleton_append]

/-- Once there has been half a pair, it does not matter what else there is. -/
theorem Body.Reads.lone (h : body.Reads done (unreadable <|> some .grammar) decoded rest) :
    body.Reads done unreadable none rest := by
  refine ⟨h.1, ?_⟩
  cases decoded with
  | some s => exact h.2.2
  | none =>
    rw [h.2]
    cases unreadable <;> rfl

end

/-- What a text goes on with after a piece that is no unit of four digits. -/
private theorem chars_ne_unit {pieces : List Piece} (rest : List Char)
    (h : ∀ a b c d valid more, pieces ≠ .unit a b c d valid :: more) :
    pieces.flatMap Piece.chars ++ '"' :: rest ≠ [] ∧
      pieces.flatMap Piece.chars ++ '"' :: rest ≠ ['\\'] ∧
      ∀ more, pieces.flatMap Piece.chars ++ '"' :: rest ≠ '\\' :: 'u' :: more := by
  cases pieces with
  | nil => simp
  | cons piece pieces =>
    cases piece with
    | bare c valid => simp [Piece.chars, valid.2.1]
    -- a named escape is never the letter that begins a unit
    | named c valid =>
      have hu : c ≠ 'u' := by
        rintro rfl
        rw [namedEscape_u] at valid
        cases valid
      simp [Piece.chars, hu]
    | unit a b c d valid => exact absurd rfl (h a b c d valid pieces)

/-- Pieces are scanned up to the closing quote, as the characters they stand for. -/
theorem scanBody_pieces :
    ∀ (pieces : List Piece) (done : List Char) (unreadable : Option Fault) (rest : List Char),
      (scanBody done unreadable (pieces.flatMap Piece.chars ++ '"' :: rest)).Reads done unreadable
        (decode pieces) rest
  | [], done, unreadable, rest => by
    rw [List.flatMap_nil, List.nil_append, scanBody.eq_def]
    exact ⟨rfl, rfl, rfl⟩
  | .bare c valid :: pieces, done, unreadable, rest => by
    rw [List.flatMap_cons, Piece.chars, List.append_assoc, List.singleton_append,
      scanBody_bare valid.1 valid.2.1 valid.2.2, decode]
    exact (scanBody_pieces pieces (c :: done) unreadable rest).cons
  | .named c valid :: pieces, done, unreadable, rest => by
    have hname : namedEscape c = some ((namedEscape c).get valid) := (Option.some_get valid).symm
    rw [List.flatMap_cons, Piece.chars, List.append_assoc, List.cons_append, List.singleton_append,
      scanBody_named hname, decode]
    exact (scanBody_pieces pieces _ unreadable rest).cons
  | .unit a b c d valid :: pieces, done, unreadable, rest => by
    have hunit : hexUnit a b c d = some ((hexUnit a b c d).get valid) := (Option.some_get valid).symm
    rw [List.flatMap_cons, Piece.chars, List.append_assoc]
    simp only [List.cons_append, List.nil_append]
    rw [decode.eq_def]
    dsimp only
    split
    · next hleading =>
      split
      · next e f g h valid' more =>
        have hunit' : hexUnit e f g h = some ((hexUnit e f g h).get valid') :=
          (Option.some_get valid').symm
        -- a second unit that is not the other half is read again on its own
        have halone := scanBody_pieces (.unit e f g h valid' :: more) done
          (unreadable <|> some .grammar) rest
        rw [List.flatMap_cons, Piece.chars, List.append_assoc] at halone ⊢
        simp only [List.cons_append, List.nil_append] at halone ⊢
        rw [scanBody_pair hunit hleading hunit']
        split
        · exact (scanBody_pieces more _ unreadable rest).cons
        · exact halone.lone
      · next hne =>
        obtain ⟨hnil, hslash, hmore⟩ := chars_ne_unit rest hne
        rw [scanBody_lone hunit hleading done unreadable hnil hslash hmore]
        exact (scanBody_pieces pieces done _ rest).lone
    · next hleading =>
      rw [scanBody_unit hunit (by simpa using hleading)]
      split
      · exact (scanBody_pieces pieces done _ rest).lone
      · exact (scanBody_pieces pieces _ unreadable rest).cons

/-- A text is scanned up to its closing quote, whatever it stands for. -/
theorem scanText_pieces (pieces : List Piece) (rest : List Char) :
    scanText (pieces.flatMap Piece.chars ++ '"' :: rest) =
      ⟨.scalar .text (textContent pieces) none, rest⟩ := by
  obtain ⟨hending, hreads⟩ := scanBody_pieces pieces [] none rest
  rw [textContent, textOf]
  -- the body ends at the quote, whether its units make up a text or not
  cases hdecode : decode pieces with
  | none =>
    rw [hdecode] at hreads
    simp only [scanText, hending, hreads]
    rfl
  | some s =>
    rw [hdecode] at hreads
    simp only [scanText, hending, hreads.1, hreads.2, List.append_nil, List.reverse_reverse]
    rfl

/-! ## §2 Numerals -/

/-- The exponent of a numeral as it is written. -/
structure ExponentFigures where
  mark : Char
  /-- Whether there is a sign, and if so whether it is a minus. -/
  sign : Option Bool
  digits : List Char
  valid : (mark = 'e' ∨ mark = 'E') ∧ isNumber digits = true

/-- A numeral as it is written. -/
structure Figures where
  negative : Bool
  whole : List Char
  fraction : Option (List Char)
  exponent : Option ExponentFigures
  valid : isNumber whole = true ∧ (whole.head? = some '0' → whole.length = 1) ∧
    fraction.all isNumber = true

/-- An exponent as it is written. -/
def ExponentFigures.chars (e : ExponentFigures) : List Char :=
  match e.sign with
  | none => e.mark :: e.digits
  | some true => e.mark :: '-' :: e.digits
  | some false => e.mark :: '+' :: e.digits

/-- What follows the whole part of a numeral. -/
def fractionChars (fraction : Option (List Char)) : List Char :=
  match fraction with
  | none => []
  | some digits => '.' :: digits

def exponentChars (exponent : Option ExponentFigures) : List Char :=
  match exponent with
  | none => []
  | some e => e.chars

namespace Figures

/-- A numeral without its sign as it is written. -/
def unsignedChars (f : Figures) : List Char :=
  f.whole ++ (fractionChars f.fraction ++ exponentChars f.exponent)

/-- A numeral as it is written. -/
def chars (f : Figures) : List Char :=
  if f.negative then '-' :: f.unsignedChars else f.unsignedChars

/-- The numeral that figures stand for. -/
def numeral (f : Figures) : Numeral :=
  ⟨f.negative, f.whole, f.fraction.getD [],
    f.exponent.map fun e => (e.sign.getD false, e.digits),
    f.fraction.isNone && f.exponent.isNone⟩

end Figures

private theorem splitSign_digits {digits : List Char} (h : isNumber digits = true)
    (rest : List Char) : splitSign (digits ++ rest) = (false, digits ++ rest) := by
  cases digits with
  | nil => cases h
  | cons c digits =>
    have hc : c.isDigit = true := by
      simp only [isNumber, List.all_cons, Bool.and_eq_true] at h
      exact h.2.1
    -- a digit is no sign
    have hminus : c ≠ '-' := by
      rintro rfl
      cases hc
    have hplus : c ≠ '+' := by
      rintro rfl
      cases hc
    unfold splitSign
    split <;> simp_all

/-- The sign of an exponent is split off its digits. -/
private theorem splitSign_exponent (e : ExponentFigures) (rest : List Char) :
    ∃ text, e.chars ++ rest = e.mark :: text ∧
      splitSign text = (e.sign.getD false, e.digits ++ rest) := by
  obtain ⟨mark, sign, digits, hmark, hdigits⟩ := e
  rcases sign with _ | _ | _
  · exact ⟨digits ++ rest, rfl, splitSign_digits hdigits rest⟩
  · exact ⟨'+' :: (digits ++ rest), rfl, rfl⟩
  · exact ⟨'-' :: (digits ++ rest), rfl, rfl⟩

/-- An exponent is scanned back, or its absence. -/
theorem scanExponent_append (exponent : Option ExponentFigures) {rest : List Char}
    (h : EndsNumeral rest) :
    scanExponent (exponentChars exponent ++ rest) =
      .ok (exponent.map fun e => (e.sign.getD false, e.digits), rest) := by
  cases exponent with
  | none => exact scanExponent_of_ends h
  | some e =>
    -- a sign if there is one, then all digits up to what follows the numeral
    obtain ⟨text, htext, hsign⟩ := splitSign_exponent e rest
    obtain ⟨hdue, htake, hdrop⟩ := takeDigits_append e.valid.2 fun c hc => (h c hc).1
    have hmark : (e.mark = 'e' || e.mark = 'E') = true := by simpa using e.valid.1
    rw [exponentChars, htext, scanExponent]
    simp only [hmark, hsign, hdue, htake, hdrop, if_true, Option.map_some]

/-- What stands before an exponent, or in its place, ends the digits before it. -/
private theorem exponentChars_ends (exponent : Option ExponentFigures) {rest : List Char}
    (h : EndsNumeral rest) :
    ∀ c, (exponentChars exponent ++ rest).head? = some c → c.isDigit = false ∧ c ≠ '.' := by
  intro c hc
  cases exponent with
  | none => exact ⟨(h c hc).1, (h c hc).2.1⟩
  | some e =>
    obtain ⟨text, htext, -⟩ := splitSign_exponent e rest
    rw [exponentChars, htext, List.head?_cons, Option.some.injEq] at hc
    subst hc
    rcases e.valid.1 with hmark | hmark <;> rw [hmark] <;> decide

/-- A fraction is scanned back, or its absence. -/
theorem scanFraction_append {fraction : Option (List Char)} (hvalid : fraction.all isNumber = true)
    {rest : List Char} (h : ∀ c, rest.head? = some c → c.isDigit = false ∧ c ≠ '.') :
    scanFraction (fractionChars fraction ++ rest) = .ok (fraction, rest) := by
  cases fraction with
  | none =>
    rw [fractionChars, List.nil_append, scanFraction.eq_def]
    split
    · -- a numeral without a fraction is not followed by a point
      next text => exact absurd rfl (h '.' rfl).2
    · rfl
  | some digits =>
    obtain ⟨hdue, htake, hdrop⟩ := takeDigits_append hvalid fun c hc => (h c hc).1
    rw [fractionChars, List.cons_append, scanFraction]
    simp only [hdue, htake, hdrop]

/-- A numeral without its sign is scanned back, where the text after it ends it. -/
theorem scanUnsigned_figures (f : Figures) {rest : List Char} (h : EndsNumeral rest) :
    scanUnsigned f.negative (f.unsignedChars ++ rest) = .ok (f.numeral, rest) := by
  obtain ⟨hwhole, hzero, hfraction⟩ := f.valid
  have hends := exponentChars_ends f.exponent h
  -- behind the whole digits stands a point, a mark or whatever ends the numeral
  have hpoint : ∀ c, (fractionChars f.fraction ++ (exponentChars f.exponent ++ rest)).head? = some c →
      c.isDigit = false := by
    cases f.fraction with
    | none => exact fun c hc => (hends c hc).1
    | some digits =>
      intro c hc
      cases hc
      rfl
  have htext : f.unsignedChars ++ rest =
      f.whole ++ (fractionChars f.fraction ++ (exponentChars f.exponent ++ rest)) := by
    rw [Figures.unsignedChars, List.append_assoc, List.append_assoc]
  rw [htext, scanUnsigned, scanWhole_append hwhole hzero hpoint]
  simp only [bind, Except.bind, scanFraction_append hfraction hends,
    scanExponent_append f.exponent h, Option.isNone_map]
  rfl

/-- A numeral without its sign begins with a digit. -/
theorem exists_cons_unsignedChars (f : Figures) :
    ∃ c text, f.unsignedChars = c :: text ∧ c.isDigit = true := by
  -- the whole part is never empty, not even for zero
  have hwhole := f.valid.1
  rw [Figures.unsignedChars]
  cases hdigits : f.whole with
  | nil =>
    rw [hdigits] at hwhole
    cases hwhole
  | cons c digits =>
    rw [hdigits] at hwhole
    simp only [isNumber, List.all_cons, Bool.and_eq_true] at hwhole
    exact ⟨c, _, rfl, hwhole.2.1⟩

/-- A numeral begins with its sign or with a digit. -/
theorem exists_cons_chars (f : Figures) :
    ∃ c text, f.chars = c :: text ∧ (c = '-' ∨ c.isDigit = true) := by
  rw [Figures.chars]
  split
  · exact ⟨'-', f.unsignedChars, rfl, .inl rfl⟩
  · obtain ⟨c, text, heq, hc⟩ := exists_cons_unsignedChars f
    exact ⟨c, text, heq, .inr hc⟩

/-- A numeral is scanned to its end, where the text after it ends it. Whether it is a number is
    another question. -/
theorem scanNumber_figures (f : Figures) {rest : List Char} (h : EndsNumeral rest) :
    scanNumber (f.chars ++ rest) =
      ⟨.scalar .number (f.numeral.number.map .number) none, rest⟩ := by
  have hscan := scanUnsigned_figures f h
  rw [Figures.chars]
  split
  · next hnegative =>
    rw [hnegative] at hscan
    unfold scanNumber
    simp only [List.cons_append, hscan]
  · next hpositive =>
    rw [Bool.eq_false_iff.mpr hpositive] at hscan
    -- the first branch is for a sign, and there is none
    obtain ⟨c, text, heq, hc⟩ := exists_cons_unsignedChars f
    unfold scanNumber
    split
    case h_1 digits hminus =>
      rw [heq, List.cons_append] at hminus
      rw [(List.cons.inj hminus).1] at hc
      cases hc
    case h_2 => simp only [hscan]

end IncidentTracker.Json

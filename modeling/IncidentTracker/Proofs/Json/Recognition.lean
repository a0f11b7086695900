import IncidentTracker.Proofs.Json.Reading

/-!
# Recognizing the Grammar

Only texts of the grammar are laid out to their end. Wherever a scalar is scanned to its end, what
has been taken from the text is that scalar as it is written; and wherever a run comes to a complete
document, it has gone over the tokens of a phrase, which the document is that of.

Main statements: `exists_phrase_of_layout` and `exists_phrase_of_read`.
-/

namespace IncidentTracker.Json

open Text.Decimal (isNumber splitSign)

/-! ## §1 Texts and literals -/

/-- Whether a text begins with pieces and a closing quote, before the given rest. -/
def IsBody (rest text : List Char) : Prop :=
  ∃ pieces : List Piece, text = pieces.flatMap Piece.chars ++ '"' :: rest

theorem IsBody.cons {rest text : List Char} (h : IsBody rest text) (piece : Piece) :
    IsBody rest (piece.chars ++ text) := by
  obtain ⟨pieces, rfl⟩ := h
  exact ⟨piece :: pieces, by rw [List.flatMap_cons, List.append_assoc]⟩

/-- What is scanned up to a closing quote is made of pieces. -/
theorem isBody_of_scanBody {done : List Char} {unreadable : Option Fault} {text rest : List Char}
    (h : (scanBody done unreadable text).ending = .ok rest) : IsBody rest text := by
  have hsome {o : Option Nat} {unit : Nat} (heq : o = some unit) : o.isSome = true := by
    rw [heq]
    rfl
  fun_induction scanBody done unreadable text with
  | case2 =>
    cases h
    exact ⟨[], rfl⟩
  | case5 _ _ a b c d _ hfirst _ e f g i _ trailing hsecond ih =>
    -- the two halves of a pair are two pieces
    have hunit : (hexUnit e f g i).isSome = true :=
      hsome (Option.filter_eq_some_iff.mp hsecond).1
    exact ((ih h).cons (.unit e f g i hunit)).cons (.unit a b c d (hsome hfirst))
  | case6 _ _ a b c d _ hunit _ e f g i _ _ ih => exact (ih h).cons (.unit a b c d (hsome hunit))
  | case7 _ _ a b c d _ hunit _ _ _ ih => exact (ih h).cons (.unit a b c d (hsome hunit))
  | case8 _ _ a b c d _ _ hunit _ _ ih => exact (ih h).cons (.unit a b c d (hsome hunit))
  | case9 _ _ a b c d _ _ hunit _ _ ih => exact (ih h).cons (.unit a b c d (hsome hunit))
  | case11 _ _ c _ _ _ _ hname ih =>
    exact (ih h).cons (.named c (by rw [hname]; rfl))
  | case14 _ _ c text hquote hend _ _ hslash hcontrol ih =>
    have hbare : c ≠ '\\' := by
      intro heq
      cases text with
      | nil => exact hend heq rfl
      | cons d text => exact hslash d text heq rfl
    exact (ih h).cons (.bare c ⟨hquote, hbare, hcontrol⟩)
  | _ => cases h

/-- A text that can be passed over is made of pieces. -/
theorem exists_pieces_of_scanText {text : List Char}
    (h : (scanText text).document.skipped = none) :
    ∃ pieces, text = pieces.flatMap Piece.chars ++ '"' :: (scanText text).rest ∧
      (scanText text).document = .ofPieces pieces := by
  -- a text that can be skipped without a fault has a body that ends
  have hending : ∃ rest, (scanBody [] none text).ending = .ok rest := by
    unfold scanText at h
    cases hending : (scanBody [] none text).ending with
    | ok rest => exact ⟨rest, rfl⟩
    | error passing =>
      cases hfault : (scanBody [] none text).unreadable <;>
        simp_all [Document.skipped, Document.broken]
  obtain ⟨rest, hrest⟩ := hending
  obtain ⟨pieces, rfl⟩ := isBody_of_scanBody hrest
  rw [scanText_pieces]
  exact ⟨pieces, rfl, rfl⟩

/-- A text that lacks nothing of a word begins with it. -/
theorem eq_append_of_missing {word text : List Char} (h : missing word text = none) :
    text = word ++ text.drop word.length := by
  fun_induction missing word text with
  | case1 => rfl
  | case2 => cases h
  | case3 _ _ _ ih => rw [List.length_cons, List.drop_succ_cons, List.cons_append, ← ih h]
  | case4 => cases h

theorem eq_append_of_scanLiteral {start : Start} {value : Scalar} {word text : List Char}
    (h : (scanLiteral start value word text).document.skipped = none) :
    text = word ++ (scanLiteral start value word text).rest ∧
      (scanLiteral start value word text).document = .scalar start (.ok value) none := by
  unfold scanLiteral at h ⊢
  cases hmissing : missing word text with
  | none => exact ⟨eq_append_of_missing hmissing, rfl⟩
  | some fault =>
    rw [hmissing] at h
    cases h

/-! ## §2 Numerals -/

/-- Where a digit is due and stands, the digits there are a number. -/
theorem isNumber_of_digitDue {text : List Char} (h : digitDue text = none) :
    isNumber (text.takeWhile Char.isDigit) = true := by
  cases text with
  | nil => cases h
  | cons c text =>
    -- no fault is due, so the first character is a digit
    have hc : c.isDigit = true := by
      rw [digitDue] at h
      exact Decidable.byContradiction fun hc => by rw [if_neg hc] at h; cases h
    rw [isNumber, List.takeWhile_cons_of_pos hc, Bool.and_eq_true, List.all_eq_true]
    refine ⟨rfl, fun d hd => ?_⟩
    rcases List.mem_cons.mp hd with rfl | hd
    · exact hc
    · exact List.mem_takeWhile_imp hd

theorem eq_append_of_scanWhole {text digits rest : List Char}
    (h : scanWhole text = .ok (digits, rest)) :
    text = digits ++ rest ∧ isNumber digits = true ∧
      (digits.head? = some '0' → digits.length = 1) := by
  unfold scanWhole at h
  cases hdue : digitDue text with
  | some fault =>
    rw [hdue] at h
    cases h
  | none =>
    simp only [hdue] at h
    split at h
    · cases h
    · next hzero =>
      cases h
      refine ⟨List.takeWhile_append_dropWhile.symm, isNumber_of_digitDue hdue, fun hhead => ?_⟩
      -- the digits begin with a zero only if the text does, and then the zero stands alone
      have hfirst : text.head? = some '0' := by
        cases text with
        | nil => cases hdue
        | cons c text =>
          rw [List.takeWhile_cons] at hhead
          split at hhead
          · exact hhead
          · cases hhead
      simpa [hfirst] using hzero

theorem eq_append_of_scanFraction {text rest : List Char} {fraction : Option (List Char)}
    (h : scanFraction text = .ok (fraction, rest)) :
    text = fractionChars fraction ++ rest ∧ fraction.all isNumber = true := by
  unfold scanFraction at h
  -- a point asks for a digit; without one there is no fraction
  split at h
  · next text =>
    cases hdue : digitDue text with
    | some fault =>
      rw [hdue] at h
      cases h
    | none =>
      rw [hdue] at h
      cases h
      refine ⟨?_, isNumber_of_digitDue hdue⟩
      rw [fractionChars, List.cons_append, List.takeWhile_append_dropWhile]
  · cases h
    exact ⟨rfl, rfl⟩

/-- The sign of an exponent is one of two, or none. -/
private theorem exists_exponentFigures {mark : Char} (hmark : mark = 'e' ∨ mark = 'E')
    {text digits rest : List Char} (hdigits : isNumber digits = true)
    (h : (splitSign text).2 = digits ++ rest) :
    ∃ e : ExponentFigures, mark :: text = e.chars ++ rest ∧
      (e.sign.getD false, e.digits) = ((splitSign text).1, digits) := by
  unfold splitSign at h ⊢
  -- a minus, a plus or no sign at all
  split at h
  all_goals
    dsimp only at h
    subst h
  · exact ⟨⟨mark, some true, digits, hmark, hdigits⟩, rfl, rfl⟩
  · exact ⟨⟨mark, some false, digits, hmark, hdigits⟩, rfl, rfl⟩
  · exact ⟨⟨mark, none, digits, hmark, hdigits⟩, rfl, rfl⟩

theorem eq_append_of_scanExponent {text rest : List Char} {exponent : Option (Bool × List Char)}
    (h : scanExponent text = .ok (exponent, rest)) :
    ∃ e : Option ExponentFigures, text = exponentChars e ++ rest ∧
      (e.map fun e => (e.sign.getD false, e.digits)) = exponent := by
  cases text with
  | nil =>
    cases h
    exact ⟨none, rfl, rfl⟩
  | cons c text =>
    rw [scanExponent] at h
    -- the mark asks for a digit after the sign, if there is one
    split at h
    · next hmark =>
      cases hdue : digitDue (splitSign text).2 with
      | some fault =>
        simp only [hdue] at h
        cases h
      | none =>
        simp only [hdue] at h
        cases h
        obtain ⟨e, htext, hexponent⟩ := exists_exponentFigures (by simpa using hmark)
          (isNumber_of_digitDue hdue) List.takeWhile_append_dropWhile.symm
        exact ⟨some e, htext, congrArg some hexponent⟩
    · cases h
      exact ⟨none, rfl, rfl⟩

/-- What is scanned as a numeral without its sign is made of figures. -/
theorem exists_figures_of_scanUnsigned {negative : Bool} {text rest : List Char} {numeral : Numeral}
    (h : scanUnsigned negative text = .ok (numeral, rest)) :
    ∃ f : Figures, f.negative = negative ∧ text = f.unsignedChars ++ rest ∧
      f.numeral = numeral := by
  -- whole digits, fraction and exponent, each of which may fail
  simp only [scanUnsigned, bind, Except.bind] at h
  split at h
  · cases h
  · next hwhole =>
    split at h
    · cases h
    · next hfraction =>
      split at h
      · cases h
      · next hexponent =>
        cases h
        obtain ⟨htext, hdigits, hzero⟩ := eq_append_of_scanWhole hwhole
        obtain ⟨htext', hvalid⟩ := eq_append_of_scanFraction hfraction
        obtain ⟨e, htext'', he⟩ := eq_append_of_scanExponent hexponent
        refine ⟨⟨negative, _, _, e, hdigits, hzero, hvalid⟩, rfl, ?_, ?_⟩
        · simp only [Figures.unsignedChars, List.append_assoc]
          rw [htext, htext', htext'']
        · simp only [Figures.numeral, ← he, Option.isNone_map]

/-- A numeral that can be passed over is made of figures. -/
theorem exists_figures_of_scanNumber {text : List Char}
    (h : (scanNumber text).document.skipped = none) :
    ∃ f : Figures, text = f.chars ++ (scanNumber text).rest ∧
      (scanNumber text).document = .scalar .number (f.numeral.number.map .number) none := by
  -- the two signs differ only in the flag that is passed on
  have hscanned {negative : Bool} {digits : List Char} {scanned : Scanned}
      (hok : ∀ numeral rest, scanUnsigned negative digits = .ok (numeral, rest) →
        scanned = ⟨.scalar .number (numeral.number.map .number) none, rest⟩)
      (herror : ∀ fault, scanUnsigned negative digits = .error fault →
        scanned = ⟨.scalar .number (.error fault) (some .grammar), []⟩)
      (hskipped : scanned.document.skipped = none) :
      ∃ f : Figures, f.negative = negative ∧ digits = f.unsignedChars ++ scanned.rest ∧
        scanned.document = .scalar .number (f.numeral.number.map .number) none := by
    cases hresult : scanUnsigned negative digits with
    | error fault =>
      rw [herror fault hresult] at hskipped
      cases hskipped
    | ok scannedNumeral =>
      obtain ⟨numeral, rest⟩ := scannedNumeral
      obtain ⟨f, hnegative, htext, rfl⟩ := exists_figures_of_scanUnsigned hresult
      rw [hok _ rest hresult]
      exact ⟨f, hnegative, htext, rfl⟩
  unfold scanNumber at h ⊢
  split at h
  · next digits =>
    obtain ⟨f, hnegative, htext, hdocument⟩ :=
      hscanned (fun _ _ hok => by rw [hok]) (fun _ herror => by rw [herror]) h
    refine ⟨f, ?_, hdocument⟩
    rw [Figures.chars, if_pos hnegative, List.cons_append]
    exact congrArg ('-' :: ·) htext
  · next hsign =>
    obtain ⟨f, hnegative, htext, hdocument⟩ :=
      hscanned (fun _ _ hok => by rw [hok]) (fun _ herror => by rw [herror]) h
    refine ⟨f, ?_, hdocument⟩
    rw [Figures.chars, if_neg (by rw [hnegative]; exact Bool.false_ne_true)]
    exact htext

/-! ## §3 Scalars -/

/-- What has been scanned from a text is a phrase of one token. -/
def Scanned.IsPhrase (scanned : Scanned) (text : List Char) : Prop :=
  ∃ (φ : Phrase) (token : List Char), φ.tokens = [token] ∧ text = token ++ scanned.rest ∧
    φ.document = scanned.document

theorem isPhrase_of_scanLiteral {φ : Phrase} {start : Start} {value : Scalar} {c : Char}
    {word text : List Char} (htokens : φ.tokens = [c :: word])
    (hdocument : φ.document = .scalar start (.ok value) none)
    (h : (scanLiteral start value word text).document.skipped = none) :
    (scanLiteral start value word text).IsPhrase (c :: text) := by
  obtain ⟨htext, hscanned⟩ := eq_append_of_scanLiteral h
  exact ⟨φ, c :: word, htokens, by rw [List.cons_append, ← htext], by rw [hdocument, hscanned]⟩

/-- A scalar that can be passed over is a phrase. -/
theorem isPhrase_of_scanScalar {c : Char} {text : List Char}
    (h : (scanScalar c text).document.skipped = none) :
    (scanScalar c text).IsPhrase (c :: text) := by
  -- the first character decides: a quote, one of the three literals, a numeral or nothing
  revert h
  unfold scanScalar
  split
  · next hc =>
    intro h
    obtain ⟨pieces, htext, hdocument⟩ := exists_pieces_of_scanText h
    refine ⟨.text pieces, quotedChars pieces, by rw [Phrase.tokens], ?_, ?_⟩
    · rw [hc]
      simpa [quotedChars] using htext
    · rw [Phrase.document, hdocument]
  split
  · next hc =>
    subst hc
    exact isPhrase_of_scanLiteral (φ := .null) (by rw [Phrase.tokens]; rfl) (by rw [Phrase.document])
  split
  · next hc =>
    subst hc
    exact isPhrase_of_scanLiteral (φ := .boolean true) (by rw [Phrase.tokens]; rfl)
      (by rw [Phrase.document])
  split
  · next hc =>
    subst hc
    exact isPhrase_of_scanLiteral (φ := .boolean false) (by rw [Phrase.tokens]; rfl)
      (by rw [Phrase.document])
  split
  · intro h
    obtain ⟨figures, htext, hdocument⟩ := exists_figures_of_scanNumber h
    exact ⟨.numeral figures, figures.chars, by rw [Phrase.tokens], htext,
      by rw [Phrase.document, hdocument]⟩
  · rintro ⟨⟩

/-! ## §4 Runs -/

section

variable {steps fewer : Nat} {due : Due} {stack : List Frame} {text rest left : List Char}
  {d : Document} {tokens tokens' : List (List Char)} {next next' : List Char → Step}

/-- A text that is left to a run goes over the given tokens before its next step, and from there the
    run comes to a complete document in fewer steps. -/
def Passes (d : Document) (left : List Char) (steps : Nat) (text : List Char)
    (tokens : List (List Char)) (next : List Char → Step) : Prop :=
  ∃ rest fewer, fewer < steps ∧ (next rest).goOn fewer = (d, some left) ∧
    ∀ more, isSpaced more rest = true → isSpaced (tokens ++ more) text = true

/-- Tokens are passed after others. -/
theorem Passes.trans {α : Type} {tokens' : α → List (List Char)} {next' : α → List Char → Step}
    (h : Passes d left steps text tokens (.more due stack))
    (h' : ∀ fewer rest, fewer < steps → run fewer due stack rest = (d, some left) →
      ∃ a, Passes d left fewer rest (tokens' a) (next' a)) :
    ∃ a, Passes d left steps text (tokens ++ tokens' a) (next' a) := by
  obtain ⟨middle, fewer, hfewer, hrun, hspaced⟩ := h
  obtain ⟨a, rest, fewest, hfewest, hgoOn, hspaced'⟩ := h' fewer middle hfewer hrun
  -- the tokens of the second part follow those of the first, with fewer steps left
  refine ⟨a, rest, fewest, Nat.lt_trans hfewest hfewer, hgoOn, fun more hmore => ?_⟩
  rw [List.append_assoc]
  exact hspaced _ (hspaced' more hmore)

/-- A run that comes to a complete document takes a token that begins with a visible character. -/
theorem exists_step_of_run (h : run steps due stack text = (d, some left)) :
    ∃ c rest fewer, fewer < steps ∧ text.dropWhile isSpace = c :: rest ∧
      (step due stack c rest).goOn fewer = (d, some left) := by
  -- a run that ends well has taken at least one step, at a character that is no blank
  cases steps with
  | zero => cases h
  | succ fewer =>
    rw [run] at h
    cases htext : text.dropWhile isSpace with
    | nil =>
      rw [htext] at h
      cases h
    | cons c rest =>
      rw [htext] at h
      refine ⟨c, rest, fewer, Nat.lt_succ_self fewer, rfl, ?_⟩
      rw [← h]
      dsimp only
      cases step due stack c rest <;> rfl

/-- Where the first token is taken in the same way, a run comes to the same end. -/
theorem run_of_step {due' : Due} {c : Char} (h : run steps due stack text = (d, some left))
    (htext : text.dropWhile isSpace = c :: rest)
    (hstep : step due stack c rest = step due' stack c rest) :
    run steps due' stack text = (d, some left) := by
  cases steps with
  | zero => cases h
  | succ fewer =>
    rw [run, htext] at h ⊢
    dsimp only at h ⊢
    rwa [← hstep]

/-- A token at the front of a text is passed by the step that is made of it. -/
theorem passes_token {token : List Char} (hfewer : fewer < steps)
    (htext : text.dropWhile isSpace = token ++ rest)
    (hgoOn : (next rest).goOn fewer = (d, some left)) :
    Passes d left steps text [token] next := by
  refine ⟨rest, fewer, hfewer, hgoOn, fun more hmore => ?_⟩
  rw [List.singleton_append, isSpaced, htext, List.drop_left, Bool.and_eq_true]
  exact ⟨List.isPrefixOf_iff_prefix.mpr (List.prefix_append token rest), hmore⟩

/-- A run of so many steps that comes to an end from the place of a value goes over a phrase. -/
def PassesPhrase (steps : Nat) : Prop :=
  ∀ (stack : List Frame) (text : List Char) (d : Document) (left : List Char),
    run steps .item stack text = (d, some left) →
    ∃ φ : Phrase, Passes d left steps text φ.tokens (complete φ.document stack)

/-- Groups of tokens, with a comma before each but the first. -/
theorem intercalate_cons (group : List (List Char)) (groups : List (List (List Char))) :
    [[',']].intercalate (group :: groups) = group ++ groups.flatMap ([','] :: ·) := by
  induction groups generalizing group with
  | nil => simp
  | cons next groups ih => simp [ih]

/-! ## §5 Lists -/

/-- What follows an item up to the end of its list. -/
theorem passes_itemsAfter (hphrase : ∀ fewer < steps, PassesPhrase fewer) (done : List Document)
    (h : run steps .separator (.list done :: stack) text = (d, some left)) :
    ∃ items : List Phrase, Passes d left steps text
      ((itemTokens items).flatMap ([','] :: ·) ++ [[']']])
      (complete (.list (done.reverse ++ phraseDocuments items) none) stack) := by
  induction steps using Nat.strongRecOn generalizing text done with
  | _ steps ih =>
    obtain ⟨c, rest, fewer, hfewer, htext, hgoOn⟩ := exists_step_of_run h
    simp only [step, stepSeparator] at hgoOn
    split at hgoOn
    · next hc =>
      -- a comma, an item, and whatever follows that
      subst hc
      have hcomma : Passes d left steps text [[',']] (.more .item (.list done :: stack)) :=
        passes_token hfewer htext hgoOn
      obtain ⟨φ, hitem⟩ := hcomma.trans fun fewer rest hfewer hrun =>
        hphrase fewer hfewer (.list done :: stack) rest d left hrun
      have hafter : Passes d left steps text ([[',']] ++ φ.tokens)
          (.more .separator (.list (φ.document :: done) :: stack)) := hitem
      obtain ⟨items, hitems⟩ := hafter.trans fun fewer rest hfewer hrun =>
        ih fewer hfewer (fun fewest hfewest => hphrase fewest (Nat.lt_trans hfewest hfewer)) _ hrun
      exact ⟨φ :: items, by simpa [itemTokens, phraseDocuments] using hitems⟩
    · split at hgoOn
      · next hc =>
        subst hc
        have hclose : (complete (.list done.reverse none) stack rest).goOn fewer = (d, some left) :=
          hgoOn
        refine ⟨[], ?_⟩
        rw [phraseDocuments, List.append_nil]
        exact passes_token hfewer htext hclose
      · cases hgoOn

/-- What follows the bracket that opens a list. -/
theorem passes_items (hphrase : ∀ fewer ≤ steps, PassesPhrase fewer)
    (h : run steps .firstItem (.list [] :: stack) text = (d, some left)) :
    ∃ items : List Phrase, Passes d left steps text
      ([[',']].intercalate (itemTokens items) ++ [[']']])
      (complete (.list (phraseDocuments items) none) stack) := by
  obtain ⟨c, rest, fewer, hfewer, htext, hgoOn⟩ := exists_step_of_run h
  -- either the list is closed at once, or an item begins here
  by_cases hc : c = ']'
  · subst hc
    have hclose : (complete (.list [] none) stack rest).goOn fewer = (d, some left) := hgoOn
    refine ⟨[], ?_⟩
    rw [phraseDocuments]
    exact passes_token hfewer htext hclose
  · -- the first item is like any other
    have hitem : run steps .item (.list [] :: stack) text = (d, some left) :=
      run_of_step h htext (by simp [step, stepItem, hc])
    obtain ⟨φ, hφ⟩ := hphrase steps (Nat.le_refl steps) _ _ _ _ hitem
    have hafter : Passes d left steps text φ.tokens
        (.more .separator (.list [φ.document] :: stack)) := hφ
    obtain ⟨items, hitems⟩ := hafter.trans fun fewer rest hfewer hrun =>
      passes_itemsAfter (fun fewest hfewest =>
        hphrase fewest (Nat.le_of_lt (Nat.lt_trans hfewest hfewer))) _ hrun
    refine ⟨φ :: items, ?_⟩
    rw [itemTokens, intercalate_cons, List.append_assoc, phraseDocuments]
    exact hitems

/-! ## §6 Objects -/

theorem passes_key {done : List (Document × Document)}
    (h : run steps .key (.object done :: stack) text = (d, some left)) :
    ∃ key : List Piece, Passes d left steps text [quotedChars key]
      (.more .colon (.member done (.ofPieces key) :: stack)) := by
  obtain ⟨c, rest, fewer, hfewer, htext, hgoOn⟩ := exists_step_of_run h
  -- a brace closes the object only where the first key is due
  have hopen : (c = '\x7d' && Due.key == Due.firstKey) = false := by simp
  simp only [step, stepKey, hopen, Bool.false_eq_true, if_false] at hgoOn
  split at hgoOn
  · next hc =>
    subst hc
    -- a key that is broken off ends the run with no text left
    cases hskipped : (scanText rest).document.skipped with
    | some fault =>
      simp only [hskipped] at hgoOn
      cases hgoOn
    | none =>
      simp only [hskipped] at hgoOn
      obtain ⟨key, hrest, hdocument⟩ := exists_pieces_of_scanText hskipped
      rw [hdocument] at hgoOn
      refine ⟨key, passes_token hfewer ?_ hgoOn⟩
      rw [htext]
      simpa [quotedChars] using hrest
  · cases hgoOn

/-- A colon and the value of a key. -/
theorem passes_value (hphrase : ∀ fewer < steps, PassesPhrase fewer)
    (h : run steps .colon stack text = (d, some left)) :
    ∃ φ : Phrase, Passes d left steps text ([[':']] ++ φ.tokens) (complete φ.document stack) := by
  obtain ⟨c, rest, fewer, hfewer, htext, hgoOn⟩ := exists_step_of_run h
  simp only [step, stepColon] at hgoOn
  -- nothing but a colon goes on behind a key
  split at hgoOn
  · next hc =>
    subst hc
    have hcolon : Passes d left steps text [[':']] (.more .item stack) :=
      passes_token hfewer htext hgoOn
    exact hcolon.trans fun fewer rest hfewer hrun => hphrase fewer hfewer stack rest d left hrun
  · cases hgoOn

/-- A member of an object. -/
theorem passes_member (hphrase : ∀ fewer < steps, PassesPhrase fewer)
    (done : List (Document × Document))
    (h : run steps .key (.object done :: stack) text = (d, some left)) :
    ∃ member : List Piece × Phrase, Passes d left steps text
      (quotedChars member.1 :: [':'] :: member.2.tokens)
      (.more .separator
        (.object ((.ofPieces member.1, member.2.document) :: done) :: stack)) := by
  obtain ⟨key, hkey⟩ := passes_key h
  obtain ⟨φ, hφ⟩ := hkey.trans fun fewer rest hfewer hrun =>
    passes_value (fun fewest hfewest => hphrase fewest (Nat.lt_trans hfewest hfewer)) hrun
  exact ⟨(key, φ), hφ⟩

/-- What follows a member up to the end of its object. -/
theorem passes_membersAfter (hphrase : ∀ fewer < steps, PassesPhrase fewer)
    (done : List (Document × Document))
    (h : run steps .separator (.object done :: stack) text = (d, some left)) :
    ∃ members : List (List Piece × Phrase), Passes d left steps text
      ((memberTokens members).flatMap ([','] :: ·) ++ [['\x7d']])
      (complete (.object (done.reverse ++ phraseMembers members) none) stack) := by
  induction steps using Nat.strongRecOn generalizing text done with
  | _ steps ih =>
    obtain ⟨c, rest, fewer, hfewer, htext, hgoOn⟩ := exists_step_of_run h
    simp only [step, stepSeparator] at hgoOn
    split at hgoOn
    · next hc =>
      -- a comma, a member, and whatever follows that
      subst hc
      have hcomma : Passes d left steps text [[',']] (.more .key (.object done :: stack)) :=
        passes_token hfewer htext hgoOn
      obtain ⟨member, hafter⟩ := hcomma.trans fun fewer rest hfewer hrun =>
        passes_member (fun fewest hfewest => hphrase fewest (Nat.lt_trans hfewest hfewer)) done hrun
      obtain ⟨members, hmembers⟩ := hafter.trans fun fewer rest hfewer hrun =>
        ih fewer hfewer (fun fewest hfewest => hphrase fewest (Nat.lt_trans hfewest hfewer)) _ hrun
      exact ⟨member :: members, by simpa [memberTokens, phraseMembers] using hmembers⟩
    · split at hgoOn
      · next hc =>
        subst hc
        have hclose : (complete (.object done.reverse none) stack rest).goOn fewer =
            (d, some left) := hgoOn
        refine ⟨[], ?_⟩
        rw [phraseMembers, List.append_nil]
        exact passes_token hfewer htext hclose
      · cases hgoOn

/-- What follows the brace that opens an object. -/
theorem passes_members (hphrase : ∀ fewer ≤ steps, PassesPhrase fewer)
    (h : run steps .firstKey (.object [] :: stack) text = (d, some left)) :
    ∃ members : List (List Piece × Phrase), Passes d left steps text
      ([[',']].intercalate (memberTokens members) ++ [['\x7d']])
      (complete (.object (phraseMembers members) none) stack) := by
  obtain ⟨c, rest, fewer, hfewer, htext, hgoOn⟩ := exists_step_of_run h
  -- either the object is closed at once, or a member begins here
  by_cases hc : c = '\x7d'
  · subst hc
    have hclose : (complete (.object [] none) stack rest).goOn fewer = (d, some left) := hgoOn
    refine ⟨[], ?_⟩
    rw [phraseMembers]
    exact passes_token hfewer htext hclose
  · -- the first member is like any other
    have hmember : run steps .key (.object [] :: stack) text = (d, some left) :=
      run_of_step h htext (by simp [step, stepKey, hc])
    obtain ⟨member, hafter⟩ := passes_member
      (fun fewer hfewer => hphrase fewer (Nat.le_of_lt hfewer)) [] hmember
    obtain ⟨members, hmembers⟩ := hafter.trans fun fewer rest hfewer hrun =>
      passes_membersAfter (fun fewest hfewest =>
        hphrase fewest (Nat.le_of_lt (Nat.lt_trans hfewest hfewer))) _ hrun
    refine ⟨member :: members, ?_⟩
    rw [memberTokens, intercalate_cons, List.append_assoc, phraseMembers]
    exact hmembers

end

/-! ## §7 Whole texts -/

/-- Whatever comes to an end from the place of a value is a phrase. -/
theorem passesPhrase (steps : Nat) : PassesPhrase steps := by
  induction steps using Nat.strongRecOn with
  | _ steps ih =>
    intro stack text d left h
    obtain ⟨c, rest, fewer, hfewer, htext, hgoOn⟩ := exists_step_of_run h
    -- a bracket closes the list only where the first item is due
    have hnoend : (c = ']' && Due.item == Due.firstItem) = false := by simp
    simp only [step, stepItem, hnoend, Bool.false_eq_true, if_false] at hgoOn
    split at hgoOn
    · next hc =>
      subst hc
      -- the bracket, then the items with fewer steps
      have hopen : Passes d left steps text [['[']] (.more .firstItem (.list [] :: stack)) :=
        passes_token hfewer htext hgoOn
      obtain ⟨items, hitems⟩ := hopen.trans fun fewer rest hfewer hrun =>
        passes_items (fun fewest hle => ih fewest (Nat.lt_of_le_of_lt hle hfewer)) hrun
      refine ⟨.list items, ?_⟩
      rw [Phrase.tokens, Phrase.document]
      exact hitems
    split at hgoOn
    · next hc =>
      subst hc
      -- the brace, then the members with fewer steps
      have hopen : Passes d left steps text [['\x7b']] (.more .firstKey (.object [] :: stack)) :=
        passes_token hfewer htext hgoOn
      obtain ⟨members, hmembers⟩ := hopen.trans fun fewer rest hfewer hrun =>
        passes_members (fun fewest hle => ih fewest (Nat.lt_of_le_of_lt hle hfewer)) hrun
      refine ⟨.object members, ?_⟩
      rw [Phrase.tokens, Phrase.document]
      exact hmembers
    · cases hskipped : (scanScalar c rest).document.skipped with
      | some fault =>
        simp only [hskipped] at hgoOn
        cases hgoOn
      | none =>
        simp only [hskipped] at hgoOn
        obtain ⟨φ, token, htokens, hrest, hdocument⟩ := isPhrase_of_scanScalar hskipped
        refine ⟨φ, ?_⟩
        rw [htokens, hdocument]
        exact passes_token hfewer (htext.trans hrest) hgoOn

/-- A text that is laid out to its end, but for blanks, is a phrase with blanks between its
    tokens. -/
theorem exists_phrase_of_layout {text rest : List Char} {d : Document}
    (h : layout text = (d, some rest)) (hblank : rest.all isSpace = true) :
    ∃ φ : Phrase, isSpaced φ.tokens text = true ∧ φ.document = d := by
  obtain ⟨φ, middle, fewer, -, hgoOn, hspaced⟩ := passesPhrase _ [] text d rest h
  cases hgoOn
  have htext := hspaced [] hblank
  rw [List.append_nil] at htext
  exact ⟨φ, htext, rfl⟩

/-- A text with the tokens of a phrase is read as the document of the phrase. -/
theorem read_phrase {ν α : Type} {φ : Phrase} {text : List Char}
    (h : isSpaced φ.tokens text = true) (item : Decoder ν α) :
    read item text = match item nestingLimit φ.document [] with
      | .ok a notices => ⟨notices, .ok a⟩
      | .error problem notices => ⟨notices, .error problem⟩ := by
  obtain ⟨rest, hlayout, hblank⟩ := layout_of_isSpaced h
  cases hitem : item nestingLimit φ.document [] <;>
    simp only [read, hlayout, atEnd_blanks φ.document hblank, pure_bind, bind_pure, hitem]

theorem read_eq_ok_iff {ν α : Type} {item : Decoder ν α} {φ : Phrase} {text : List Char} {a : α}
    (h : isSpaced φ.tokens text = true) :
    (read item text).result = .ok a ↔
      ∃ notices, item nestingLimit φ.document [] = .ok a notices := by
  rw [read_phrase h]
  cases item nestingLimit φ.document [] with
  | error problem notices => exact ⟨nofun, nofun⟩
  | ok value notices =>
    constructor
    · rintro ⟨⟩
      exact ⟨notices, rfl⟩
    · rintro ⟨_, ⟨⟩⟩
      rfl

/-- Reading goes on to the end of the text only if nothing but blanks follows. -/
theorem exists_of_atEnd {ν : Type} {d : Document} {rest : Option (List Char)}
    {notices notices' : List ν} (h : (atEnd d rest : Decode ν Unit) notices = .ok () notices') :
    ∃ left, rest = some left ∧ left.all isSpace = true := by
  -- without a rest the text was cut short, and the end is not reached
  cases rest with
  | none => cases h
  | some left =>
    rw [atEnd] at h
    split at h
    · next hempty =>
      refine ⟨left, rfl, List.all_eq_true.mpr ?_⟩
      exact List.dropWhile_eq_nil_iff.mp (List.isEmpty_iff.mp hempty)
    · cases h

/-- A text that can be read at all is a phrase with blanks between its tokens. -/
theorem exists_phrase_of_read {ν α : Type} {item : Decoder ν α} {text : List Char} {a : α}
    (h : (read item text).result = .ok a) : ∃ φ : Phrase, isSpaced φ.tokens text = true := by
  obtain ⟨d, rest, hlayout⟩ : ∃ d rest, layout text = (d, rest) := ⟨_, _, rfl⟩
  simp only [read, hlayout, bind, EStateM.bind] at h
  cases hitem : item nestingLimit d [] with
  | error problem notices => simp [hitem] at h
  | ok value notices =>
    -- the item was read and the text ended, so the layout had succeeded
    cases hend : (atEnd d rest : Decode ν Unit) notices with
    | error problem notices' => simp [hitem, hend] at h
    | ok _ notices' =>
      obtain ⟨left, rfl, hblank⟩ := exists_of_atEnd hend
      obtain ⟨φ, hspaced, -⟩ := exists_phrase_of_layout hlayout hblank
      exact ⟨φ, hspaced⟩

end IncidentTracker.Json

import IncidentTracker.Json.Render
import IncidentTracker.Proofs.Json.Spacing

/-!
# Written Values as Phrases

A value that has been written is a phrase of the grammar, in either of its forms: the two have the
same tokens and differ in the blanks between them only. So both are laid out as the document that
has the shape of the value.

Main statements: `isSpaced_compact`, `isSpaced_pretty` and `document_phrase`.
-/

namespace IncidentTracker.Json

/-! ## §1 Documents of values -/

/-- The document of a text. -/
def Document.ofText (s : String) : Document :=
  .scalar .text (.ok (.text s)) none

mutual

/-- The document of a value that has been written. -/
def Value.document : Value → Document
  | .null => .scalar .null (.ok .null) none
  | .boolean b => .scalar .boolean (.ok (.boolean b)) none
  | .integer n => .scalar .number (.ok (.number (.integer n))) none
  | .text s => .ofText s
  | .list items => .list (documents items) none
  | .object members => .object (memberDocuments members) none

def documents : List Value → List Document
  | [] => []
  | item :: items => item.document :: documents items

def memberDocuments : List (String × Value) → List (Document × Document)
  | [] => []
  | (name, value) :: members =>
    (.ofText name, value.document) :: memberDocuments members

end

@[simp] theorem document_text (s : String) : (Value.text s).document = .ofText s := by
  rw [Value.document]

mutual

/-- Whether every integer of a value fits a signed word. -/
def Value.fits : Value → Bool
  | .null => true
  | .boolean _ => true
  | .integer n => Text.Decimal.isWord n
  | .text _ => true
  | .list items => allFit items
  | .object members => allMembersFit members

def allFit : List Value → Bool
  | [] => true
  | item :: items => item.fits && allFit items

def allMembersFit : List (String × Value) → Bool
  | [] => true
  | (_, value) :: members => value.fits && allMembersFit members

end

/-! ## §2 Scalars -/

/-- A character as it is written inside a text. -/
def pieceOf (c : Char) : Piece :=
  if hquote : c = '"' then .named '"' rfl
  else if hslash : c = '\\' then .named '\\' rfl
  else if c = '\x08' then .named 'b' rfl
  else if c = '\x0c' then .named 'f' rfl
  else if c = '\n' then .named 'n' rfl
  else if c = '\r' then .named 'r' rfl
  else if c = '\t' then .named 't' rfl
  else if hcontrol : c.toNat < 32 then
    .unit '0' '0' (hexDigit (c.toNat / 16)) (hexDigit (c.toNat % 16))
      (by rw [hexUnit_control hcontrol]; rfl)
  else .bare c ⟨hquote, hslash, hcontrol⟩

theorem chars_pieceOf (c : Char) : (pieceOf c).chars = escapeChar c := by
  unfold pieceOf escapeChar
  repeat' split
  all_goals rfl

/-- A piece stands for the character that is written in it. -/
theorem decode_pieceOf (c : Char) (pieces : List Piece) :
    decode (pieceOf c :: pieces) = (decode pieces).map (c :: ·) := by
  unfold pieceOf
  repeat' split
  -- the named escapes first, in the order in which they are written
  iterate 7 case isTrue h =>
    subst h
    rfl
  case isTrue hcontrol =>
    -- four digits may announce half a surrogate pair, but not for a number this small
    have hleading : isLeading c.toNat = false := by
      simp [isLeading]
      omega
    have htrailing : isTrailing c.toNat = false := by
      simp [isTrailing]
      omega
    rw [decode.eq_def]
    simp [hexUnit_control hcontrol, hleading, htrailing]
  case isFalse => rw [decode]

/-- A text as it is written. -/
def piecesOf (s : String) : List Piece :=
  s.toList.map pieceOf

theorem textOf_piecesOf (s : String) : textOf (piecesOf s) = some s := by
  have hdecode : ∀ chars : List Char, decode (chars.map pieceOf) = some chars := by
    intro chars
    induction chars with
    | nil => rfl
    | cons c chars ih => rw [List.map_cons, decode_pieceOf, ih, Option.map_some]
  rw [textOf, piecesOf, hdecode, Option.map_some, String.ofList_toList]

theorem quotedChars_piecesOf (s : String) (rest : List Char) :
    quotedChars (piecesOf s) ++ rest = textChars s rest := by
  simp [quotedChars, piecesOf, textChars, List.flatMap_map, chars_pieceOf]

/-- The figures of a whole number. -/
def figuresOfNat (negative : Bool) (n : Nat) : Figures where
  negative := negative
  whole := Nat.toDigits 10 n
  fraction := none
  exponent := none
  valid := by
    refine ⟨Text.Decimal.isNumber_toDigits n, fun hhead => ?_, rfl⟩
    -- only zero begins with a zero
    rw [eq_zero_of_head?_toDigits hhead]
    rfl

/-- The figures of an integer. -/
def figuresOf : Int → Figures
  | .ofNat n => figuresOfNat false n
  | .negSucc n => figuresOfNat true (n + 1)

theorem chars_figuresOf (n : Int) : (figuresOf n).chars = Text.Decimal.ofInt n := by
  cases n <;>
    simp [figuresOf, figuresOfNat, Figures.chars, Figures.unsignedChars, fractionChars,
      exponentChars, Text.Decimal.ofInt]

/-- An integer of a signed word is read back from its figures. -/
theorem number_figuresOf {n : Int} (hword : Text.Decimal.isWord n = true) :
    (figuresOf n).numeral.number = .ok (.integer n) := by
  -- the bounds as numerals, for the arithmetic below
  have hpow : Nat.pow 2 64 = 18446744073709551616 ∧ Nat.pow 2 63 = 9223372036854775808 := by
    decide
  simp only [Text.Decimal.isWord, Bool.and_eq_true, decide_eq_true_eq] at hword
  cases n with
  | ofNat m =>
    simp only [Int.ofNat_eq_natCast] at hword
    exact (number_toDigits (n := m) (by omega)).1
  | negSucc m => exact (number_toDigits (n := m + 1) (by omega)).2 (Nat.succ_ne_zero m) (by omega)

/-! ## §3 Phrases -/

mutual

/-- A value as it is written, but for the blanks. -/
def Value.phrase : Value → Phrase
  | .null => .null
  | .boolean b => .boolean b
  | .integer n => .numeral (figuresOf n)
  | .text s => .text (piecesOf s)
  | .list items => .list (phrases items)
  | .object members => .object (memberPhrases members)

def phrases : List Value → List Phrase
  | [] => []
  | item :: items => item.phrase :: phrases items

def memberPhrases : List (String × Value) → List (List Piece × Phrase)
  | [] => []
  | (name, value) :: members => (piecesOf name, value.phrase) :: memberPhrases members

end

theorem ofPieces_piecesOf (s : String) : Document.ofPieces (piecesOf s) = .ofText s := by
  rw [Document.ofPieces, textContent, textOf_piecesOf]
  rfl

mutual

/-- A value whose integers fit a signed word is laid out in its own shape. -/
theorem document_phrase : ∀ v : Value, v.fits = true → v.phrase.document = v.document
  | .null, _ => by rw [Value.phrase, Phrase.document, Value.document]
  | .boolean b, _ => by rw [Value.phrase, Phrase.document, Value.document]
  -- an integer that fits is written in figures that read as the same number
  | .integer n, h => by
    rw [Value.fits] at h
    rw [Value.phrase, Phrase.document, Value.document, number_figuresOf h]
    rfl
  | .text s, _ => by rw [Value.phrase, Phrase.document, Value.document, ofPieces_piecesOf]
  | .list items, h => by
    rw [Value.fits] at h
    rw [Value.phrase, Phrase.document, Value.document, phraseDocuments_phrases items h]
  | .object members, h => by
    rw [Value.fits] at h
    rw [Value.phrase, Phrase.document, Value.document, phraseMembers_memberPhrases members h]

theorem phraseDocuments_phrases :
    ∀ items : List Value, allFit items = true → phraseDocuments (phrases items) = documents items
  | [], _ => by rw [phrases, phraseDocuments, documents]
  | item :: items, h => by
    rw [allFit, Bool.and_eq_true] at h
    rw [phrases, phraseDocuments, documents, document_phrase item h.1,
      phraseDocuments_phrases items h.2]

theorem phraseMembers_memberPhrases :
    ∀ members : List (String × Value), allMembersFit members = true →
      phraseMembers (memberPhrases members) = memberDocuments members
  | [], _ => by rw [memberPhrases, phraseMembers, memberDocuments]
  | (name, value) :: members, h => by
    rw [allMembersFit, Bool.and_eq_true] at h
    rw [memberPhrases, phraseMembers, memberDocuments, ofPieces_piecesOf, document_phrase value h.1,
      phraseMembers_memberPhrases members h.2]

end

/-! ## §4 Spaced tokens -/

variable {tokens : List (List Char)} {rest : List Char}

/-- Blanks in front of a text change nothing about its tokens. -/
theorem isSpaced_blanks {blanks : List Char} (hblanks : blanks.all isSpace = true)
    (tokens : List (List Char)) (rest : List Char) :
    isSpaced tokens (blanks ++ rest) = isSpaced tokens rest := by
  cases tokens with
  | nil => rw [isSpaced, isSpaced, List.all_append, hblanks, Bool.true_and]
  | cons token tokens =>
    rw [isSpaced, isSpaced, List.dropWhile_append_of_pos (List.all_eq_true.mp hblanks)]

theorem isSpaced_newLine (level : Nat) (tokens : List (List Char)) (rest : List Char) :
    isSpaced tokens (newLine level rest) = isSpaced tokens rest := by
  have hblanks : ('\n' :: List.replicate (2 * level) ' ').all isSpace = true := by
    simp [isSpace]
  exact isSpaced_blanks hblanks tokens rest

/-- A token that begins with a visible character is taken as it stands. -/
theorem isSpaced_token {c : Char} (hspace : isSpace c = false) (chars : List Char)
    (tokens : List (List Char)) (rest : List Char) :
    isSpaced ((c :: chars) :: tokens) (c :: (chars ++ rest)) = isSpaced tokens rest := by
  have hdrop : (c :: (chars ++ rest)).dropWhile isSpace = c :: chars ++ rest :=
    List.dropWhile_cons_of_neg (by simp [hspace])
  have hprefix : (c :: chars).isPrefixOf (c :: chars ++ rest) = true :=
    List.isPrefixOf_iff_prefix.mpr (List.prefix_append _ _)
  rw [isSpaced, hdrop, hprefix, List.drop_left, Bool.true_and]

/-- A token of one visible character. -/
theorem isSpaced_mark {c : Char} (hspace : isSpace c = false) (tokens : List (List Char))
    (rest : List Char) : isSpaced ([c] :: tokens) (c :: rest) = isSpaced tokens rest :=
  isSpaced_token hspace [] tokens rest

theorem isSpaced_textChars (s : String) (tokens : List (List Char)) (rest : List Char) :
    isSpaced (quotedChars (piecesOf s) :: tokens) (textChars s rest) = isSpaced tokens rest := by
  rw [← quotedChars_piecesOf]
  exact isSpaced_token (by decide) _ tokens rest

theorem isSpaced_ofInt (n : Int) (tokens : List (List Char)) (rest : List Char) :
    isSpaced ((figuresOf n).chars :: tokens) (Text.Decimal.ofInt n ++ rest) =
      isSpaced tokens rest := by
  obtain ⟨c, digits, heq, hc⟩ := exists_cons_chars (figuresOf n)
  have hspace : isSpace c = false := by
    -- it is a digit or a minus sign
    have hne : ∀ d : Char, d ≠ '-' → d.isDigit = false → c ≠ d := fun d => ne_of_beginsNumeral hc
    simp [isSpace, hne]
  rw [← chars_figuresOf, heq]
  exact isSpaced_token hspace digits tokens rest

/-! ## §5 Both forms -/

private theorem itemTokens_nil : [[',']].intercalate (itemTokens (phrases [])) = [] := by
  rw [phrases, itemTokens, List.intercalate_nil]

private theorem itemTokens_singleton (item : Value) :
    [[',']].intercalate (itemTokens (phrases [item])) = item.phrase.tokens := by
  rw [phrases, phrases, itemTokens, itemTokens, List.intercalate_singleton]

private theorem itemTokens_cons_cons (item next : Value) (items : List Value)
    (tokens : List (List Char)) :
    [[',']].intercalate (itemTokens (phrases (item :: next :: items))) ++ tokens =
      item.phrase.tokens ++
        [','] :: ([[',']].intercalate (itemTokens (phrases (next :: items))) ++ tokens) := by
  simp [phrases, itemTokens, List.intercalate_cons_cons]

private theorem memberTokens_nil : [[',']].intercalate (memberTokens (memberPhrases [])) = [] := by
  rw [memberPhrases, memberTokens, List.intercalate_nil]

private theorem memberTokens_singleton (name : String) (value : Value) :
    [[',']].intercalate (memberTokens (memberPhrases [(name, value)])) =
      quotedChars (piecesOf name) :: [':'] :: value.phrase.tokens := by
  rw [memberPhrases, memberPhrases, memberTokens, memberTokens, List.intercalate_singleton]

private theorem memberTokens_cons_cons (name : String) (value : Value) (next : String × Value)
    (members : List (String × Value)) (tokens : List (List Char)) :
    [[',']].intercalate (memberTokens (memberPhrases ((name, value) :: next :: members))) ++
        tokens =
      quotedChars (piecesOf name) :: [':'] :: (value.phrase.tokens ++ [','] ::
        ([[',']].intercalate (memberTokens (memberPhrases (next :: members))) ++ tokens)) := by
  simp [memberPhrases, memberTokens, List.intercalate_cons_cons]

private theorem compactItems_cons_cons (item next : Value) (items : List Value)
    (rest : List Char) :
    compactItems (item :: next :: items) rest =
      compactChars item (',' :: compactItems (next :: items) rest) := by
  rw [compactItems]
  exact List.cons_ne_nil next items

private theorem compactMembers_cons_cons (name : String) (value : Value) (next : String × Value)
    (members : List (String × Value)) (rest : List Char) :
    compactMembers ((name, value) :: next :: members) rest =
      textChars name
        (':' :: compactChars value (',' :: compactMembers (next :: members) rest)) := by
  rw [compactMembers]
  exact List.cons_ne_nil next members

mutual

/-- The compact form of a value has the tokens of the value. -/
theorem isSpaced_compactChars :
    ∀ (v : Value) (tokens : List (List Char)) (rest : List Char),
      isSpaced (v.phrase.tokens ++ tokens) (compactChars v rest) = isSpaced tokens rest
  | .null, tokens, rest => by
    rw [Value.phrase, Phrase.tokens, compactChars]
    exact isSpaced_token (by decide) _ tokens rest
  | .boolean true, tokens, rest => by
    rw [Value.phrase, Phrase.tokens, compactChars]
    exact isSpaced_token (by decide) _ tokens rest
  | .boolean false, tokens, rest => by
    rw [Value.phrase, Phrase.tokens, compactChars]
    exact isSpaced_token (by decide) _ tokens rest
  | .integer n, tokens, rest => by
    rw [Value.phrase, Phrase.tokens, compactChars]
    exact isSpaced_ofInt n tokens rest
  | .text s, tokens, rest => by
    rw [Value.phrase, Phrase.tokens, compactChars]
    exact isSpaced_textChars s tokens rest
  -- the marks around and between the items are tokens of their own
  | .list items, tokens, rest => by
    rw [Value.phrase, Phrase.tokens, compactChars, List.cons_append, List.append_assoc,
      isSpaced_mark (by decide), isSpaced_compactItems items, List.singleton_append,
      isSpaced_mark (by decide)]
  | .object members, tokens, rest => by
    rw [Value.phrase, Phrase.tokens, compactChars, List.cons_append, List.append_assoc,
      isSpaced_mark (by decide), isSpaced_compactMembers members, List.singleton_append,
      isSpaced_mark (by decide)]

theorem isSpaced_compactItems :
    ∀ (items : List Value) (tokens : List (List Char)) (rest : List Char),
      isSpaced ([[',']].intercalate (itemTokens (phrases items)) ++ tokens)
        (compactItems items rest) = isSpaced tokens rest
  | [], tokens, rest => by
    rw [itemTokens_nil, List.nil_append, compactItems]
  | [item], tokens, rest => by
    rw [itemTokens_singleton, compactItems, isSpaced_compactChars item]
  | item :: next :: items, tokens, rest => by
    rw [itemTokens_cons_cons, compactItems_cons_cons, isSpaced_compactChars item,
      isSpaced_mark (by decide), isSpaced_compactItems (next :: items)]

theorem isSpaced_compactMembers :
    ∀ (members : List (String × Value)) (tokens : List (List Char)) (rest : List Char),
      isSpaced ([[',']].intercalate (memberTokens (memberPhrases members)) ++ tokens)
        (compactMembers members rest) = isSpaced tokens rest
  | [], tokens, rest => by
    rw [memberTokens_nil, List.nil_append, compactMembers]
  | [(name, value)], tokens, rest => by
    rw [memberTokens_singleton, compactMembers, List.cons_append, List.cons_append,
      isSpaced_textChars, isSpaced_mark (by decide), isSpaced_compactChars value]
  | (name, value) :: next :: members, tokens, rest => by
    rw [memberTokens_cons_cons, compactMembers_cons_cons, isSpaced_textChars,
      isSpaced_mark (by decide), isSpaced_compactChars value, isSpaced_mark (by decide),
      isSpaced_compactMembers (next :: members)]

end

private theorem prettyItems_cons_cons (level : Nat) (item next : Value) (items : List Value)
    (rest : List Char) :
    prettyItems level (item :: next :: items) rest =
      newLine level (prettyChars level item (',' :: prettyItems level (next :: items) rest)) := by
  rw [prettyItems]
  exact List.cons_ne_nil next items

private theorem prettyMembers_cons_cons (level : Nat) (name : String) (value : Value)
    (next : String × Value) (members : List (String × Value)) (rest : List Char) :
    prettyMembers level ((name, value) :: next :: members) rest =
      newLine level (textChars name (':' :: ' ' ::
        prettyChars level value (',' :: prettyMembers level (next :: members) rest))) := by
  rw [prettyMembers]
  exact List.cons_ne_nil next members

private theorem isSpaced_blank (tokens : List (List Char)) (rest : List Char) :
    isSpaced tokens (' ' :: rest) = isSpaced tokens rest :=
  have hblanks : [' '].all isSpace = true := by decide
  isSpaced_blanks hblanks tokens rest

mutual

/-- The indented form of a value has the tokens of the value. -/
theorem isSpaced_prettyChars :
    ∀ (v : Value) (level : Nat) (tokens : List (List Char)) (rest : List Char),
      isSpaced (v.phrase.tokens ++ tokens) (prettyChars level v rest) = isSpaced tokens rest
  | .null, _, tokens, rest => by
    rw [Value.phrase, Phrase.tokens, prettyChars]
    exact isSpaced_token (by decide) _ tokens rest
  | .boolean true, _, tokens, rest => by
    rw [Value.phrase, Phrase.tokens, prettyChars]
    exact isSpaced_token (by decide) _ tokens rest
  | .boolean false, _, tokens, rest => by
    rw [Value.phrase, Phrase.tokens, prettyChars]
    exact isSpaced_token (by decide) _ tokens rest
  | .integer n, _, tokens, rest => by
    rw [Value.phrase, Phrase.tokens, prettyChars]
    exact isSpaced_ofInt n tokens rest
  | .text s, _, tokens, rest => by
    rw [Value.phrase, Phrase.tokens, prettyChars]
    exact isSpaced_textChars s tokens rest
  -- nothing stands between the brackets of an empty container
  | .list [], _, tokens, rest => by
    rw [Value.phrase, Phrase.tokens, prettyChars, itemTokens_nil, List.nil_append,
      List.cons_append, isSpaced_mark (by decide), List.singleton_append, isSpaced_mark (by decide)]
  | .list (item :: items), level, tokens, rest => by
    rw [Value.phrase, Phrase.tokens, prettyChars, List.cons_append, List.append_assoc,
      isSpaced_mark (by decide), isSpaced_prettyItems (item :: items), isSpaced_newLine,
      List.singleton_append, isSpaced_mark (by decide)]
  | .object [], _, tokens, rest => by
    rw [Value.phrase, Phrase.tokens, prettyChars, memberTokens_nil, List.nil_append,
      List.cons_append, isSpaced_mark (by decide), List.singleton_append, isSpaced_mark (by decide)]
  | .object (member :: members), level, tokens, rest => by
    rw [Value.phrase, Phrase.tokens, prettyChars, List.cons_append, List.append_assoc,
      isSpaced_mark (by decide), isSpaced_prettyMembers (member :: members), isSpaced_newLine,
      List.singleton_append, isSpaced_mark (by decide)]

theorem isSpaced_prettyItems :
    ∀ (items : List Value) (level : Nat) (tokens : List (List Char)) (rest : List Char),
      isSpaced ([[',']].intercalate (itemTokens (phrases items)) ++ tokens)
        (prettyItems level items rest) = isSpaced tokens rest
  | [], _, tokens, rest => by
    rw [itemTokens_nil, List.nil_append, prettyItems]
  | [item], level, tokens, rest => by
    rw [itemTokens_singleton, prettyItems, isSpaced_newLine, isSpaced_prettyChars item]
  | item :: next :: items, level, tokens, rest => by
    rw [itemTokens_cons_cons, prettyItems_cons_cons, isSpaced_newLine, isSpaced_prettyChars item,
      isSpaced_mark (by decide), isSpaced_prettyItems (next :: items)]

theorem isSpaced_prettyMembers :
    ∀ (members : List (String × Value)) (level : Nat) (tokens : List (List Char))
      (rest : List Char),
      isSpaced ([[',']].intercalate (memberTokens (memberPhrases members)) ++ tokens)
        (prettyMembers level members rest) = isSpaced tokens rest
  | [], _, tokens, rest => by
    rw [memberTokens_nil, List.nil_append, prettyMembers]
  | [(name, value)], level, tokens, rest => by
    rw [memberTokens_singleton, prettyMembers, isSpaced_newLine, List.cons_append,
      List.cons_append, isSpaced_textChars, isSpaced_mark (by decide), isSpaced_blank,
      isSpaced_prettyChars value]
  | (name, value) :: next :: members, level, tokens, rest => by
    rw [memberTokens_cons_cons, prettyMembers_cons_cons, isSpaced_newLine, isSpaced_textChars,
      isSpaced_mark (by decide), isSpaced_blank, isSpaced_prettyChars value,
      isSpaced_mark (by decide), isSpaced_prettyMembers (next :: members)]

end

/-! ## §6 Whole texts -/

/-- Blanks at the end of a text change nothing about its tokens. -/
theorem isSpaced_append_blanks {text blanks : List Char} (hblanks : blanks.all isSpace = true)
    (h : isSpaced tokens text = true) : isSpaced tokens (text ++ blanks) = true := by
  -- what stands behind the last token is blank with or without the blanks added
  induction tokens generalizing text with
  | nil =>
    rw [isSpaced] at h
    rw [isSpaced, List.all_append, h, hblanks]
    rfl
  | cons token tokens ih =>
    rw [isSpaced, Bool.and_eq_true, List.isPrefixOf_iff_prefix] at h
    obtain ⟨⟨rest, hrest⟩, hspaced⟩ := h
    rw [← hrest, List.drop_left] at hspaced
    rw [isSpaced, List.dropWhile_append]
    split
    · -- there are nothing but blanks, before as after
      next hempty =>
      have hnil : token ++ rest = [] := hrest.trans (List.isEmpty_iff.mp hempty)
      obtain ⟨rfl, rfl⟩ := List.append_eq_nil_iff.mp hnil
      rw [List.dropWhile_eq_nil_iff.mpr (List.all_eq_true.mp hblanks)]
      exact hspaced
    · -- the token still stands in front, and the blanks join what follows it
      rw [← hrest, List.append_assoc, List.drop_left, ih hspaced, Bool.and_true]
      exact List.isPrefixOf_iff_prefix.mpr (List.prefix_append _ _)

theorem isSpaced_compact (v : Value) : isSpaced v.phrase.tokens v.compact.toList = true := by
  have hspaced := isSpaced_compactChars v [] []
  rw [List.append_nil] at hspaced
  rw [Value.compact, String.toList_ofList, hspaced]
  rfl

theorem isSpaced_pretty (v : Value) : isSpaced v.phrase.tokens v.pretty.toList = true := by
  have hspaced := isSpaced_prettyChars v 0 [] []
  rw [List.append_nil] at hspaced
  rw [Value.pretty, String.toList_ofList, hspaced]
  rfl

end IncidentTracker.Json

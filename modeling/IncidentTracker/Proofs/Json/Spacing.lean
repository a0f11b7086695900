import IncidentTracker.Proofs.Json.Grammar
import IncidentTracker.Proofs.Json.Layout

/-!
# Layout of Every Text of the Grammar

A phrase is a value of the grammar as it is written, but for the blanks: it has the escapes of its
texts, the figures of its numerals, and the members of its objects in their order, some of them
perhaps under one key. A text is a phrase with blanks between the tokens. Every such text is laid
out, and there is no fault in the layout except where a scalar cannot be read.

Main statement: `layout_of_isSpaced`.
-/

namespace IncidentTracker.Json

/-! ## §1 Phrases -/

/-- A value of the grammar as it is written, but for the blanks. -/
inductive Phrase where
  | null
  | boolean (value : Bool)
  | numeral (figures : Figures)
  | text (pieces : List Piece)
  | list (items : List Phrase)
  | object (members : List (List Piece × Phrase))

/-- A text between its quotes. -/
def quotedChars (pieces : List Piece) : List Char :=
  '"' :: (pieces.flatMap Piece.chars ++ ['"'])

mutual

/-- The tokens of a phrase. -/
def Phrase.tokens : Phrase → List (List Char)
  | .null => ["null".toList]
  | .boolean true => ["true".toList]
  | .boolean false => ["false".toList]
  | .numeral figures => [figures.chars]
  | .text pieces => [quotedChars pieces]
  | .list items => ['['] :: ([[',']].intercalate (itemTokens items) ++ [[']']])
  | .object members => ['\x7b'] :: ([[',']].intercalate (memberTokens members) ++ [['\x7d']])

def itemTokens : List Phrase → List (List (List Char))
  | [] => []
  | item :: items => item.tokens :: itemTokens items

def memberTokens : List (List Piece × Phrase) → List (List (List Char))
  | [] => []
  | (key, value) :: members => (quotedChars key :: [':'] :: value.tokens) :: memberTokens members

end

/-- Whether a text is made of the given tokens, with any blanks around them. -/
def isSpaced : List (List Char) → List Char → Bool
  | [], text => text.all isSpace
  | token :: tokens, text =>
    let text := text.dropWhile isSpace
    token.isPrefixOf text && isSpaced tokens (text.drop token.length)

/-- The document of a text as it is written. -/
def Document.ofPieces (pieces : List Piece) : Document :=
  .scalar .text (textContent pieces) none

mutual

/-- The document of a phrase. -/
def Phrase.document : Phrase → Document
  | .null => .scalar .null (.ok .null) none
  | .boolean value => .scalar .boolean (.ok (.boolean value)) none
  | .numeral figures => .scalar .number (figures.numeral.number.map .number) none
  | .text pieces => .ofPieces pieces
  | .list items => .list (phraseDocuments items) none
  | .object members => .object (phraseMembers members) none

def phraseDocuments : List Phrase → List Document
  | [] => []
  | item :: items => item.document :: phraseDocuments items

def phraseMembers : List (List Piece × Phrase) → List (Document × Document)
  | [] => []
  | (key, value) :: members => (.ofPieces key, value.document) :: phraseMembers members

end

/-- A phrase can always be passed over. -/
theorem Phrase.skipped_document (φ : Phrase) : φ.document.skipped = none := by
  cases φ <;> simp only [document, Document.ofPieces, Document.skipped]

/-! ## §2 Spaced texts -/

variable {due due' : Due} {stack : List Frame} {text rest : List Char} {tokens : List (List Char)}

/-- A text that begins with a token begins with some blanks before it. -/
theorem exists_of_isSpaced_cons {token : List Char} (h : isSpaced (token :: tokens) text = true) :
    ∃ blanks rest, blanks.all isSpace = true ∧ text = blanks ++ (token ++ rest) ∧
      isSpaced tokens rest = true := by
  rw [isSpaced, Bool.and_eq_true, List.isPrefixOf_iff_prefix] at h
  obtain ⟨⟨rest, hrest⟩, hspaced⟩ := h
  -- the blanks are what stands in front of the token
  refine ⟨text.takeWhile isSpace, rest, ?_, ?_, ?_⟩
  · rw [List.all_eq_true]
    exact fun c hc => List.mem_takeWhile_imp hc
  · rw [hrest, List.takeWhile_append_dropWhile]
  · rw [← hrest, List.drop_left] at hspaced
    exact hspaced

/-- Whether tokens may follow a value: there are none, or the first is a comma or closes a
    container. -/
def FollowValue : List (List Char) → Prop
  | [] => True
  | token :: _ => token = [','] ∨ token = [']'] ∨ token = ['\x7d']

theorem followValue_comma (tokens : List (List Char)) : FollowValue ([','] :: tokens) :=
  .inl rfl

theorem followValue_closeList (tokens : List (List Char)) : FollowValue ([']'] :: tokens) :=
  .inr (.inl rfl)

theorem followValue_closeObject (tokens : List (List Char)) : FollowValue (['\x7d'] :: tokens) :=
  .inr (.inr rfl)

/-- Blanks end a numeral, and so does whatever may follow a value. -/
theorem FollowValue.endsNumeral (hfollow : FollowValue tokens) (h : isSpaced tokens text = true) :
    EndsNumeral text := by
  -- a blank continues no numeral
  have hblank (c : Char) (hc : isSpace c = true) :
      c.isDigit = false ∧ c ≠ '.' ∧ c ≠ 'e' ∧ c ≠ 'E' := by
    simp only [isSpace, Bool.or_eq_true, decide_eq_true_eq] at hc
    rcases hc with ((rfl | rfl) | rfl) | rfl <;> decide
  have hspaces (blanks rest : List Char) (hblanks : blanks.all isSpace = true)
      (hrest : EndsNumeral rest) : EndsNumeral (blanks ++ rest) := by
    cases blanks with
    | nil => exact hrest
    | cons c blanks =>
      simp only [List.all_cons, Bool.and_eq_true] at hblanks
      exact endsNumeral_cons (hblank c hblanks.1) _
  -- the text ends after blanks, or a comma or a closing bracket comes next
  cases tokens with
  | nil =>
    have hends := hspaces text [] h endsNumeral_nil
    rw [List.append_nil] at hends
    exact hends
  | cons token tokens =>
    obtain ⟨blanks, rest, hblanks, rfl, -⟩ := exists_of_isSpaced_cons h
    apply hspaces _ _ hblanks
    rcases hfollow with rfl | rfl | rfl <;> exact endsNumeral_cons (by decide) rest

/-! ## §3 Where tokens lead -/

/-- A spaced text leads to a step before which the given tokens are left. -/
def LeadsSpaced (due : Due) (stack : List Frame) (text : List Char) (tokens : List (List Char))
    (next : List Char → Step) : Prop :=
  ∃ rest, isSpaced tokens rest = true ∧ Leads due stack text (next rest)

/-- A token leads from a spaced text to what it leads to. -/
theorem leadsSpaced_token {token : List Char} {next : List Char → Step}
    (h : isSpaced (token :: tokens) text = true)
    (hleads : ∀ rest, isSpaced tokens rest = true → Leads due stack (token ++ rest) (next rest)) :
    LeadsSpaced due stack text tokens next := by
  obtain ⟨blanks, rest, hblanks, rfl, hrest⟩ := exists_of_isSpaced_cons h
  exact ⟨rest, hrest, (hleads rest hrest).of_blanks hblanks⟩

theorem LeadsSpaced.trans {tokens' : List (List Char)} {stack' : List Frame}
    {next : List Char → Step} (h : LeadsSpaced due stack text tokens (.more due' stack'))
    (h' : ∀ rest, isSpaced tokens rest = true → LeadsSpaced due' stack' rest tokens' next) :
    LeadsSpaced due stack text tokens' next := by
  obtain ⟨middle, hmiddle, hleads⟩ := h
  obtain ⟨rest, hrest, hleads'⟩ := h' middle hmiddle
  exact ⟨rest, hrest, hleads.trans hleads'⟩

/-- A text in the place of a value. -/
theorem leads_pieces (hdue : due.IsItem) (pieces : List Piece) (stack : List Frame)
    (rest : List Char) :
    Leads due stack (quotedChars pieces ++ rest) (complete (.ofPieces pieces) stack rest) := by
  have htext : quotedChars pieces ++ rest =
      '"' :: (pieces.flatMap Piece.chars ++ '"' :: rest) := by
    simp [quotedChars]
  -- the quotation mark in front tells that a text begins
  rw [htext]
  apply leads_scalar hdue (by decide) (by decide)
  · rw [scanScalar, if_pos rfl, scanText_pieces]
    rfl
  · rfl
  · simp only [List.length_append, List.length_cons]
    omega

theorem leads_colon (stack : List Frame) (rest : List Char) :
    Leads .colon stack (':' :: rest) (.more .item stack rest) :=
  leads_step (by decide) rfl (Nat.le_refl _)

/-- A key in its place, up to where a colon is due. -/
theorem leads_keyPieces (hdue : due = .key ∨ due = .firstKey) (pieces : List Piece)
    (done : List (Document × Document)) (stack : List Frame) (rest : List Char) :
    Leads due (.object done :: stack) (quotedChars pieces ++ rest)
      (.more .colon (.member done (.ofPieces pieces) :: stack) rest) := by
  have htext : quotedChars pieces ++ rest =
      '"' :: (pieces.flatMap Piece.chars ++ '"' :: rest) := by
    simp [quotedChars]
  -- a quote is no brace, so the object goes on
  have hend : ('"' = '\x7d' && due == .firstKey) = false := by simp
  rw [htext]
  apply leads_step (by decide)
  · rw [step_of_isKey hdue]
    unfold stepKey
    simp only [hend, Bool.false_eq_true, if_false, if_true, scanText_pieces, Document.skipped]
    rfl
  · simp only [Step.left, List.length_append, List.length_cons]
    omega

/-- A numeral in the place of a value, where the text after it ends it. -/
theorem leads_figures (hdue : due.IsItem) (figures : Figures) (hends : EndsNumeral rest) :
    Leads due stack (figures.chars ++ rest)
      (complete (.scalar .number (figures.numeral.number.map .number) none) stack rest) := by
  obtain ⟨c, digits, heq, hc⟩ := exists_cons_chars figures
  have hscan := scanNumber_figures figures hends
  rw [heq, List.cons_append] at hscan ⊢
  exact leads_numeral hdue hc hscan rfl

/-! ## §4 Phrases -/

mutual

/-- A phrase in the place of a value leads past its document. -/
theorem leadsSpaced_phrase :
    ∀ (φ : Phrase) (due : Due) (stack : List Frame) (tokens : List (List Char)) (text : List Char),
      due.IsItem → FollowValue tokens → isSpaced (φ.tokens ++ tokens) text = true →
      LeadsSpaced due stack text tokens (complete φ.document stack)
  | .null, _, _, _, _, hdue, _, h => by
    rw [Phrase.tokens] at h
    rw [Phrase.document]
    exact leadsSpaced_token h fun _ _ => leads_word hdue "ull".toList (by decide) (by decide) rfl
  | .boolean true, _, _, _, _, hdue, _, h => by
    rw [Phrase.tokens] at h
    rw [Phrase.document]
    exact leadsSpaced_token h fun _ _ => leads_word hdue "rue".toList (by decide) (by decide) rfl
  | .boolean false, _, _, _, _, hdue, _, h => by
    rw [Phrase.tokens] at h
    rw [Phrase.document]
    exact leadsSpaced_token h fun _ _ => leads_word hdue "alse".toList (by decide) (by decide) rfl
  | .numeral figures, _, _, _, _, hdue, hfollow, h => by
    rw [Phrase.tokens] at h
    rw [Phrase.document]
    exact leadsSpaced_token h fun _ hrest => leads_figures hdue figures (hfollow.endsNumeral hrest)
  | .text pieces, _, stack, _, _, hdue, _, h => by
    rw [Phrase.tokens] at h
    rw [Phrase.document]
    exact leadsSpaced_token h fun rest _ => leads_pieces hdue pieces stack rest
  -- an empty container is closed where its first item is due, any other behind its last
  | .list [], _, stack, _, _, hdue, _, h => by
    rw [Phrase.tokens, itemTokens] at h
    rw [Phrase.document, phraseDocuments]
    apply (leadsSpaced_token h fun rest _ => leads_openList hdue stack rest).trans
    intro rest hrest
    exact leadsSpaced_token hrest fun rest _ => leads_closeList (.inr rfl) [] stack rest
  | .list (item :: items), _, stack, tokens, _, hdue, _, h => by
    rw [Phrase.tokens, List.cons_append, List.append_assoc] at h
    rw [Phrase.document]
    apply (leadsSpaced_token h fun rest _ => leads_openList hdue stack rest).trans
    intro rest hrest
    apply (leadsSpaced_items (item :: items) _ [] stack tokens rest (.inr rfl) (by simp) hrest).trans
    intro rest hrest
    rw [List.append_nil]
    apply leadsSpaced_token hrest
    intro rest _
    have hclose := leads_closeList (.inl rfl) (phraseDocuments (item :: items)).reverse stack rest
    rw [List.reverse_reverse] at hclose
    exact hclose
  | .object [], _, stack, _, _, hdue, _, h => by
    rw [Phrase.tokens, memberTokens] at h
    rw [Phrase.document, phraseMembers]
    apply (leadsSpaced_token h fun rest _ => leads_openObject hdue stack rest).trans
    intro rest hrest
    exact leadsSpaced_token hrest fun rest _ => leads_closeObject (.inr rfl) [] stack rest
  | .object (member :: members), _, stack, tokens, _, hdue, _, h => by
    rw [Phrase.tokens, List.cons_append, List.append_assoc] at h
    rw [Phrase.document]
    apply (leadsSpaced_token h fun rest _ => leads_openObject hdue stack rest).trans
    intro rest hrest
    apply (leadsSpaced_members (member :: members) _ [] stack tokens rest (.inr rfl) (by simp)
      hrest).trans
    intro rest hrest
    rw [List.append_nil]
    apply leadsSpaced_token hrest
    intro rest _
    have hclose :=
      leads_closeObject (.inl rfl) (phraseMembers (member :: members)).reverse stack rest
    rw [List.reverse_reverse] at hclose
    exact hclose

/-- Items lead up to the end of their list. -/
theorem leadsSpaced_items :
    ∀ (items : List Phrase) (due : Due) (done : List Document) (stack : List Frame)
      (tokens : List (List Char)) (text : List Char), due.IsItem → items ≠ [] →
      isSpaced ([[',']].intercalate (itemTokens items) ++ [']'] :: tokens) text = true →
      LeadsSpaced due (.list done :: stack) text ([']'] :: tokens)
        (.more .separator (.list ((phraseDocuments items).reverse ++ done) :: stack))
  | [], _, _, _, _, _, _, hne, _ => absurd rfl hne
  | [item], due, done, stack, tokens, text, hdue, _, h => by
    rw [itemTokens, itemTokens, List.intercalate_singleton] at h
    exact leadsSpaced_phrase item due (.list done :: stack) _ text hdue
      (followValue_closeList tokens) h
  -- the item, the comma, then the others with one item more done
  | item :: next :: items, due, done, stack, tokens, text, hdue, _, h => by
    rw [itemTokens, itemTokens, List.intercalate_cons_cons, List.append_assoc, List.append_assoc,
      List.singleton_append] at h
    apply (leadsSpaced_phrase item due (.list done :: stack) _ text hdue
      (followValue_comma _) h).trans
    intro rest hrest
    apply (leadsSpaced_token hrest fun rest _ => leads_comma _ stack rest).trans
    intro rest hrest
    have hitems := leadsSpaced_items (next :: items) .item (item.document :: done) stack tokens rest
      (.inl rfl) (by simp) hrest
    rw [phraseDocuments, List.reverse_cons, List.append_assoc]
    exact hitems

/-- Members lead up to the end of their object. -/
theorem leadsSpaced_members :
    ∀ (members : List (List Piece × Phrase)) (due : Due) (done : List (Document × Document))
      (stack : List Frame) (tokens : List (List Char)) (text : List Char),
      due = .key ∨ due = .firstKey → members ≠ [] →
      isSpaced ([[',']].intercalate (memberTokens members) ++ ['\x7d'] :: tokens) text = true →
      LeadsSpaced due (.object done :: stack) text (['\x7d'] :: tokens)
        (.more .separator (.object ((phraseMembers members).reverse ++ done) :: stack))
  | [], _, _, _, _, _, _, hne, _ => absurd rfl hne
  -- the last member has no comma behind it
  | [(key, value)], due, done, stack, tokens, text, hdue, _, h => by
    rw [memberTokens, memberTokens, List.intercalate_singleton] at h
    apply (leadsSpaced_token h fun rest _ => leads_keyPieces hdue key done stack rest).trans
    intro rest hrest
    apply (leadsSpaced_token hrest fun rest _ => leads_colon _ rest).trans
    intro rest hrest
    exact leadsSpaced_phrase value .item (.member done (.ofPieces key) :: stack) _ rest (.inl rfl)
      (followValue_closeObject tokens) hrest
  -- key, colon, value and comma, then the others with one member more done
  | (key, value) :: next :: members, due, done, stack, tokens, text, hdue, _, h => by
    rw [memberTokens, memberTokens, List.intercalate_cons_cons, List.append_assoc,
      List.append_assoc, List.singleton_append] at h
    apply (leadsSpaced_token h fun rest _ => leads_keyPieces hdue key done stack rest).trans
    intro rest hrest
    apply (leadsSpaced_token hrest fun rest _ => leads_colon _ rest).trans
    intro rest hrest
    apply (leadsSpaced_phrase value .item (.member done (.ofPieces key) :: stack) _ rest (.inl rfl)
      (followValue_comma _) hrest).trans
    intro rest hrest
    apply (leadsSpaced_token hrest fun rest _ => leads_commaMember _ stack rest).trans
    intro rest hrest
    have hmembers := leadsSpaced_members (next :: members) .key
      ((.ofPieces key, value.document) :: done) stack tokens rest (.inl rfl) (by simp) hrest
    rw [phraseMembers, List.reverse_cons, List.append_assoc]
    exact hmembers

end

/-- A phrase with any blanks around its tokens is laid out as its document, and nothing but blanks
    is left. -/
theorem layout_of_isSpaced {φ : Phrase} (h : isSpaced φ.tokens text = true) :
    ∃ rest, layout text = (φ.document, some rest) ∧ rest.all isSpace = true := by
  have hspaced : isSpaced (φ.tokens ++ []) text = true := by rwa [List.append_nil]
  obtain ⟨rest, hrest, hleads⟩ := leadsSpaced_phrase φ .item [] [] text (.inl rfl) trivial hspaced
  exact ⟨rest, layout_of_leads hleads, hrest⟩

end IncidentTracker.Json

import IncidentTracker.Json.Decode
import IncidentTracker.Proofs.Json.Written

/-!
# Reading Written Documents

The document of a written value has no fault, so that a decoder only has to look at the shape of
the value and at what may still be opened.

Main statement: `read_of_isSpaced`, which passes from texts to documents.
-/

namespace IncidentTracker.Json

variable {ν α σ : Type}

/-! ## §1 Pieces -/

@[simp] theorem throw_bind {β : Type} (problem : Problem) (f : α → Decode ν β) :
    (throw problem >>= f : Decode ν β) = throw problem :=
  rfl

@[simp] theorem map_throw {β : Type} (problem : Problem) (f : α → β) :
    (f <$> throw problem : Decode ν β) = throw problem :=
  rfl

@[simp] theorem key_ofText (s : String) : (key (.ofText s) : Decode ν String) = pure s :=
  rfl

@[simp] theorem text_ofText (s : String) (depth : Nat) :
    (text depth (.ofText s) : Decode ν String) = pure s :=
  rfl

/-- An integer of a signed word is read back. -/
theorem integer_document {n : Int} (hword : Text.Decimal.isWord n = true) (depth : Nat) :
    (integer depth (Value.integer n).document : Decode ν Int) = pure n := by
  rw [Value.document, integer, if_pos hword]

/-- A list is not null. -/
@[simp] theorem optional_list (item : Decoder ν α) (depth : Nat) (items : List Value) :
    optional item depth (Value.list items).document =
      some <$> item depth (Value.list items).document := by
  rw [Value.document]
  rfl

@[simp] theorem listOf_zero (item : Decoder ν α) (items : List Value) :
    listOf item 0 (Value.list items).document = throw (.fault .grammar) := by
  rw [Value.document]
  rfl

theorem listOf_succ (item : Decoder ν α) (depth : Nat) (items : List Value) :
    listOf item (depth + 1) (Value.list items).document = (documents items).mapM (item depth) := by
  rw [Value.document, listOf]
  simp only [stopAt, pure_bind, bind_pure]

/-- Where every item is read back, the list is. -/
theorem mapM_documents_eq_pure {item : Document → Decode ν α} {write : α → Value}
    {values : List α} (h : ∀ a ∈ values, item (write a).document = pure a) :
    (documents (values.map write)).mapM item = pure values := by
  induction values with
  | nil => rfl
  | cons a values ih =>
    rw [List.map_cons, documents, List.mapM_cons, h a List.mem_cons_self, pure_bind,
      ih fun other hmem => h other (List.mem_cons_of_mem a hmem), pure_bind]

theorem Record.read_object (r : Record ν σ) (depth : Nat) (members : List (String × Value)) :
    r.read (depth + 1) (Value.object members).document =
      (memberDocuments members).foldlM (r.readMember depth) r.empty >>= r.finish := by
  rw [Value.document, read]
  simp only [stopAt, pure_bind]

/-! ## §2 Whole texts -/

/-- Blanks may follow a document. -/
theorem atEnd_blanks (d : Document) {rest : List Char} (hblank : rest.all isSpace = true) :
    (atEnd d (some rest) : Decode ν Unit) = pure () := by
  have hend : (rest.dropWhile isSpace).isEmpty = true := by
    rw [List.dropWhile_eq_nil_iff.mpr (List.all_eq_true.mp hblank)]
    rfl
  rw [atEnd, if_pos hend]

/-- Reading a text that has the tokens of a value is reading the document of the value. -/
theorem read_of_isSpaced {v : Value} {text : List Char} (hfits : v.fits = true)
    (hspaced : isSpaced v.phrase.tokens text = true) (item : Decoder ν α)
    {outcome : Except Problem α}
    (h : item nestingLimit v.document = match outcome with
      | .ok a => pure a
      | .error problem => throw problem) :
    read item text = ⟨[], outcome⟩ := by
  -- behind the value there are only blanks, so the text ends well
  obtain ⟨rest, hlayout, hblank⟩ := layout_of_isSpaced hspaced
  rw [document_phrase v hfits] at hlayout
  rw [read, hlayout]
  simp only [h, atEnd_blanks v.document hblank]
  cases outcome <;> rfl

theorem read_compact {v : Value} (hfits : v.fits = true) (item : Decoder ν α)
    {outcome : Except Problem α}
    (h : item nestingLimit v.document = match outcome with
      | .ok a => pure a
      | .error problem => throw problem) :
    read item v.compact.toList = ⟨[], outcome⟩ :=
  read_of_isSpaced hfits (isSpaced_compact v) item h

end IncidentTracker.Json

/-!
# Occurrence

Whether a text occurs in another as a contiguous piece.
-/

namespace IncidentTracker.Text

/-- Whether `needle` occurs in a text as a contiguous piece. -/
def occursIn (needle : List Char) : List Char → Bool
  | [] => needle.isEmpty
  | c :: rest => needle.isPrefixOf (c :: rest) || occursIn needle rest

/-- `occursIn` decides whether a text splits around the needle. -/
theorem occursIn_iff {needle text : List Char} :
    occursIn needle text = true ↔ ∃ before after, text = before ++ needle ++ after := by
  induction text with
  | nil =>
    constructor
    · intro h
      have : needle = [] := by simpa [occursIn] using h
      exact ⟨[], [], by simp [this]⟩
    · rintro ⟨before, after, h⟩
      have := List.append_eq_nil_iff.1 h.symm
      have := List.append_eq_nil_iff.1 this.1
      simp [occursIn, this.2]
  | cons c rest ih =>
    -- the needle stands at the front or somewhere in the rest
    simp only [occursIn, Bool.or_eq_true, ih, List.isPrefixOf_iff_prefix]
    constructor
    · rintro (⟨after, h⟩ | ⟨before, after, h⟩)
      · exact ⟨[], after, by simp [h]⟩
      · exact ⟨c :: before, after, by simp [h]⟩
    · rintro ⟨before, after, h⟩
      cases before with
      | nil => exact .inl ⟨after, by simpa using h.symm⟩
      | cons b before =>
        rw [List.cons_append, List.cons_append, List.cons.injEq] at h
        exact .inr ⟨before, after, h.2⟩

end IncidentTracker.Text

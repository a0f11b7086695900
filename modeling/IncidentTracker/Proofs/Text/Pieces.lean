import IncidentTracker.Text.Pieces

/-!
# Cutting What Was Joined

There is no separator in a piece, and pieces without separators that were joined with one are cut
apart again.
-/

namespace IncidentTracker.Text

variable {separator : Char}

theorem cut_of_notMem {piece : List Char} (h : separator ∉ piece) :
    cut separator piece = [piece] := by
  induction piece with
  | nil => rfl
  | cons c piece ih =>
    obtain ⟨hc, hpiece⟩ := not_or.mp (mt List.mem_cons.mpr h)
    rw [cut, if_neg (Ne.symm hc), ih hpiece]

theorem cut_append {piece : List Char} (h : separator ∉ piece) (rest : List Char) :
    cut separator (piece ++ separator :: rest) = piece :: cut separator rest := by
  induction piece with
  | nil => rw [List.nil_append, cut, if_pos rfl]
  | cons c piece ih =>
    obtain ⟨hc, hpiece⟩ := not_or.mp (mt List.mem_cons.mpr h)
    rw [List.cons_append, cut, if_neg (Ne.symm hc), ih hpiece]

/-- Pieces that were joined with the separator are cut apart again. -/
theorem cut_intercalate {pieces : List (List Char)} (hne : pieces ≠ [])
    (h : ∀ piece ∈ pieces, separator ∉ piece) :
    cut separator ([separator].intercalate pieces) = pieces := by
  induction pieces with
  | nil => exact absurd rfl hne
  | cons piece pieces ih =>
    have hpiece := h piece List.mem_cons_self
    -- the last piece has no separator behind it
    cases pieces with
    | nil => simpa [List.intercalate] using cut_of_notMem hpiece
    | cons next pieces =>
      rw [List.intercalate_cons_cons, List.append_assoc, List.singleton_append,
        cut_append hpiece,
        ih (List.cons_ne_nil next pieces) fun other hmem =>
          h other (List.mem_cons_of_mem piece hmem)]

theorem notMem_of_mem_cut {text piece : List Char} (h : piece ∈ cut separator text) :
    separator ∉ piece := by
  -- a separator ends a piece, and any other character is added to one
  induction text generalizing piece with
  | nil =>
    rw [List.mem_singleton.mp h]
    exact List.not_mem_nil
  | cons c rest ih =>
    rw [cut] at h
    split at h
    · rcases List.mem_cons.mp h with rfl | h
      · exact List.not_mem_nil
      · exact ih h
    · next hc =>
      split at h
      · rw [List.mem_singleton.mp h]
        exact fun hmem => hc (List.mem_singleton.mp hmem).symm
      · next first pieces hcut =>
        rcases List.mem_cons.mp h with rfl | h
        · have hfirst : separator ∉ first := ih (hcut ▸ List.mem_cons_self)
          exact mt List.mem_cons.mp (not_or.mpr ⟨Ne.symm hc, hfirst⟩)
        · exact ih (hcut ▸ List.mem_cons_of_mem first h)

end IncidentTracker.Text

import IncidentTracker.Entity.Property
import IncidentTracker.Proofs.Filtering.Leaves
import IncidentTracker.Proofs.Text.Folding

/-!
# Finding What Stands Verbatim

Search lowers the text and the needle each by itself, and a capital sigma is lowered by what stands
around it. So a needle may stand in a text as it is and not be found: in `ΟΔΟΣ` the last letter is
lowered to the sigma that ends a word, alone it is not. Nothing else comes between: a needle is found
where it stands if each capital sigma in it is lowered there as it is in the needle, and it is found
wherever it stands exactly if the needle itself settles how each of them is lowered.

Main statement: `accepts_verbatim`.
-/

namespace IncidentTracker.Text

/-! ## §1 Capital sigmas -/

/-- Whether a capital sigma is lowered as one that ends a word, between the text before it, nearest
    character first, and the text after it. -/
def endsWord (before after : List Char) : Bool :=
  reachesCased before && !reachesCased after

/-- Whether a test holds at every capital sigma of a text, of what stands before it, nearest character
    first, and of what stands after it. -/
def everySigma (test : List Char → List Char → Bool) (before : List Char) : List Char → Bool
  | [] => true
  | c :: rest => (c != 'Σ' || test before rest) && everySigma test (c :: before) rest

/-- Whether the first character that is not looked past is cased, if there is one. -/
def reach? (cs : List Char) : Option Bool :=
  (cs.find? fun c => !isCaseIgnorable c).map isCased

/-- Whether the text around a capital sigma settles how it is lowered, whatever stands around that
    text: before it there is a character without case, or after it one that has a case, or there is
    some character on either side. Those that are looked past do not count. -/
def isSettled (before after : List Char) : Bool :=
  match reach? before, reach? after with
  | some false, _ => true
  | _, some true => true
  | left, right => left.isSome && right.isSome

theorem everySigma_iff {test : List Char → List Char → Bool} {before cs : List Char} :
    everySigma test before cs = true ↔
      ∀ front back, cs = front ++ 'Σ' :: back → test (front.reverse ++ before) back = true := by
  induction cs generalizing before with
  | nil =>
    rw [everySigma]
    refine iff_of_true rfl fun front back h => ?_
    cases front <;> cases h
  | cons c cs ih =>
    rw [everySigma, Bool.and_eq_true, ih]
    constructor
    · -- the sigma that is asked about is the first character, or one behind it
      rintro ⟨hfirst, hrest⟩ front back h
      cases front with
      | nil =>
        obtain ⟨rfl, rfl⟩ := List.cons.inj h
        simpa using hfirst
      | cons d front =>
        obtain ⟨rfl, rfl⟩ := List.cons.inj h
        have hlater := hrest front back rfl
        rwa [List.reverse_cons, List.append_assoc]
    · intro h
      constructor
      · -- the first character, then those behind it with it added to `before`
        by_cases hc : c = 'Σ'
        · have hfirst := h [] cs (by rw [hc, List.nil_append])
          rw [List.reverse_nil, List.nil_append] at hfirst
          rw [hfirst, Bool.or_true]
        · simp [hc]
      · intro front back heq
        have hlater := h (c :: front) back (by rw [heq, List.cons_append])
        rwa [List.reverse_cons, List.append_assoc] at hlater

theorem reachesCased_append (cs ds : List Char) :
    reachesCased (cs ++ ds) = (reach? cs).getD (reachesCased ds) := by
  induction cs with
  | nil => rfl
  | cons c cs ih =>
    -- an ignorable character is passed over, any other one decides
    by_cases hc : isCaseIgnorable c = true
    · have hskip : reachesCased (c :: (cs ++ ds)) = reachesCased (cs ++ ds) := by
        rw [reachesCased, List.dropWhile_cons_of_pos hc, reachesCased]
      have hreach : reach? (c :: cs) = reach? cs := by
        rw [reach?, List.find?_cons_of_neg (by simp [hc]), reach?]
      rw [List.cons_append, hskip, ih, hreach]
    · have hstop : reachesCased (c :: (cs ++ ds)) = isCased c := by
        rw [reachesCased, List.dropWhile_cons_of_neg hc]
      have hreach : reach? (c :: cs) = some (isCased c) := by
        rw [reach?, List.find?_cons_of_pos (by simp [hc]), Option.map_some]
      rw [List.cons_append, hstop, hreach, Option.getD_some]

theorem reachesCased_eq (cs : List Char) : reachesCased cs = (reach? cs).getD false := by
  have happend := reachesCased_append cs []
  rwa [List.append_nil] at happend

/-- What settles a sigma does so in any surroundings. -/
theorem endsWord_of_isSettled {before after : List Char} (h : isSettled before after = true)
    (farther beyond : List Char) :
    endsWord (before ++ farther) (after ++ beyond) = endsWord before after := by
  simp only [endsWord, reachesCased_append, reachesCased_eq before, reachesCased_eq after]
  rw [isSettled] at h
  rcases hleft : reach? before with _ | _ | _ <;> rcases hright : reach? after with _ | _ | _ <;>
    simp_all

/-! ## §2 Lowering between two texts -/

/-- The lower-case form of a text between two others, of which the one before is given nearest
    character first. -/
def lowerBetween (before after : List Char) : List Char → List Char
  | [] => []
  | c :: rest =>
    (if c = 'Σ' then [if endsWord before (rest ++ after) then 'ς' else 'σ'] else lowerChar c) ++
      lowerBetween (c :: before) after rest

/-- A text is lowered part by part, each between the others. -/
theorem lowerAfter_append (before cs ds : List Char) :
    lowerAfter before (cs ++ ds) =
      lowerBetween before ds cs ++ lowerAfter (cs.reverse ++ before) ds := by
  induction cs generalizing before with
  | nil => rfl
  | cons c cs ih =>
    rw [List.cons_append, lowerAfter, lowerBetween, ih, List.reverse_cons, List.append_assoc,
      List.append_assoc]
    rfl

theorem lowerAfter_eq_lowerBetween (before cs : List Char) :
    lowerAfter before cs = lowerBetween before [] cs := by
  have happend := lowerAfter_append before cs []
  rwa [List.append_nil, lowerAfter, List.append_nil] at happend

/-- Surroundings change nothing about a text whose sigmas they leave as they are. -/
theorem lowerBetween_congr {before before' after after' cs : List Char}
    (h : ∀ front back, cs = front ++ 'Σ' :: back →
      endsWord (front.reverse ++ before) (back ++ after) =
        endsWord (front.reverse ++ before') (back ++ after')) :
    lowerBetween before after cs = lowerBetween before' after' cs := by
  induction cs generalizing before before' with
  | nil => rfl
  | cons c cs ih =>
    -- the later sigmas have the first character in front of them
    have hrest : lowerBetween (c :: before) after cs = lowerBetween (c :: before') after' cs := by
      refine ih fun front back heq => ?_
      have hlater := h (c :: front) back (by rw [heq, List.cons_append])
      simpa only [List.reverse_cons, List.append_assoc, List.singleton_append] using hlater
    rw [lowerBetween, lowerBetween, hrest]
    by_cases hc : c = 'Σ'
    · have hfirst : endsWord before (cs ++ after) = endsWord before' (cs ++ after') :=
        h [] cs (by rw [hc, List.nil_append])
      rw [if_pos hc, if_pos hc, hfirst]
    · rw [if_neg hc, if_neg hc]

/-- A text without capital sigmas is lowered in the same way everywhere. -/
theorem lowerBetween_of_notMem {cs : List Char} (h : 'Σ' ∉ cs)
    (before after before' after' : List Char) :
    lowerBetween before after cs = lowerBetween before' after' cs := by
  refine lowerBetween_congr fun front back heq => absurd ?_ h
  rw [heq]
  exact List.mem_append_right front List.mem_cons_self

/-- Surroundings never change the length of what a text is lowered to. -/
theorem length_lowerBetween (cs before after before' after' : List Char) :
    (lowerBetween before after cs).length = (lowerBetween before' after' cs).length := by
  induction cs generalizing before before' with
  | nil => rfl
  | cons c cs ih =>
    rw [lowerBetween, lowerBetween, List.length_append, List.length_append,
      ih (c :: before) (c :: before')]
    split <;> rfl

/-- The lower-case form of a text around one of its capital sigmas. -/
theorem lowerBetween_sigma (before after front back : List Char) :
    lowerBetween before after (front ++ 'Σ' :: back) =
      lowerBetween before ('Σ' :: back ++ after) front ++
        (if endsWord (front.reverse ++ before) (back ++ after) then 'ς' else 'σ') ::
          lowerBetween ('Σ' :: front.reverse ++ before) after back := by
  induction front generalizing before with
  | nil => rfl
  | cons c front ih =>
    rw [List.cons_append, lowerBetween, ih, lowerBetween]
    simp [List.append_assoc]

/-! ## §3 Where a needle is found -/

/-- A needle is found where it stands if its sigmas are lowered there as they are in the needle. -/
theorem containsIgnoreCase_of_everySigma {a b c : String}
    (h : everySigma (fun before after =>
      endsWord (before ++ a.toList.reverse) (after ++ c.toList) == endsWord before after) []
      b.toList = true) :
    containsIgnoreCase (a ++ b ++ c) b = true := by
  -- every sigma ends a word where `b` stands exactly if it does in `b` alone
  have hsame : lowerBetween a.toList.reverse c.toList b.toList = lowerBetween [] [] b.toList := by
    refine lowerBetween_congr fun front back heq => ?_
    have hsigma := everySigma_iff.mp h front back heq
    simpa using hsigma
  -- so lowering the whole lowers the part in the middle as it lowers `b`
  have hoccurs : occursIn (lowercase b).toList (lowercase (a ++ b ++ c)).toList = true := by
    rw [occursIn_iff]
    refine ⟨lowerBetween [] (b.toList ++ c.toList) a.toList,
      lowerAfter (b.toList.reverse ++ (a.toList.reverse ++ [])) c.toList, ?_⟩
    simp only [lowercase, String.toList_ofList, String.toList_append]
    rw [List.append_assoc, lowerAfter_append, lowerAfter_append, List.append_nil, hsame,
      lowerAfter_eq_lowerBetween [] b.toList, List.append_assoc]
  rw [containsIgnoreCase, hoccurs, Bool.or_true]

/-! ## §4 Where a needle is not found -/

/-- A text with one more character than the needle contains it at its beginning or at its end. -/
private theorem cases_of_occursIn {needle text : List Char} (h : occursIn needle text = true)
    (hlength : text.length = needle.length + 1) :
    (∃ c, text = needle ++ [c]) ∨ ∃ c, text = c :: needle := by
  obtain ⟨before, after, rfl⟩ := occursIn_iff.mp h
  simp only [List.length_append] at hlength
  -- one character is left over, behind or in front
  cases before with
  | nil =>
    rw [List.length_nil] at hlength
    obtain ⟨c, rfl⟩ := List.length_eq_one_iff.mp (show after.length = 1 by omega)
    exact .inl ⟨c, rfl⟩
  | cons c before =>
    rw [List.length_cons] at hlength
    obtain rfl := List.length_eq_zero_iff.mp (show before.length = 0 by omega)
    obtain rfl := List.length_eq_zero_iff.mp (show after.length = 0 by omega)
    exact .inr ⟨c, by rw [List.append_nil, List.singleton_append]⟩

/-- A character that moves from one end of a text to the other and leaves it the same is the one that
    was there. -/
private theorem eq_of_append_eq_cons {x y : Char} {cs : List Char} (h : cs ++ [x] = y :: cs) :
    x = y := by
  have hcount := congrArg (List.count x) h
  rw [List.count_append, List.count_singleton_self, List.count_cons] at hcount
  refine Decidable.byContradiction fun hne => ?_
  rw [if_neg (by simpa using Ne.symm hne)] at hcount
  omega

section

variable {front front' back back' : List Char} {x y z : Char}

/-- A needle is not in a text that has another character in the place of one of the needle's and one
    more in front: at the end of the text the two would be the same, at its beginning the needle would
    repeat the one in front up to that place. -/
private theorem not_occursIn_behind (hxy : x ≠ y) (hxz : x ≠ z)
    (hback : back'.length = back.length) :
    occursIn (front ++ x :: back) (z :: (front ++ y :: back')) = false := by
  rw [Bool.eq_false_iff]
  intro h
  -- there is room for one more character, which stands in front or behind
  rcases cases_of_occursIn h (by simp [hback]) with ⟨c, heq⟩ | ⟨c, heq⟩
  · have hsplit : (z :: front) ++ y :: back' = (front ++ [x]) ++ (back ++ [c]) := by
      simpa using heq
    have hfront := (List.append_inj hsplit (by simp)).1
    exact hxz (eq_of_append_eq_cons hfront.symm)
  · have hcancel := List.append_cancel_left (List.cons.inj heq).2
    exact hxy (List.cons.inj hcancel).1.symm

/-- The same with one more character at the end. -/
private theorem not_occursIn_before (hxy : x ≠ y) (hxz : x ≠ z)
    (hfront : front'.length = front.length) :
    occursIn (front ++ x :: back) (front' ++ y :: (back ++ [z])) = false := by
  rw [Bool.eq_false_iff]
  intro h
  -- again there is room for one more character, in front or behind
  rcases cases_of_occursIn h (by simp [hfront]; omega) with ⟨c, heq⟩ | ⟨c, heq⟩
  · have hsplit : front' ++ y :: (back ++ [z]) = front ++ x :: (back ++ [c]) := by simpa using heq
    have hrest := (List.append_inj hsplit hfront).2
    exact hxy (List.cons.inj hrest).1.symm
  · have hsplit : (front' ++ [y]) ++ (back ++ [z]) = (c :: front) ++ x :: back := by simpa using heq
    have hback := (List.append_inj hsplit (by simp [hfront])).2
    exact hxz (eq_of_append_eq_cons hback).symm

end

/-- A capital sigma is not looked past, so it is reached. -/
private theorem sigma_notMem {cs : List Char} (h : reach? cs = none) : 'Σ' ∉ cs := by
  rw [reach?, Option.map_eq_none_iff, List.find?_eq_none] at h
  intro hmem
  exact h 'Σ' hmem (by decide +kernel)

/-- The letter that is put next to a needle to change what its sigmas are lowered to. -/
private theorem reachesCased_a (cs : List Char) :
    reachesCased ('A' :: cs) = true ∧ lowerChar 'A' = ['a'] := by
  have hreach : reach? ['A'] = some true := by decide +kernel
  refine ⟨?_, by decide⟩
  rw [← List.singleton_append, reachesCased_append, hreach]
  rfl

private theorem containsIgnoreCase_eq_occursIn (text needle : String) :
    containsIgnoreCase text needle =
      occursIn (lowerBetween [] [] needle.toList) (lowerBetween [] [] text.toList) := by
  rw [containsIgnoreCase_eq, lowercase, lowercase, String.toList_ofList, String.toList_ofList,
    lowerAfter_eq_lowerBetween, lowerAfter_eq_lowerBetween]

section

variable {b : String} {front back : List Char}

/-- Where nothing but what is looked past stands before a sigma, a letter in front of the needle makes
    it end a word. -/
private theorem not_containsIgnoreCase_behind (hb : b.toList = front ++ 'Σ' :: back)
    (hfront : reach? front.reverse = none) (hback : reachesCased back = false) :
    containsIgnoreCase ("A" ++ b ++ "") b = false := by
  have hnone : 'Σ' ∉ front := fun hmem => sigma_notMem hfront (List.mem_reverse.mpr hmem)
  -- alone, the sigma has no letter in front of it, behind the "A" it has one and ends a word
  have halone : endsWord (front.reverse ++ []) (back ++ []) = false := by
    rw [endsWord, reachesCased_append, hfront]
    rfl
  have hbehind : endsWord (front.reverse ++ ['A']) (back ++ []) = true := by
    rw [endsWord, reachesCased_append, hfront, Option.getD_none, (reachesCased_a []).1,
      List.append_nil, hback]
    rfl
  have htext : ("A" ++ b ++ "").toList = 'A' :: b.toList := by
    rw [String.append_empty, String.toList_append]
    rfl
  rw [containsIgnoreCase_eq_occursIn, htext, lowerBetween, if_neg (by decide),
    (reachesCased_a []).2, hb, lowerBetween_sigma, lowerBetween_sigma, halone, hbehind,
    lowerBetween_of_notMem hnone ['A'] _ [] ('Σ' :: back ++ [])]
  exact not_occursIn_behind (by decide) (by decide) (length_lowerBetween back _ _ _ _)

/-- Where nothing but what is looked past stands after a sigma that ends a word, a letter behind the
    needle keeps it from doing so. -/
private theorem not_containsIgnoreCase_before (hb : b.toList = front ++ 'Σ' :: back)
    (hfront : reachesCased front.reverse = true) (hback : reach? back = none) :
    containsIgnoreCase ("" ++ b ++ "A") b = false := by
  have hnone : 'Σ' ∉ back := sigma_notMem hback
  -- alone, the sigma ends a word, before the "A" it does not
  have halone : endsWord (front.reverse ++ []) (back ++ []) = true := by
    rw [endsWord, List.append_nil, hfront, reachesCased_append, hback]
    rfl
  have hbefore : endsWord (front.reverse ++ []) (back ++ ['A'] ++ []) = false := by
    rw [endsWord, List.append_nil, List.append_nil, reachesCased_append back, hback,
      Option.getD_none, (reachesCased_a []).1, Bool.not_true, Bool.and_false]
  have htext : ("" ++ b ++ "A").toList = front ++ 'Σ' :: (back ++ ['A']) := by
    rw [String.empty_append, String.toList_append, hb, List.append_assoc]
    rfl
  have hletter (before : List Char) :
      lowerBetween before [] (back ++ ['A']) = lowerBetween before ['A'] back ++ ['a'] := by
    rw [← lowerAfter_eq_lowerBetween, lowerAfter_append, lowerAfter, if_neg (by decide),
      (reachesCased_a []).2]
    rfl
  rw [containsIgnoreCase_eq_occursIn, htext, hb, lowerBetween_sigma,
    lowerBetween_sigma, halone, hbefore, hletter, lowerBetween_of_notMem hnone _ ['A'] _ []]
  exact not_occursIn_before (by decide) (by decide) (length_lowerBetween front _ _ _ _)

/-- A letter next to a needle is enough to hide it, if one of its sigmas is not settled. -/
theorem exists_not_containsIgnoreCase (hb : b.toList = front ++ 'Σ' :: back)
    (h : isSettled front.reverse back = false) :
    ∃ a c : String, containsIgnoreCase (a ++ b ++ c) b = false := by
  rw [isSettled] at h
  split at h
  case h_1 => cases h
  case h_2 => cases h
  case h_3 hleft hright =>
    -- the side on which nothing is settled is where the letter goes
    cases hfront : reach? front.reverse with
    | none =>
      have hback : reachesCased back = false := by
        rw [reachesCased_eq]
        cases hreach : reach? back with
        | none => rfl
        | some cased =>
          cases cased with
          | false => rfl
          | true => exact absurd hreach hright
      exact ⟨"A", "", not_containsIgnoreCase_behind hb hfront hback⟩
    | some cased =>
      rw [hfront, Option.isSome_some, Bool.true_and] at h
      have hcased : reachesCased front.reverse = true := by
        rw [reachesCased_eq, hfront]
        cases cased with
        | false => exact absurd hfront hleft
        | true => rfl
      have hback : reach? back = none := Option.not_isSome_iff_eq_none.mp (Bool.eq_false_iff.mp h)
      exact ⟨"", "A", not_containsIgnoreCase_before hb hcased hback⟩

end

/-- A needle is found wherever it stands exactly if each of its sigmas is settled by the needle. -/
theorem forall_containsIgnoreCase_iff {b : String} :
    (∀ a c : String, containsIgnoreCase (a ++ b ++ c) b = true) ↔
      everySigma isSettled [] b.toList = true := by
  constructor
  · intro h
    rw [everySigma_iff]
    intro front back hb
    rw [List.append_nil]
    -- a sigma that is not settled gives two texts around `b` that hide it
    refine Decidable.byContradiction fun hsettled => ?_
    obtain ⟨a, c, hcontains⟩ := exists_not_containsIgnoreCase hb (Bool.eq_false_iff.mpr hsettled)
    rw [h a c] at hcontains
    cases hcontains
  · intro h a c
    refine containsIgnoreCase_of_everySigma (everySigma_iff.mpr fun front back hb => ?_)
    have hsettled := everySigma_iff.mp h front back hb
    rw [List.append_nil] at hsettled ⊢
    rw [endsWord_of_isSettled hsettled, beq_self_eq_true]

end IncidentTracker.Text

namespace IncidentTracker

open Filtering (Forest Junction)
open Text (containsIgnoreCase endsWord everySigma isSettled)

/-- A needle that stands in a text is found there if each of its capital sigmas is lowered there as it
    is in the needle, and then every entity with that text passes the criterion that searches for the
    needle; a needle is found wherever it stands exactly if it settles by itself how its sigmas are
    lowered. -/
theorem accepts_verbatim (b : String) :
    (∀ a c : String,
      everySigma (fun before after =>
        endsWord (before ++ a.toList.reverse) (after ++ c.toList) == endsWord before after) []
        b.toList = true →
      containsIgnoreCase (a ++ b ++ c) b = true ∧
        ∀ (ε : Type) [HasProperties ε] (entity : ε) (property : String) (j j' : Junction),
          propertyValue entity property = a ++ b ++ c →
          (Forest.single j j' ⟨property, .contains, b⟩).accepts entity = true) ∧
    ((∀ a c : String, containsIgnoreCase (a ++ b ++ c) b = true) ↔
      everySigma isSettled [] b.toList = true) := by
  refine ⟨fun a c h => ?_, Text.forall_containsIgnoreCase_iff⟩
  have hcontains := Text.containsIgnoreCase_of_everySigma h
  refine ⟨hcontains, fun ε _ entity property j j' hvalue => ?_⟩
  -- the one criterion searches exactly this value
  rw [Forest.accepts, Forest.eval_single, hvalue]
  exact hcontains

/-- The sigma of a needle at the end of a word is not settled by the needle, and yet found at the end
    of another word. -/
theorem accepts_verbatim_last_word :
    let street : Incident := { id := 0, description := "Η ΜΕΓΑΛΗ ΟΔΟΣ" }
    everySigma isSettled [] "ΟΣ".toList = false ∧
      everySigma (fun before after =>
        endsWord (before ++ "Η ΜΕΓΑΛΗ ΟΔ".toList.reverse) (after ++ "".toList) ==
          endsWord before after) [] "ΟΣ".toList = true ∧
      (Forest.single .and .and ⟨"description", .contains, "ΟΣ"⟩).accepts street = true := by
  intro street
  have hsigma : everySigma (fun before after =>
      endsWord (before ++ "Η ΜΕΓΑΛΗ ΟΔ".toList.reverse) (after ++ "".toList) ==
        endsWord before after) [] "ΟΣ".toList = true := by decide +kernel
  -- the word is the last one, so its sigma is final in both texts
  have hvalue : propertyValue street "description" = "Η ΜΕΓΑΛΗ ΟΔ" ++ "ΟΣ" ++ "" := by
    decide +kernel
  have haccepts := ((accepts_verbatim "ΟΣ").1 "Η ΜΕΓΑΛΗ ΟΔ" "" hsigma).2
  exact ⟨by decide +kernel, hsigma, haccepts Incident street "description" .and .and hvalue⟩

/-- The last letter of a word is not found in the word. -/
theorem not_containsIgnoreCase_verbatim :
    ¬∀ a b c : String, containsIgnoreCase (a ++ b ++ c) b = true := by
  intro h
  have hcontains : containsIgnoreCase ("ΟΔΟ" ++ "Σ" ++ "") "Σ" = false := by decide +kernel
  rw [h "ΟΔΟ" "Σ" ""] at hcontains
  cases hcontains

end IncidentTracker

import IncidentTracker.Json.Layout
import IncidentTracker.Proofs.Json.Scanning

/-!
# Where Tokens Lead

The layout of a text is a machine that takes one token after another, with a bound on the tokens;
what is proved of it says where a piece of text leads, and that the piece has as many characters as
it takes tokens. Pieces compose, so that each form of value is a short walk, and the bound comes out
of the whole at the end.

Main statements: `Leads.trans` and `layout_of_leads`.
-/

namespace IncidentTracker.Json

variable {due due' : Due} {stack stack' : List Frame} {text text' rest : List Char}

/-! ## §1 Where a text leads -/

/-- What a step leaves of the text. -/
def Step.left : Step → List Char
  | .more _ _ rest => rest
  | .done _ rest => rest
  | .stopped _ => []

/-- The outcome of a run that goes on after a step. -/
def Step.goOn (steps : Nat) : Step → Document × Option (List Char)
  | .more due stack rest => run steps due stack rest
  | .done d rest => (d, some rest)
  | .stopped d => (d, none)

/-- A text leads to a step when a run comes there with at least one token, and with no more tokens
    than characters. -/
def Leads (due : Due) (stack : List Frame) (text : List Char) (next : Step) : Prop :=
  ∃ tokens, 0 < tokens ∧ tokens + next.left.length ≤ text.length ∧
    ∀ steps, run (steps + tokens) due stack text = next.goOn steps

theorem Leads.trans {next : Step} (h : Leads due stack text (.more due' stack' text'))
    (h' : Leads due' stack' text' next) : Leads due stack text next := by
  obtain ⟨tokens, -, hle, hrun⟩ := h
  obtain ⟨tokens', hpos', hle', hrun'⟩ := h'
  refine ⟨tokens' + tokens, Nat.add_pos_left hpos' tokens, ?_, ?_⟩
  · simp only [Step.left] at hle
    omega
  · intro steps
    rw [← Nat.add_assoc, hrun, Step.goOn, hrun']

/-- A token that begins with a visible character leads to its step. -/
theorem leads_step {c : Char} {next : Step} (hspace : isSpace c = false)
    (hstep : step due stack c rest = next) (hleft : next.left.length ≤ rest.length) :
    Leads due stack (c :: rest) next := by
  refine ⟨1, Nat.one_pos, ?_, ?_⟩
  · rw [List.length_cons]
    omega
  · intro steps
    -- there is no space to pass over, so one step of the run is the step itself
    have hdrop : (c :: rest).dropWhile isSpace = c :: rest :=
      List.dropWhile_cons_of_neg (by simp [hspace])
    rw [run, hdrop]
    simp only [hstep]
    cases next <;> rfl

/-- Blanks in front of a text do not change where it leads. -/
theorem Leads.of_blanks {blanks : List Char} {next : Step} (hblanks : blanks.all isSpace = true)
    (h : Leads due stack text next) : Leads due stack (blanks ++ text) next := by
  obtain ⟨tokens, hpos, hle, hrun⟩ := h
  refine ⟨tokens, hpos, ?_, ?_⟩
  · rw [List.length_append]
    omega
  · intro steps
    -- the first step of a run drops the blanks
    obtain ⟨more, hmore⟩ : ∃ more, steps + tokens = more + 1 :=
      Nat.exists_eq_succ_of_ne_zero (by omega)
    have hdrop : (blanks ++ text).dropWhile isSpace = text.dropWhile isSpace :=
      List.dropWhile_append_of_pos (List.all_eq_true.mp hblanks)
    rw [← hrun, hmore, run, run, hdrop]

/-- A text that leads to a complete document is laid out as that document. -/
theorem layout_of_leads {d : Document} (h : Leads .item [] text (.done d rest)) :
    layout text = (d, some rest) := by
  obtain ⟨tokens, -, hle, hrun⟩ := h
  -- the bound on the tokens is one more than there are characters, so it is not reached
  have hsplit : text.length + 1 = text.length + 1 - tokens + tokens := by omega
  rw [layout, hsplit, hrun]
  rfl

@[simp] theorem complete_left (d : Document) (stack : List Frame) (rest : List Char) :
    (complete d stack rest).left = rest := by
  cases stack <;> rfl

/-! ## §2 Tokens -/

/-- What is due where a value may stand. -/
def Due.IsItem (due : Due) : Prop :=
  due = .item ∨ due = .firstItem

private theorem step_of_isItem (hdue : due.IsItem) (stack : List Frame) (c : Char)
    (rest : List Char) : step due stack c rest = stepItem due stack c rest := by
  rcases hdue with rfl | rfl <;> rfl

theorem step_of_isKey (hdue : due = .key ∨ due = .firstKey) (stack : List Frame) (c : Char)
    (rest : List Char) : step due stack c rest = stepKey due stack c rest := by
  rcases hdue with rfl | rfl <;> rfl

/-- A scalar in the place of a value. -/
theorem leads_scalar (hdue : due.IsItem) {c : Char} {d : Document} (hspace : isSpace c = false)
    (hopen : c ≠ '[' ∧ c ≠ '\x7b' ∧ c ≠ ']') (hscan : scanScalar c text = ⟨d, rest⟩)
    (hskip : d.skipped = none) (hle : rest.length ≤ text.length) :
    Leads due stack (c :: text) (complete d stack rest) := by
  obtain ⟨hlist, hobject, hclose⟩ := hopen
  apply leads_step hspace
  · rw [step_of_isItem hdue]
    unfold stepItem
    simp only [hlist, hobject, hclose, decide_false, Bool.false_and, Bool.false_eq_true, if_false,
      hscan, hskip]
  · rwa [complete_left]

theorem leads_word (hdue : due.IsItem) (word : List Char) {c : Char} {start : Start}
    {value : Scalar} (hspace : isSpace c = false) (hopen : c ≠ '[' ∧ c ≠ '\x7b' ∧ c ≠ ']')
    (hscan : scanScalar c (word ++ rest) = scanLiteral start value word (word ++ rest)) :
    Leads due stack (c :: (word ++ rest)) (complete (.scalar start (.ok value) none) stack rest) := by
  apply leads_scalar hdue hspace hopen
  · rw [hscan, scanLiteral_append]
  · rfl
  · rw [List.length_append]
    omega

/-- A numeral in the place of a value. -/
theorem leads_numeral (hdue : due.IsItem) {c : Char} {digits : List Char} {d : Document}
    (hc : c = '-' ∨ c.isDigit = true) (hscan : scanNumber (c :: (digits ++ rest)) = ⟨d, rest⟩)
    (hskip : d.skipped = none) : Leads due stack (c :: (digits ++ rest)) (complete d stack rest) := by
  -- whatever begins a numeral begins nothing else
  have hne : ∀ d : Char, d ≠ '-' → d.isDigit = false → c ≠ d := fun d => ne_of_beginsNumeral hc
  apply leads_scalar hdue
  · simp [isSpace, hne]
  · exact ⟨hne _ (by decide) (by decide), hne _ (by decide) (by decide),
      hne _ (by decide) (by decide)⟩
  · rw [scanScalar_numeral hc, hscan]
  · exact hskip
  · rw [List.length_append]
    omega

/-! ## §3 Containers -/

theorem leads_openList (hdue : due.IsItem) (stack : List Frame) (rest : List Char) :
    Leads due stack ('[' :: rest) (.more .firstItem (.list [] :: stack) rest) := by
  apply leads_step (by decide)
  · rw [step_of_isItem hdue]
    rfl
  · exact Nat.le_refl _

theorem leads_closeList (hdue : due = .separator ∨ due = .firstItem) (done : List Document)
    (stack : List Frame) (rest : List Char) :
    Leads due (.list done :: stack) (']' :: rest)
      (complete (.list done.reverse none) stack rest) := by
  apply leads_step (by decide)
  · rcases hdue with rfl | rfl <;> rfl
  · rw [complete_left]

theorem leads_openObject (hdue : due.IsItem) (stack : List Frame) (rest : List Char) :
    Leads due stack ('\x7b' :: rest) (.more .firstKey (.object [] :: stack) rest) := by
  apply leads_step (by decide)
  · rw [step_of_isItem hdue]
    rfl
  · exact Nat.le_refl _

theorem leads_closeObject (hdue : due = .separator ∨ due = .firstKey)
    (done : List (Document × Document)) (stack : List Frame) (rest : List Char) :
    Leads due (.object done :: stack) ('\x7d' :: rest)
      (complete (.object done.reverse none) stack rest) := by
  apply leads_step (by decide)
  · rcases hdue with rfl | rfl <;> rfl
  · rw [complete_left]

/-- A comma leads from one item to the next. -/
theorem leads_comma (done : List Document) (stack : List Frame) (rest : List Char) :
    Leads .separator (.list done :: stack) (',' :: rest)
      (.more .item (.list done :: stack) rest) :=
  leads_step (by decide) rfl (Nat.le_refl _)

/-- A comma leads from one member to the next. -/
theorem leads_commaMember (done : List (Document × Document)) (stack : List Frame)
    (rest : List Char) :
    Leads .separator (.object done :: stack) (',' :: rest)
      (.more .key (.object done :: stack) rest) :=
  leads_step (by decide) rfl (Nat.le_refl _)

end IncidentTracker.Json

import IncidentTracker.Text.Ascii

/-!
# Wildcard Patterns

A wildcard pattern matches a whole text: `%` stands for any characters, `_` for any one, a
backslash takes the next character literally, and letters of ASCII match in either case. A text
is searched for literally by escaping its special characters and putting `%` around it.
-/

namespace IncidentTracker.Text.Like

/-- One element of a pattern. -/
inductive Item where
  /-- Any characters, also none. -/
  | anything
  /-- Any one character. -/
  | single
  /-- This character, up to the case of ASCII letters. -/
  | literal (c : Char)
  /-- Matches nothing: an escape character with nothing after it. -/
  | never
  deriving Repr, DecidableEq

/-- Elements of a pattern written with backslash as its escape character. -/
def items : List Char → List Item
  | [] => []
  | '\\' :: c :: rest => .literal c :: items rest
  | '\\' :: [] => [.never]
  | c :: rest =>
    (if c = '%' then .anything else if c = '_' then .single else .literal c) :: items rest

/-- Whether the elements of a pattern match the whole of a text. -/
def matchItems : List Item → List Char → Bool
  | [], text => text.isEmpty
  | .anything :: pattern, text => afterSome pattern text
  | .single :: pattern, text =>
    match text with
    | [] => false
    | _ :: rest => matchItems pattern rest
  | .literal c :: pattern, text =>
    match text with
    | [] => false
    | d :: rest => c.toLower == d.toLower && matchItems pattern rest
  | .never :: _, _ => false
where
  /-- Whether a pattern matches what is left after some number of characters. -/
  afterSome (pattern : List Item) : List Char → Bool
    | [] => matchItems pattern []
    | c :: rest => matchItems pattern (c :: rest) || afterSome pattern rest

/-- Whether a pattern matches the whole of a text, as `LIKE` does with `\` as its escape character.
    -/
def isMatch (pattern text : List Char) : Bool :=
  matchItems (items pattern) text

/-! ## §1 Literal search -/

/-- The characters that stand for `c` itself in a pattern. -/
def escapeChar (c : Char) : List Char :=
  if c = '\\' || c = '%' || c = '_' then ['\\', c] else [c]

/-- A text with the special characters of patterns escaped: `escape_like_pattern`. -/
def escape (text : List Char) : List Char :=
  text.flatMap escapeChar

/-- The pattern matching every text in which `needle` occurs: `contains_pattern`. -/
def containing (needle : List Char) : List Char :=
  '%' :: escape needle ++ ['%']

/-- Escaping yields a pattern of literal elements only. -/
theorem items_escape_append (text rest : List Char) :
    items (escape text ++ rest) = text.map .literal ++ items rest := by
  induction text with
  | nil => rfl
  | cons c text ih =>
    have step : escape (c :: text) ++ rest = escapeChar c ++ (escape text ++ rest) := by
      simp [escape]
    rw [step]
    -- the three characters that are escaped, and all others
    by_cases hb : c = '\\'
    · subst hb
      simp [escapeChar, items, ih]
    · by_cases hp : c = '%'
      · subst hp
        simp [escapeChar, items, ih]
      · by_cases hu : c = '_'
        · subst hu
          simp [escapeChar, items, ih]
        · simp [escapeChar, items, hb, hp, hu, ih]

end IncidentTracker.Text.Like

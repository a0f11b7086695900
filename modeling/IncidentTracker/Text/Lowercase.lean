import IncidentTracker.Text.CaseTable
import IncidentTracker.Text.Interval

/-!
# Lower Case

Lowering a text maps each character by the Unicode tables. Two characters are special: a capital
I with a dot becomes two characters, and a capital sigma becomes a final sigma at the end of a
word, that is after a cased character and before none, looking past case-ignorable characters on
both sides. So what a sigma becomes depends on the text around it.
-/

namespace IncidentTracker.Text

/-- Whether a character is looked past when the context of a capital sigma is examined. -/
def isCaseIgnorable (c : Char) : Bool :=
  inIntervals caseIgnorableIntervals c.toNat

/-- Whether a character that is not looked past has a case. -/
def isCased (c : Char) : Bool :=
  inIntervals casedIntervals c.toNat

/-- Whether the first character that is not looked past is cased; the text is given in the
    direction in which one walks away from the sigma. -/
def reachesCased (cs : List Char) : Bool :=
  match cs.dropWhile isCaseIgnorable with
  | [] => false
  | c :: _ => isCased c

/-- The lower-case form of a character outside ASCII that has one of a single character. -/
def shiftedLower (c : Char) : Char :=
  match lowerRuns.find? fun run => run.covers c.toNat with
  | some run => Char.ofNat (c.toNat + run.shift).toNat
  | none => c

/-- The lower-case form of a character that stands alone. -/
def lowerChar (c : Char) : List Char :=
  if c.toNat < 128 then [c.toLower]
  else if c = '\u0130' then ['i', '\u0307']
  else [shiftedLower c]

/-- Lower-case form of a text that follows the characters `before`, nearest first. -/
def lowerAfter (before : List Char) : List Char → List Char
  | [] => []
  | c :: rest =>
    (if c = 'Σ' then
      [if reachesCased before && !reachesCased rest then 'ς' else 'σ']
    else lowerChar c) ++ lowerAfter (c :: before) rest

/-- The lower-case form of a text. -/
def lowercase (s : String) : String :=
  String.ofList (lowerAfter [] s.toList)

end IncidentTracker.Text

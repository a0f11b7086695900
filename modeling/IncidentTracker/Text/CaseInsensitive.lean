import IncidentTracker.Text.Ascii
import IncidentTracker.Text.Lowercase
import IncidentTracker.Text.Occurrence

/-!
# Comparisons That Ignore Case

The two tests a criterion applies to a text: equality and containment, both up to full lower-case
folding. Two ASCII texts are compared by folding their letters directly.
-/

namespace IncidentTracker.Text

/-- Equality of whole texts ignoring case: `eq_ignore_case`. -/
def eqIgnoreCase (a b : String) : Bool :=
  if isAscii a.toList && isAscii b.toList then sameIgnoringAsciiCase a b
  else lowercase a == lowercase b

/-- Whether `needle` occurs in `haystack` ignoring case, `contains_ignore_case`; the empty text
    occurs everywhere. -/
def containsIgnoreCase (haystack needle : String) : Bool :=
  needle.isEmpty || occursIn (lowercase needle).toList (lowercase haystack).toList

end IncidentTracker.Text

/-!
# Pieces

A text cut at every occurrence of a character.
-/

namespace IncidentTracker.Text

/-- The pieces between the occurrences of a separator; there is always one. -/
def cut (separator : Char) : List Char → List (List Char)
  | [] => [[]]
  | c :: rest =>
    if c = separator then [] :: cut separator rest
    else
      match cut separator rest with
      | [] => [[c]]
      | piece :: pieces => (c :: piece) :: pieces

end IncidentTracker.Text

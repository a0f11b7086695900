import IncidentTracker.Text.Hexadecimal

/-!
# Percent Escapes

In a part of a URI a percent sign and two hexadecimal digits stand for one byte, and everything
else for itself. A percent sign without two digits is an ordinary character. A null byte ends the
part, whatever follows it.
-/

namespace IncidentTracker.Text.Percent

/-- The bytes that a part stands for. -/
def bytes : List Char → List UInt8
  | [] => []
  | '%' :: high :: low :: rest =>
    match hexValue high, hexValue low with
    | some a, some b => UInt8.ofNat (16 * a + b) :: bytes rest
    | _, _ => String.utf8EncodeChar '%' ++ bytes (high :: low :: rest)
  | c :: rest => String.utf8EncodeChar c ++ bytes rest

/-- The text that a part stands for. Bytes that are no text leave the part as it is written. -/
def decode (part : List Char) : String :=
  let read := (bytes part).takeWhile (· ≠ 0)
  (String.fromUTF8? ⟨read.toArray⟩).getD (String.ofList part)

end IncidentTracker.Text.Percent

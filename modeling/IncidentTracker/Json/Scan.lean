import IncidentTracker.Json.Document
import IncidentTracker.Text.Bytes
import IncidentTracker.Text.Hexadecimal

/-!
# Scanning Scalars

The literals, numerals and texts of the grammar, read from the front of a list of characters.
-/

namespace IncidentTracker.Json

/-- A scalar scanned from the front of a text, and what follows it. What follows is of no account
    if the scalar is broken off. -/
structure Scanned where
  document : Document
  rest : List Char

/-- Whether a character separates the tokens of the grammar. -/
def isSpace (c : Char) : Bool :=
  c = ' ' || c = '\n' || c = '\t' || c = '\r'

/-! ## §1 Literals -/

/-- The fault of a text that should go on with the given characters, if it does not. -/
def missing : (word text : List Char) → Option Fault
  | [], _ => none
  | _ :: _, [] => some .endOfText
  | c :: word, d :: text => if c = d then missing word text else some .grammar

/-- Scans the rest of a literal whose first character has been seen. -/
def scanLiteral (start : Start) (value : Scalar) (word text : List Char) : Scanned :=
  match missing word text with
  | none => ⟨.scalar start (.ok value) none, text.drop word.length⟩
  | some fault => ⟨.broken start fault, []⟩

/-! ## §2 Numerals -/

/-- The fault of a text that should begin with a digit, if it does not. -/
def digitDue : List Char → Option Fault
  | [] => some .endOfText
  | c :: _ => if c.isDigit then none else some .grammar

/-- The digits before the point: a lone zero, or digits that begin with another. -/
def scanWhole (text : List Char) : Except Fault (List Char × List Char) :=
  match digitDue text with
  | some fault => .error fault
  | none =>
    let digits := text.takeWhile Char.isDigit
    if text.head? = some '0' && digits.length ≠ 1 then .error .grammar
    else .ok (digits, text.dropWhile Char.isDigit)

/-- The digits after a point, where there is one. -/
def scanFraction : List Char → Except Fault (Option (List Char) × List Char)
  | '.' :: text =>
    match digitDue text with
    | some fault => .error fault
    | none => .ok (some (text.takeWhile Char.isDigit), text.dropWhile Char.isDigit)
  | text => .ok (none, text)

/-- The exponent, where there is one: whether it is negative, and its digits. -/
def scanExponent : List Char → Except Fault (Option (Bool × List Char) × List Char)
  | [] => .ok (none, [])
  | c :: text =>
    if c = 'e' || c = 'E' then
      -- the sign is optional, a digit is not
      let (down, text) := Text.Decimal.splitSign text
      match digitDue text with
      | some fault => .error fault
      | none => .ok (some (down, text.takeWhile Char.isDigit), text.dropWhile Char.isDigit)
    else .ok (none, c :: text)

/-- A numeral without its sign, and what follows it. -/
def scanUnsigned (negative : Bool) (text : List Char) : Except Fault (Numeral × List Char) := do
  let (whole, text) ← scanWhole text
  let (fraction, text) ← scanFraction text
  let (exponent, text) ← scanExponent text
  return (⟨negative, whole, fraction.getD [], exponent, fraction.isNone && exponent.isNone⟩, text)

/-- Scans a numeral. One that is broken off by the end of the text counts as bad grammar to a
    reader that only passes over it. -/
def scanNumber (text : List Char) : Scanned :=
  let scanned :=
    match text with
    | '-' :: digits => scanUnsigned true digits
    | digits => scanUnsigned false digits
  match scanned with
  | .ok (numeral, rest) => ⟨.scalar .number (numeral.number.map .number) none, rest⟩
  | .error fault => ⟨.scalar .number (.error fault) (some .grammar), []⟩

/-! ## §3 Texts -/

/-- The number that four hexadecimal digits stand for. -/
def hexUnit (a b c d : Char) : Option Nat := do
  let a ← Text.hexValue a
  let b ← Text.hexValue b
  let c ← Text.hexValue c
  let d ← Text.hexValue d
  return 4096 * a + 256 * b + 16 * c + d

/-- The character that a backslash and one more character stand for. -/
def namedEscape (c : Char) : Option Char :=
  if c = '"' then some '"'
  else if c = '\\' then some '\\'
  else if c = '/' then some '/'
  else if c = 'b' then some '\x08'
  else if c = 'f' then some '\x0c'
  else if c = 'n' then some '\n'
  else if c = 'r' then some '\r'
  else if c = 't' then some '\t'
  else none

/-- Whether a number is the first half of a surrogate pair. -/
def isLeading (unit : Nat) : Bool :=
  0xD800 ≤ unit && unit ≤ 0xDBFF

/-- Whether a number is the second half of a surrogate pair. -/
def isTrailing (unit : Nat) : Bool :=
  0xDC00 ≤ unit && unit ≤ 0xDFFF

/-- The character of a surrogate pair. -/
def pairChar (leading trailing : Nat) : Char :=
  Char.ofNat (0x10000 + 0x400 * (leading - 0xD800) + (trailing - 0xDC00))

/-- The fault of a text too short for four hexadecimal digits. Room is counted in bytes. -/
def shortUnit (text : List Char) : Fault :=
  if Text.byteSize text < 4 then .endOfText else .grammar

/-- The fault of the first half of a surrogate pair that is not followed by the second. -/
def loneLeading : List Char → Fault
  | [] => .endOfText
  | ['\\'] => .endOfText
  | '\\' :: 'u' :: digits => shortUnit digits
  | _ => .grammar

/-- A scanned text: its characters in reverse, the first fault of what can only be passed over,
    and either the fault that broke it off or what follows its closing quote. -/
structure Body where
  reversed : List Char
  unreadable : Option Fault
  ending : Except Fault (List Char)

/-- Scans a text up to its closing quote. -/
def scanBody (done : List Char) (unreadable : Option Fault) : List Char → Body
  | [] => ⟨done, unreadable, .error .endOfText⟩
  | '"' :: rest => ⟨done, unreadable, .ok rest⟩
  | ['\\'] => ⟨done, unreadable, .error .endOfText⟩
  | '\\' :: 'u' :: a :: b :: c :: d :: rest =>
    match hexUnit a b c d with
    | none => ⟨done, unreadable, .error .grammar⟩
    | some unit =>
      if isLeading unit then
        -- only the second half may follow; whatever else does is scanned as if nothing came before
        match rest with
        | '\\' :: 'u' :: e :: f :: g :: h :: rest' =>
          match (hexUnit e f g h).filter isTrailing with
          | some trailing => scanBody (pairChar unit trailing :: done) unreadable rest'
          | none =>
            scanBody done (unreadable <|> some .grammar)
              ('\\' :: 'u' :: e :: f :: g :: h :: rest')
        | rest => scanBody done (unreadable <|> some (loneLeading rest)) rest
      else if isTrailing unit then scanBody done (unreadable <|> some .grammar) rest
      else scanBody (Char.ofNat unit :: done) unreadable rest
  | '\\' :: 'u' :: short => ⟨done, unreadable, .error (shortUnit short)⟩
  | '\\' :: c :: rest =>
    match namedEscape c with
    | some c => scanBody (c :: done) unreadable rest
    | none => ⟨done, unreadable, .error .grammar⟩
  | c :: rest =>
    if c.toNat < 32 then ⟨done, unreadable, .error .grammar⟩
    else scanBody (c :: done) unreadable rest

/-- Scans a text whose opening quote has been seen. -/
def scanText (text : List Char) : Scanned :=
  let body := scanBody [] none text
  match body.unreadable, body.ending with
  | none, .ok rest =>
    ⟨.scalar .text (.ok (.text (String.ofList body.reversed.reverse))) none, rest⟩
  | some fault, .ok rest => ⟨.scalar .text (.error fault) none, rest⟩
  | some fault, .error passing => ⟨.scalar .text (.error fault) (some passing), []⟩
  | none, .error passing => ⟨.broken .text passing, []⟩

/-! ## §4 Any scalar -/

/-- Scans the scalar that begins with a given character. -/
def scanScalar (c : Char) (rest : List Char) : Scanned :=
  if c = '"' then scanText rest
  else if c = 'n' then scanLiteral .null .null "ull".toList rest
  else if c = 't' then scanLiteral .boolean (.boolean true) "rue".toList rest
  else if c = 'f' then scanLiteral .boolean (.boolean false) "alse".toList rest
  else if c = '-' || c.isDigit then scanNumber (c :: rest)
  else ⟨.broken .other .grammar, []⟩

end IncidentTracker.Json

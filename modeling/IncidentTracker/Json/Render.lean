import IncidentTracker.Text.Decimal

/-!
# Writing JSON

Values to be written, and their two written forms: compact, and indented by two blanks a level.
Texts are written in their own characters but for quotes, backslashes and control characters.
-/

namespace IncidentTracker.Json

/-- A value to be written. Members of an object are written in the order given. -/
inductive Value where
  | null
  | boolean (value : Bool)
  | integer (value : Int)
  | text (value : String)
  | list (items : List Value)
  | object (members : List (String × Value))

/-- A lower-case hexadecimal digit. -/
def hexDigit (n : Nat) : Char :=
  (Nat.toDigits 16 n).headD '0'

/-- A character as it is written inside a text. -/
def escapeChar (c : Char) : List Char :=
  if c = '"' then ['\\', '"']
  else if c = '\\' then ['\\', '\\']
  else if c = '\x08' then ['\\', 'b']
  else if c = '\x0c' then ['\\', 'f']
  else if c = '\n' then ['\\', 'n']
  else if c = '\r' then ['\\', 'r']
  else if c = '\t' then ['\\', 't']
  else if c.toNat < 32 then ['\\', 'u', '0', '0', hexDigit (c.toNat / 16), hexDigit (c.toNat % 16)]
  else [c]

/-- A text between quotes, in front of what follows it. -/
def textChars (s : String) (rest : List Char) : List Char :=
  '"' :: (s.toList.flatMap escapeChar ++ '"' :: rest)

/-- The written form of a scalar that is not a text. -/
def wordChars : Value → List Char
  | .null => "null".toList
  | .boolean true => "true".toList
  | .boolean false => "false".toList
  | .integer n => Text.Decimal.ofInt n
  | _ => []

/-! ## §1 Compact form -/

mutual

/-- The compact form of a value, in front of what follows it. -/
def compactChars : Value → List Char → List Char
  | .text s, rest => textChars s rest
  | .list items, rest => '[' :: compactItems items (']' :: rest)
  | .object members, rest => '\x7b' :: compactMembers members ('\x7d' :: rest)
  | .null, rest => wordChars .null ++ rest
  | .boolean b, rest => wordChars (.boolean b) ++ rest
  | .integer n, rest => wordChars (.integer n) ++ rest

/-- Values separated by commas. -/
def compactItems : List Value → List Char → List Char
  | [], rest => rest
  | [item], rest => compactChars item rest
  | item :: items, rest => compactChars item (',' :: compactItems items rest)

/-- Members separated by commas. -/
def compactMembers : List (String × Value) → List Char → List Char
  | [], rest => rest
  | [(name, value)], rest => textChars name (':' :: compactChars value rest)
  | (name, value) :: members, rest =>
    textChars name (':' :: compactChars value (',' :: compactMembers members rest))

end

/-- The compact form of a value. -/
def Value.compact (value : Value) : String :=
  String.ofList (compactChars value [])

/-! ## §2 Indented form -/

/-- A new line at a given level. -/
def newLine (level : Nat) (rest : List Char) : List Char :=
  '\n' :: (List.replicate (2 * level) ' ' ++ rest)

mutual

/-- The indented form of a value at a given level, in front of what follows it. -/
def prettyChars (level : Nat) : Value → List Char → List Char
  | .text s, rest => textChars s rest
  | .list [], rest => '[' :: ']' :: rest
  | .list (item :: items), rest =>
    '[' :: prettyItems (level + 1) (item :: items) (newLine level (']' :: rest))
  | .object [], rest => '\x7b' :: '\x7d' :: rest
  | .object (member :: members), rest =>
    '\x7b' :: prettyMembers (level + 1) (member :: members) (newLine level ('\x7d' :: rest))
  | .null, rest => wordChars .null ++ rest
  | .boolean b, rest => wordChars (.boolean b) ++ rest
  | .integer n, rest => wordChars (.integer n) ++ rest

/-- Values on lines of their own, separated by commas. -/
def prettyItems (level : Nat) : List Value → List Char → List Char
  | [], rest => rest
  | [item], rest => newLine level (prettyChars level item rest)
  | item :: items, rest =>
    newLine level (prettyChars level item (',' :: prettyItems level items rest))

/-- Members on lines of their own, separated by commas. -/
def prettyMembers (level : Nat) : List (String × Value) → List Char → List Char
  | [], rest => rest
  | [(name, value)], rest =>
    newLine level (textChars name (':' :: ' ' :: prettyChars level value rest))
  | (name, value) :: members, rest =>
    newLine level (textChars name
      (':' :: ' ' :: prettyChars level value (',' :: prettyMembers level members rest)))

end

/-- The indented form of a value. -/
def Value.pretty (value : Value) : String :=
  String.ofList (prettyChars 0 value [])

end IncidentTracker.Json

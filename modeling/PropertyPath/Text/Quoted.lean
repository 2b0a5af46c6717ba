import PropertyPath.Text.Visibility

/-!
# Quoted texts

A text between double quotes in which every character is visible. The quote and
the backslash are escaped by a backslash, four control characters have a letter,
and the other characters that do not show on their own are written by number.
-/

namespace PropertyPath.Text

/-- A character written by its number in lower-case hexadecimal digits. -/
def numbered (c : Char) : List Char :=
  ['\\', 'u', '\x7b'] ++ Nat.toDigits 16 c.toNat ++ ['\x7d']

/-- A character inside quotes. -/
def escaped (c : Char) : List Char :=
  if c = '\x00' then ['\\', '0']
  else if c = '\t' then ['\\', 't']
  else if c = '\r' then ['\\', 'r']
  else if c = '\n' then ['\\', 'n']
  else if c = '\\' ∨ c = '"' then ['\\', c]
  else if isExtending c || isInvisible c || isIgnorable c then numbered c
  else [c]

/-- The text between quotes, every character escaped as it needs. -/
def quoted (text : String) : String :=
  String.ofList ('"' :: (text.toList.flatMap escaped ++ ['"']))

end PropertyPath.Text

/-
# Quoted text

A message that quotes a piece of its input puts it between double quotes. The
quote and the backslash are escaped, tab, carriage return, line feed and NUL have
short escapes, and other characters that cannot be shown appear as their code
point in lower-case hexadecimal.
-/

import PartitionLedger.Text.Escaped

namespace PartitionLedger.Text

/-- A backslash escape that names a code point. -/
def codePointEscape (char : Char) : List Char :=
  '\\' :: 'u' :: '{' :: Nat.toDigits 16 char.toNat ++ ['}']

/-- One character as it stands inside a quoted text. -/
def quotedChar (char : Char) : List Char :=
  if char = '"' then ['\\', '"']
  else if char = '\\' then ['\\', '\\']
  else if char = '\t' then ['\\', 't']
  else if char = '\r' then ['\\', 'r']
  else if char = '\n' then ['\\', 'n']
  else if char.toNat = 0 then ['\\', '0']
  else if isEscaped char then codePointEscape char
  else [char]

/-- The text between double quotes. -/
def quoted (text : String) : String :=
  String.ofList ('"' :: text.toList.flatMap quotedChar ++ ['"'])

end PartitionLedger.Text

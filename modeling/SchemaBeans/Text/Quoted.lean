import SchemaBeans.Text.Quoted.Tables

/-!
# Text — Quoted

A text between double quotes, such that it stands on one line and shows what it is made of.  Tabs
and line ends have short escapes, quotes and backslashes are escaped, and a character that would
not be seen is given by its code point in braces.
-/

namespace SchemaBeans.Text

/-- A code point in lower-case hexadecimal between braces, as in `\u{200b}`. -/
def codePoint (c : Char) : List Char :=
  ['\\', 'u', '\x7b'] ++ Nat.toDigits 16 c.toNat ++ ['\x7d']

/-- One character of a quoted text. -/
def quotedChar (c : Char) : List Char :=
  if c = '\x00' then ['\\', '0']
  else if c = '\t' then ['\\', 't']
  else if c = '\r' then ['\\', 'r']
  else if c = '\n' then ['\\', 'n']
  else if c = '\\' then ['\\', '\\']
  else if c = '"' then ['\\', '"']
  else if CharRange.covers Table.unprintable c.toNat then codePoint c
  else [c]

/-- A text between double quotes. -/
def quoted (text : String) : String :=
  String.ofList ('"' :: (text.toList.flatMap quotedChar ++ ['"']))

end SchemaBeans.Text

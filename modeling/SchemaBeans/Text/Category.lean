import SchemaBeans.Text.Category.Tables

/-!
# Text — Category

The classes of characters that identifiers are made of.  Letters and numbers are general
categories; *alphanumeric* is the wider class of alphabetic characters and numbers, and decides
alone whether an identifier has separators.
-/

namespace SchemaBeans.Text

/-- A letter: general category L. -/
def isLetter (c : Char) : Bool := CharRange.covers Table.letters c.toNat

/-- A number: general category N. -/
def isNumber (c : Char) : Bool := CharRange.covers Table.numbers c.toNat

/-- A lower-case letter: general category Ll. -/
def isLowerLetter (c : Char) : Bool := CharRange.covers Table.lowerLetters c.toNat

/-- An upper-case letter: general category Lu. -/
def isUpperLetter (c : Char) : Bool := CharRange.covers Table.upperLetters c.toNat

/-- An alphabetic character or a number. -/
def isAlphanumeric (c : Char) : Bool :=
  CharRange.covers Table.alphabetic c.toNat || isNumber c

/-- A character in lower case, letter or not. -/
def isLowercase (c : Char) : Bool := CharRange.covers Table.lowercase c.toNat

/-- A character in upper case, letter or not. -/
def isUppercase (c : Char) : Bool := CharRange.covers Table.uppercase c.toNat

/-- A character that has a case. -/
def isCased (c : Char) : Bool := CharRange.covers Table.cased c.toNat

/-- A character that is skipped when the neighbours of a sigma are sought. -/
def isCaseIgnorable (c : Char) : Bool := CharRange.covers Table.caseIgnorable c.toNat

/-- A letter or a number: what words are made of. -/
def isWordChar (c : Char) : Bool := isLetter c || isNumber c

end SchemaBeans.Text

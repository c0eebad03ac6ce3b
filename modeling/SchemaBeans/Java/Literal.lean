/-!
# Java — Literal

String literals.  A backslash, a double quote, a line feed, a carriage return and a tab are
escaped; every other character stands for itself.  `unescape?` reads the escapes back: what is
written for a text is read as that text (`unescape?_escapeChars`).
-/

namespace SchemaBeans.Java

/-- The spelling of one character inside a literal. -/
def escapeChar (c : Char) : List Char :=
  if c = '\\' then ['\\', '\\']
  else if c = '"' then ['\\', '"']
  else if c = '\n' then ['\\', 'n']
  else if c = '\r' then ['\\', 'r']
  else if c = '\t' then ['\\', 't']
  else [c]

/-- The spelling of a text inside a literal, as characters. -/
def escapeChars (cs : List Char) : List Char := cs.flatMap escapeChar

/-- The spelling of a text inside a literal. -/
def escape (text : String) : String := String.ofList (escapeChars text.toList)

/-- A text as a string literal. -/
def literal (text : String) : String := "\"" ++ escape text ++ "\""

/-- The character that a letter after a backslash stands for. -/
def escaped? (letter : Char) : Option Char :=
  if letter = '\\' ∨ letter = '"' then some letter
  else if letter = 'n' then some '\n'
  else if letter = 'r' then some '\r'
  else if letter = 't' then some '\t'
  else none

/-- The text that stands inside a literal.  A quote or a line break must not stand there, and a
backslash only at the beginning of an escape. -/
def unescape? : List Char → Option (List Char)
  | [] => some []
  | '\\' :: letter :: cs => (escaped? letter).bind fun c => (unescape? cs).map (c :: ·)
  | c :: cs =>
    if c = '\\' ∨ c = '"' ∨ c = '\n' ∨ c = '\r' then none else (unescape? cs).map (c :: ·)

/-- A character's spelling is read as that character. -/
theorem unescape?_escapeChar_append (c : Char) (cs : List Char) :
    unescape? (escapeChar c ++ cs) = (unescape? cs).map (c :: ·) := by
  unfold escapeChar
  split
  · next h => subst h; rfl
  split
  · next h => subst h; rfl
  split
  · next h => subst h; rfl
  split
  · next h => subst h; rfl
  split
  · next h => subst h; rfl
  · next backslash quote feed carriage _ =>
    rw [List.singleton_append, unescape?]
    · simp [backslash, quote, feed, carriage]
    · intro letter _ h
      exact absurd h backslash

/-- What is written for a text is read as that text. -/
theorem unescape?_escapeChars (cs : List Char) : unescape? (escapeChars cs) = some cs := by
  induction cs with
  | nil => rfl
  | cons c cs ih =>
    rw [escapeChars, List.flatMap_cons, unescape?_escapeChar_append, ← escapeChars, ih]
    rfl

end SchemaBeans.Java

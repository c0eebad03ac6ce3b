import SchemaBeans.Yaml.Document

/-!
# Documents — read from characters

Reading looks at the characters of a text, and at nothing else (`read_eq_of_toList`).  The
characters of a text that is written out in parts are those of its parts
(`toList_append_of_toList`).  So what a fixed text is read as can be found without the encoding of
the text, which takes far longer to compute than the document.
-/

namespace SchemaBeans.Yaml

/-- The tokens of characters. -/
def tokenizeChars (cs : List Char) : Except Fault (List Token) :=
  if !cs.all isAllowed then .error .character
  else
    match Lexer.run (cs.length + 1) { cursor := { rest := cs } } with
    | some x => .ok x.tokens.reverse
    | none => .error .token

/-- The data of characters, with merge keys as they are. -/
def parseChars (cs : List Char) : Except Fault Node := do
  match ← Tree.ofTokens (← tokenizeChars cs) with
  | none => return .null
  | some tree => Node.ofTree tree

/-- The data of characters, with merge keys carried out. -/
def readChars (cs : List Char) : Except Fault Node := do
  match (← parseChars cs).merged? with
  | some n => return n
  | none => throw .merge

theorem read_eq_readChars (text : String) : read text = readChars text.toList := rfl

/-- A text is read as its characters are. -/
theorem read_eq_of_toList {text : String} {cs : List Char} {r : Except Fault Node}
    (htext : text.toList = cs) (hread : readChars cs = r) : read text = r := by
  rw [read_eq_readChars, htext, hread]

/-- If the document of the characters has a property, the document of the text has it. -/
theorem exists_read_of_toList {text : String} {cs : List Char} {p : Node → Bool}
    (htext : text.toList = cs) (hread : (readChars cs).toOption.any p = true) :
    ∃ n, read text = .ok n ∧ p n = true := by
  rw [read_eq_readChars, htext]
  cases hr : readChars cs with
  | error fault =>
    rw [hr] at hread
    cases hread
  | ok n =>
    rw [hr] at hread
    exact ⟨n, rfl, hread⟩

theorem toList_append_of_toList {text text' : String} {cs cs' : List Char} (h : text.toList = cs)
    (h' : text'.toList = cs') : (text ++ text').toList = cs ++ cs' := by
  rw [String.toList_append, h, h']

end SchemaBeans.Yaml

import Mathlib.Algebra.Ring.Parity
import Mathlib.Data.List.DropRight
import SchemaBeans.Java.Literal

/-!
# Literals — what is written for a text

A string literal is one literal, and stands for the text it is written for (`literal_denotes`).

A backslash in a line of code opens an escape if the number of backslashes right before it is even;
only then could it open the escape of a character by its number, which a compiler replaces before it
looks for literals.  So whether an escape is open at a place is told by the characters before it
(`isOpen`), and at every place of what is written for a text either none is open, and the character
stands for itself or opens one of the escapes of literals, or one is, and the character is its
letter (`place_of_escapeChars`).
-/

namespace SchemaBeans.Java

/-- The letters of the escapes in literals. -/
def escapeLetters : List Char := ['\\', '"', 'n', 'r', 't']

/-- The number of backslashes at the end. -/
def slashes (cs : List Char) : Nat := (cs.rtakeWhile (· = '\\')).length

/-- The characters can stand between the quotes of a literal.  There is no line end among them; a
quote is escaped, and a backslash that is not escaped begins an escape of literals; the quote behind
them is not escaped. -/
structure IsSpelling (cs : List Char) : Prop where
  feed : '\n' ∉ cs
  carriage : '\r' ∉ cs
  quote {before after : List Char} : cs = before ++ '"' :: after → Odd (slashes before)
  slash {before after : List Char} : cs = before ++ '\\' :: after → Even (slashes before) →
    ∃ letter ∈ escapeLetters, ∃ rest, after = letter :: rest
  closed : Even (slashes cs)

mutual

/-- The texts of the literals in a line of code without comments, if they all are well formed. -/
def literals? : List Char → Option (List (List Char))
  | [] => some []
  | c :: cs => if c = '"' then literalsInside? [] cs else literals? cs

/-- The texts of the literals, where the first has been read up to a place. -/
def literalsInside? (text : List Char) : List Char → Option (List (List Char))
  | [] => none
  | '\\' :: letter :: cs => (escaped? letter).bind fun c => literalsInside? (text ++ [c]) cs
  | c :: cs =>
    if c = '"' then (literals? cs).map (text :: ·)
    else if c = '\\' ∨ c = '\n' ∨ c = '\r' then none
    else literalsInside? (text ++ [c]) cs

end

/-! ### Places in a spelling -/

/-- An escape is open behind the characters, if `wasOpen` says whether one is before them. -/
def isOpen (wasOpen : Bool) : List Char → Bool
  | [] => wasOpen
  | c :: cs => isOpen (!wasOpen && c = '\\') cs

theorem isOpen_append (wasOpen : Bool) (cs ds : List Char) :
    isOpen wasOpen (cs ++ ds) = isOpen (isOpen wasOpen cs) ds := by
  induction cs generalizing wasOpen with
  | nil => rfl
  | cons c cs ih => rw [List.cons_append, isOpen, isOpen, ih]

theorem slashes_concat (cs : List Char) (c : Char) :
    slashes (cs ++ [c]) = if c = '\\' then slashes cs + 1 else 0 := by
  rw [slashes, List.rtakeWhile_concat]
  by_cases hc : c = '\\' <;> simp [hc, slashes]

/-- An escape is open exactly behind an odd number of backslashes. -/
theorem isOpen_eq_true_iff {cs : List Char} : isOpen false cs = true ↔ Odd (slashes cs) := by
  induction cs using List.reverseRecOn with
  | nil => simp [isOpen, slashes]
  | append_singleton cs c ih =>
    rw [isOpen_append, isOpen, isOpen, slashes_concat]
    by_cases hc : c = '\\'
    · simp [hc, Nat.odd_add_one, ← ih]
    · simp [hc]

theorem isOpen_eq_false_iff {cs : List Char} : isOpen false cs = false ↔ Even (slashes cs) := by
  rw [← Bool.not_eq_true, isOpen_eq_true_iff, Nat.not_odd_iff_even]

/-- A character is spelled by itself or by an escape. -/
theorem escapeChar_cases (c : Char) :
    (escapeChar c = [c] ∧ c ≠ '\\' ∧ c ≠ '"' ∧ c ≠ '\n' ∧ c ≠ '\r') ∨
      ∃ letter ∈ escapeLetters, escapeChar c = ['\\', letter] ∧ escaped? letter = some c := by
  unfold escapeChar
  split
  · next h => exact .inr ⟨'\\', by decide, rfl, by rw [h]; rfl⟩
  split
  · next h => exact .inr ⟨'"', by decide, rfl, by rw [h]; rfl⟩
  split
  · next h => exact .inr ⟨'n', by decide, rfl, by rw [h]; rfl⟩
  split
  · next h => exact .inr ⟨'r', by decide, rfl, by rw [h]; rfl⟩
  split
  · next h => exact .inr ⟨'t', by decide, rfl, by rw [h]; rfl⟩
  · next backslash quote feed carriage _ => exact .inl ⟨rfl, backslash, quote, feed, carriage⟩

/-- No escape is left open behind a spelling. -/
theorem isOpen_escapeChars (cs : List Char) : isOpen false (escapeChars cs) = false := by
  induction cs with
  | nil => rfl
  | cons c cs ih =>
    rw [escapeChars, List.flatMap_cons, isOpen_append, ← escapeChars]
    obtain ⟨h, hc, -⟩ | ⟨letter, -, h, -⟩ := escapeChar_cases c
    · simpa [h, isOpen, hc] using ih
    · simpa [h, isOpen] using ih

/-- What can stand at a place of a spelling: a character that stands for itself, the backslash of an
escape, or, if an escape is open, its letter. -/
inductive Place (after : List Char) : Bool → Char → Prop where
  | itself {c : Char} (slash : c ≠ '\\') (quote : c ≠ '"') (feed : c ≠ '\n')
      (carriage : c ≠ '\r') : Place after false c
  | escape {letter : Char} {rest : List Char} (hletter : letter ∈ escapeLetters)
      (hafter : after = letter :: rest) : Place after false '\\'
  | letter {letter : Char} (hletter : letter ∈ escapeLetters) : Place after true letter

theorem place_of_escapeChars {cs before after : List Char} {c : Char}
    (h : escapeChars cs = before ++ c :: after) : Place after (isOpen false before) c := by
  induction cs generalizing before with
  | nil => simp [escapeChars] at h
  | cons d cs ih =>
    rw [escapeChars, List.flatMap_cons, ← escapeChars] at h
    obtain ⟨hd, slash, quote, feed, carriage⟩ | ⟨letter, hletter, hd, -⟩ := escapeChar_cases d
    · rw [hd, List.singleton_append] at h
      cases before with
      | nil =>
        obtain ⟨rfl, -⟩ := List.cons.inj h
        exact .itself slash quote feed carriage
      | cons e before =>
        obtain ⟨rfl, hrest⟩ := List.cons.inj h
        rw [isOpen, decide_eq_false slash]
        exact ih hrest
    · rw [hd] at h
      cases before with
      | nil =>
        obtain ⟨rfl, hafter⟩ := List.cons.inj h
        exact .escape hletter hafter.symm
      | cons e before =>
        obtain ⟨rfl, hrest⟩ := List.cons.inj h
        cases before with
        | nil =>
          obtain ⟨rfl, -⟩ := List.cons.inj hrest
          exact .letter hletter
        | cons f before =>
          obtain ⟨rfl, htail⟩ := List.cons.inj hrest
          have hplace := ih htail
          exact hplace

/-- What is written for a text can stand between the quotes of a literal. -/
theorem isSpelling_escapeChars (cs : List Char) : IsSpelling (escapeChars cs) where
  feed h := by
    obtain ⟨before, after, h⟩ := List.append_of_mem h
    have hplace := place_of_escapeChars h
    generalize isOpen false before = wasOpen at hplace
    cases hplace with
    | itself _ _ feed _ => exact feed rfl
    | letter hletter => exact absurd hletter (by decide)
  carriage h := by
    obtain ⟨before, after, h⟩ := List.append_of_mem h
    have hplace := place_of_escapeChars h
    generalize isOpen false before = wasOpen at hplace
    cases hplace with
    | itself _ _ _ carriage => exact carriage rfl
    | letter hletter => exact absurd hletter (by decide)
  quote {before after} h := by
    have hplace := place_of_escapeChars h
    rw [← isOpen_eq_true_iff]
    generalize isOpen false before = wasOpen at hplace
    cases hplace with
    | itself _ quote _ _ => exact absurd rfl quote
    | letter hletter => rfl
  slash {before after} h heven := by
    have hplace := place_of_escapeChars h
    rw [isOpen_eq_false_iff.mpr heven] at hplace
    cases hplace with
    | itself slash _ _ _ => exact absurd rfl slash
    | escape hletter hafter => exact ⟨_, hletter, _, hafter⟩
  closed := isOpen_eq_false_iff.mp (isOpen_escapeChars cs)

/-! ### Reading -/

/-- A spelling with a quote behind it is read to the quote. -/
theorem literalsInside?_escapeChars (text cs after : List Char) :
    literalsInside? text (escapeChars cs ++ '"' :: after) =
      (literals? after).map ((text ++ cs) :: ·) := by
  induction cs generalizing text with
  | nil => simp [escapeChars, literalsInside?]
  | cons c cs ih =>
    rw [escapeChars, List.flatMap_cons, ← escapeChars, List.append_assoc,
      List.append_cons text c cs, ← ih]
    obtain ⟨hc, slash, quote, feed, carriage⟩ | ⟨letter, -, hc, hletter⟩ := escapeChar_cases c
    · rw [hc, List.singleton_append, literalsInside?]
      · simp [slash, quote, feed, carriage]
      · intro letter rest h
        exact absurd h slash
    · simp [hc, literalsInside?, hletter]

/-- The first literal in a line of code is the first that stands there. -/
theorem literals?_append_literal {before : List Char} (hbefore : '"' ∉ before)
    (text : String) (after : List Char) :
    literals? (before ++ (literal text).toList ++ after) =
      (literals? after).map (text.toList :: ·) := by
  induction before with
  | nil =>
    have hliteral : (literal text).toList ++ after =
        '"' :: (escapeChars text.toList ++ '"' :: after) := by
      simp [literal, escape]
    rw [List.nil_append, hliteral, literals?, if_pos rfl, literalsInside?_escapeChars]
    rfl
  | cons c before ih =>
    obtain ⟨hc, hbefore⟩ := not_or.mp fun e => hbefore (List.mem_cons.mpr e)
    rw [List.cons_append, List.cons_append, literals?, if_neg (Ne.symm hc), ih hbefore]

/-- Different texts are spelled differently. -/
theorem escape_injective : Function.Injective escape := by
  intro text text' h
  have hchars : escapeChars text.toList = escapeChars text'.toList := String.ofList_injective h
  have hread := congrArg unescape? hchars
  rw [unescape?_escapeChars, unescape?_escapeChars] at hread
  exact String.toList_injective (Option.some.inj hread)

/-- **Literals.**  The literal for a text has its spelling between quotes.  The spelling can stand
there, whatever the text is, and is read as the text, so different texts have different spellings;
and the whole is one literal. -/
theorem literal_denotes (text : String) :
    (literal text).toList = '"' :: ((escape text).toList ++ ['"']) ∧
      IsSpelling (escape text).toList ∧
      unescape? (escape text).toList = some text.toList ∧
      literals? (literal text).toList = some [text.toList] ∧
      Function.Injective escape := by
  have hspelling : (escape text).toList = escapeChars text.toList := String.toList_ofList
  refine ⟨?_, ?_, ?_, ?_, escape_injective⟩
  · simp [literal]
  · rw [hspelling]
    exact isSpelling_escapeChars _
  · rw [hspelling]
    exact unescape?_escapeChars _
  · have h := literals?_append_literal List.not_mem_nil text []
    rwa [List.nil_append, List.append_nil] at h

end SchemaBeans.Java

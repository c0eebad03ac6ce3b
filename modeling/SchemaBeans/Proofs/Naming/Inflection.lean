import SchemaBeans.Proofs.Naming.Words
import SchemaBeans.Proofs.Text.Ascii

/-!
# Naming — camel and Pascal case of names in ASCII

The two conversions treat a name with separators otherwise than one without: the capitals inside it
are lost in the one and kept in the other.  Yet a name that has been converted has no separators, so
a second conversion takes the other branch.  It comes to the same all the same: what a conversion
leaves is letters and digits, and all that a second one changes is the first of them
(`isSpelled_of_ascii`).  So the conversions may be composed in any way (`composes_of_ascii`).

How a word of a name with separators is spelled is left open (`Inflection`).  It is enough that its
two spellings agree past the first character (`Agrees`), as do the ones that names are written with
(`agrees_plain`).
-/

namespace SchemaBeans.Naming

open SchemaBeans.Text

/-! ### Spellings of words -/

/-- How a word in lower case is spelled at the beginning of a name in camel case, and elsewhere. -/
structure Inflection where
  first : List Char → List Char
  later : List Char → List Char

namespace Inflection

/-- A word stays as it is at the beginning, and its first letter is raised elsewhere. -/
def plain : Inflection := ⟨id, upperFirst⟩

/-- The name in Pascal case, with words spelled as given. -/
def pascalChars (i : Inflection) (cs : List Char) : List Char :=
  if hasSeparators cs then (words cs).flatMap fun word => i.later (lowercase word)
  else upperFirst cs

/-- The name in camel case, with words spelled as given. -/
def camelChars (i : Inflection) (cs : List Char) : List Char :=
  if hasSeparators cs then
    match words cs with
    | [] => []
    | first :: rest =>
      i.first (lowercase first) ++ rest.flatMap fun word => i.later (lowercase word)
  else lowerFirst cs

/-- The name in Pascal case. -/
def pascal (i : Inflection) (name : String) : String := String.ofList (i.pascalChars name.toList)

/-- The name in camel case. -/
def camel (i : Inflection) (name : String) : String := String.ofList (i.camelChars name.toList)

theorem pascal_plain : plain.pascal = Naming.pascal := rfl

theorem camel_plain : plain.camel = Naming.camel := rfl

/-- The text is made of digits and of letters in lower case. -/
def IsLow (word : List Char) : Prop := ∀ c ∈ word, c.isAlphanum = true ∧ c.isUpper = false

/-- Past the first character, which stays in one of them and is raised in the other, the two
spellings of a word are the same, and are the word but for the case of its letters. -/
def Agrees (i : Inflection) : Prop :=
  ∀ c cs, IsLow (c :: cs) → ∃ rest, i.first (c :: cs) = c :: rest ∧
    i.later (c :: cs) = c.toUpper :: rest ∧ rest.map Char.toLower = cs

theorem IsLow.map_toLower {word : List Char} (h : IsLow word) : word.map Char.toLower = word :=
  (List.map_congr_left fun c hc => Char.toLower_eq_of_not_isUpper (by simp [(h c hc).2])).trans
    (List.map_id word)

theorem agrees_plain : plain.Agrees := by
  intro c cs h
  have hc : c.toNat < 128 := lt_of_isAlphanum (h c List.mem_cons_self).1
  have hupper : plain.later (c :: cs) = upper c ++ cs := rfl
  refine ⟨cs, rfl, ?_, IsLow.map_toLower fun d hd => h d (List.mem_cons_of_mem c hd)⟩
  rw [hupper, (isTabled_of_lt hc).upper, List.singleton_append]

end Inflection

/-! ### Spellings of names -/

/-- Two spellings of the same letters and digits, with the first of them in lower case in the one
and in upper case in the other. -/
inductive IsSpelled (letters : List Char) : List Char → List Char → Prop where
  | empty (h : letters = []) : IsSpelled letters [] []
  | cons {c : Char} {rest : List Char}
      (h : (c :: rest).map Char.toLower = letters.map Char.toLower) :
      IsSpelled letters (c.toLower :: rest) (c.toUpper :: rest)

variable {i : Inflection} {cs ds word letters : List Char}

theorem isAlphanum_of_map_toLower_eq (h : cs.map Char.toLower = ds.map Char.toLower)
    (hds : ∀ d ∈ ds, d.isAlphanum = true) : ∀ c ∈ cs, c.isAlphanum = true := by
  intro c hc
  have hmem : c.toLower ∈ ds.map Char.toLower := h ▸ List.mem_map_of_mem hc
  obtain ⟨d, hd, hdc⟩ := List.mem_map.mp hmem
  rw [← isAlphanum_toLower, ← hdc, isAlphanum_toLower]
  exact hds d hd

namespace IsSpelled

variable {camel pascal : List Char} (h : IsSpelled letters camel pascal)
include h

theorem tail_eq : camel.tail = pascal.tail := by
  cases h <;> rfl

theorem head?_eq : camel.head?.map Char.toLower = pascal.head?.map Char.toLower := by
  cases h <;> simp

theorem map_toLower_camel : camel.map Char.toLower = letters.map Char.toLower := by
  cases h with
  | empty h => rw [h]
  | cons h => rw [← h, List.map_cons, List.map_cons, Char.toLower_toLower_eq_toLower]

/-- What follows is spelled in one way only. -/
theorem append (hne : letters ≠ []) (hds : ds.map Char.toLower = cs.map Char.toLower) :
    IsSpelled (letters ++ cs) (camel ++ ds) (pascal ++ ds) := by
  cases h with
  | empty h => exact absurd h hne
  | cons h =>
    rw [List.cons_append, List.cons_append]
    exact .cons (by rw [← List.cons_append, List.map_append, List.map_append, h, hds])

theorem map_toLower_pascal : pascal.map Char.toLower = letters.map Char.toLower := by
  cases h with
  | empty h => rw [h]
  | cons h => rw [← h, List.map_cons, List.map_cons, Char.toLower_toUpper_eq_toLower]

end IsSpelled

/-- Letters and digits have no separators among them. -/
theorem hasSeparators_of_isAlphanum (h : ∀ c ∈ cs, c.isAlphanum = true) :
    hasSeparators cs = false := by
  refine List.any_eq_false.mpr fun c hc => ?_
  rw [(isTabled_of_lt (lt_of_isAlphanum (h c hc))).isAlphanumeric, h c hc]
  decide

/-- Of letters and digits the conversion to camel case lowers the first. -/
theorem camelChars_cons {c : Char} (h : ∀ d ∈ c :: cs, d.isAlphanum = true) :
    i.camelChars (c :: cs) = c.toLower :: cs := by
  rw [Inflection.camelChars, hasSeparators_of_isAlphanum h, if_neg Bool.false_ne_true, lowerFirst,
    (isTabled_of_lt (lt_of_isAlphanum (h c List.mem_cons_self))).lower, List.singleton_append]

/-- Of letters and digits the conversion to Pascal case raises the first. -/
theorem pascalChars_cons {c : Char} (h : ∀ d ∈ c :: cs, d.isAlphanum = true) :
    i.pascalChars (c :: cs) = c.toUpper :: cs := by
  rw [Inflection.pascalChars, hasSeparators_of_isAlphanum h, if_neg Bool.false_ne_true, upperFirst,
    (isTabled_of_lt (lt_of_isAlphanum (h c List.mem_cons_self))).upper, List.singleton_append]

/-- **A second conversion.**  Each conversion takes either spelling to the one that is its own. -/
theorem IsSpelled.converted {camel pascal : List Char} (h : IsSpelled letters camel pascal)
    (hletters : ∀ c ∈ letters, c.isAlphanum = true) :
    (i.camelChars camel = camel ∧ i.camelChars pascal = camel) ∧
      i.pascalChars camel = pascal ∧ i.pascalChars pascal = pascal := by
  have hcamel := isAlphanum_of_map_toLower_eq h.map_toLower_camel hletters
  have hpascal := isAlphanum_of_map_toLower_eq h.map_toLower_pascal hletters
  cases h with
  | empty => exact ⟨⟨rfl, rfl⟩, rfl, rfl⟩
  | cons =>
    rw [camelChars_cons hcamel, camelChars_cons hpascal, pascalChars_cons hcamel,
      pascalChars_cons hpascal]
    simp

/-- Words spelled one after the other are the words but for the case of their letters. -/
theorem map_toLower_flatMap {ws : List (List Char)}
    (h : ∀ word ∈ ws, IsSpelled word (i.first (lowercase word)) (i.later (lowercase word))) :
    (ws.flatMap fun word => i.later (lowercase word)).map Char.toLower =
      ws.flatten.map Char.toLower := by
  induction ws with
  | nil => rfl
  | cons word ws ih =>
    obtain ⟨hword, hws⟩ := List.forall_mem_cons.mp h
    rw [List.flatMap_cons, List.flatten_cons, List.map_append, List.map_append, ih hws,
      hword.map_toLower_pascal]

/-! ### Names in ASCII -/

section Ascii

variable (hi : i.Agrees) (h : IsAscii cs)
include h

theorem isAlphanum_of_mem_words (hword : word ∈ words cs) : ∀ c ∈ word, c.isAlphanum = true := by
  intro c hc
  have hmem : c ∈ (words cs).flatten := List.mem_flatten_of_mem hword hc
  rw [flatten_words, filter_isWordChar h] at hmem
  exact (List.mem_filter.mp hmem).2

include hi

/-- The two spellings of a word of the name. -/
theorem isSpelled_word (hword : word ∈ words cs) :
    IsSpelled word (i.first (lowercase word)) (i.later (lowercase word)) := by
  have halphanum := isAlphanum_of_mem_words h hword
  obtain ⟨c, rest, rfl⟩ := List.exists_cons_of_ne_nil (ne_nil_of_mem_words hword)
  rw [lowercase_eq_map (.of_isAlphanum halphanum), List.map_cons]
  obtain ⟨rest', hfirst, hlater, hrest⟩ := hi c.toLower (rest.map Char.toLower) (by
    rw [← List.map_cons]
    intro d hd
    obtain ⟨e, he, rfl⟩ := List.mem_map.mp hd
    exact ⟨by rw [isAlphanum_toLower, halphanum e he], Char.isUpper_toLower_eq_false e⟩)
  rw [hfirst, hlater, Char.toUpper_toLower_eq_toUpper]
  exact .cons (by rw [List.map_cons, List.map_cons, hrest])

/-- **One conversion.**  The forms of a name are spellings of its letters and digits. -/
theorem isSpelled_of_ascii :
    IsSpelled (cs.filter Char.isAlphanum) (i.camelChars cs) (i.pascalChars cs) := by
  cases hsep : hasSeparators cs with
  | true =>
    rw [Inflection.camelChars, Inflection.pascalChars, if_pos hsep, if_pos hsep,
      ← filter_isWordChar h, ← flatten_words]
    have hspelled : ∀ word ∈ words cs,
        IsSpelled word (i.first (lowercase word)) (i.later (lowercase word)) :=
      fun word => isSpelled_word hi h
    have hne : ∀ word ∈ words cs, word ≠ [] := fun word => ne_nil_of_mem_words
    cases hwords : words cs with
    | nil => exact .empty rfl
    | cons word rest =>
      rw [hwords] at hspelled hne
      obtain ⟨hword, hrest⟩ := List.forall_mem_cons.mp hspelled
      rw [List.flatMap_cons, List.flatten_cons]
      exact hword.append (hne word List.mem_cons_self) (map_toLower_flatMap hrest)
  | false =>
    have halphanum : ∀ c ∈ cs, c.isAlphanum = true := by
      intro c hc
      rw [← (isTabled_of_lt (h c hc)).isAlphanumeric]
      simpa using List.any_eq_false.mp hsep c hc
    rw [List.filter_eq_self.mpr halphanum]
    cases cs with
    | nil => exact .empty rfl
    | cons c cs =>
      rw [camelChars_cons halphanum, pascalChars_cons halphanum]
      exact .cons rfl

end Ascii

/-- The conversions may be composed in any way, and differ in the case of the first character only.
What they leave of the name is its letters and digits in their order, but for the case of the
letters. -/
structure Composes (camel pascal : String → String) (name : String) : Prop where
  camel_pascal : camel (pascal name) = camel name
  pascal_camel : pascal (camel name) = pascal name
  camel_camel : camel (camel name) = camel name
  pascal_pascal : pascal (pascal name) = pascal name
  first : (camel name).toList.head?.map Char.toLower = (pascal name).toList.head?.map Char.toLower
  rest : (camel name).toList.tail = (pascal name).toList.tail
  alphanumeric : ∀ c ∈ (camel name).toList ++ (pascal name).toList, c.isAlphanum = true
  lettersCamel : (camel name).toList.map Char.toLower =
    (name.toList.filter Char.isAlphanum).map Char.toLower
  lettersPascal : (pascal name).toList.map Char.toLower =
    (name.toList.filter Char.isAlphanum).map Char.toLower

theorem Inflection.Agrees.composes (hi : i.Agrees) {name : String} (h : IsAscii name.toList) :
    Composes i.camel i.pascal name := by
  have hspelled := isSpelled_of_ascii hi h
  have hletters : ∀ c ∈ name.toList.filter Char.isAlphanum, c.isAlphanum = true :=
    fun c hc => (List.mem_filter.mp hc).2
  obtain ⟨⟨hcc, hcp⟩, hpc, hpp⟩ := hspelled.converted (i := i) hletters
  have hcamel (name : String) : (i.camel name).toList = i.camelChars name.toList :=
    String.toList_ofList
  have hpascal (name : String) : (i.pascal name).toList = i.pascalChars name.toList :=
    String.toList_ofList
  constructor
  case camel_pascal => exact String.ext (by rw [hcamel, hpascal, hcp, hcamel])
  case pascal_camel => exact String.ext (by rw [hpascal, hcamel, hpc, hpascal])
  case camel_camel => exact String.ext (by rw [hcamel, hcamel, hcc])
  case pascal_pascal => exact String.ext (by rw [hpascal, hpascal, hpp])
  case first =>
    rw [hcamel, hpascal]
    exact hspelled.head?_eq
  case rest =>
    rw [hcamel, hpascal]
    exact hspelled.tail_eq
  case alphanumeric =>
    rw [hcamel, hpascal, List.forall_mem_append]
    exact ⟨isAlphanum_of_map_toLower_eq hspelled.map_toLower_camel hletters,
      isAlphanum_of_map_toLower_eq hspelled.map_toLower_pascal hletters⟩
  case lettersCamel =>
    rw [hcamel]
    exact hspelled.map_toLower_camel
  case lettersPascal =>
    rw [hpascal]
    exact hspelled.map_toLower_pascal

/-- **Camel and Pascal case.**  The conversions of names in ASCII may be composed in any way, as
words are spelled and for every other spelling that agrees past the first character. -/
theorem composes_of_ascii :
    (∀ {name : String}, IsAscii name.toList → Composes camel pascal name) ∧
      ∀ {i : Inflection}, i.Agrees → ∀ {name : String}, IsAscii name.toList →
        Composes i.camel i.pascal name := by
  refine ⟨fun h => ?_, fun hi _ h => hi.composes h⟩
  rw [← Inflection.camel_plain, ← Inflection.pascal_plain]
  exact Inflection.agrees_plain.composes h

/-- A name with separators in which words begin with capitals and digits. -/
theorem composes_of_mixedName : IsAscii "_HTTP-server__2Go".toList ∧ Inflection.plain.Agrees ∧
    camel "_HTTP-server__2Go" = "httpServer2go" ∧ pascal "_HTTP-server__2Go" = "HttpServer2go" ∧
    camel (pascal "_HTTP-server__2Go") = "httpServer2go" ∧
    Composes camel pascal "_HTTP-server__2Go" ∧
    Composes Inflection.plain.camel Inflection.plain.pascal "_HTTP-server__2Go" := by
  have hascii : IsAscii "_HTTP-server__2Go".toList := by decide
  have hcamel : camel "_HTTP-server__2Go" = "httpServer2go" := by decide
  have hcomposes := composes_of_ascii.1 hascii
  exact ⟨hascii, Inflection.agrees_plain, hcamel, by decide,
    hcomposes.camel_pascal.trans hcamel, hcomposes,
    composes_of_ascii.2 Inflection.agrees_plain hascii⟩

end SchemaBeans.Naming

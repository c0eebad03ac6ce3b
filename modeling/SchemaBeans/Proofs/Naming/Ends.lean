import SchemaBeans.Proofs.Naming.Snake
import SchemaBeans.Proofs.Text.Ascii

/-!
# Naming — ends of words

The ends of words are marked in four passes, each with a search of its own.  A search that goes on
behind each of its finds still finds every end, since no end begins inside another one
(`markWords_eq`).  An underscore is no part of an end, so that a pass makes no new ends and leaves
none of its kind: after all of them there is nothing left to mark (`isMarked_markWords`).

To change the case of a marked text brings no end back either.  Most ends take a capital and a small
letter, and a letter before a number would have been one before (`IsMarked.map`).  So a name in
ASCII is marked once, however often it is converted (`isMarkedOnce_of_ascii`).
-/

namespace SchemaBeans.Naming

open SchemaBeans.Text

variable {isEnd : Char → List Char → Bool} {c : Char} {cs ds : List Char} {width : Nat}

/-! ### Searches -/

/-- Puts an underscore after the ends that a search finds.  A find takes up `width` characters
behind the end, and the search goes on after these; `skip` of the next ones are taken up already. -/
def markFinds (isEnd : Char → List Char → Bool) (width : Nat) : Nat → List Char → List Char
  | _, [] => []
  | skip + 1, c :: cs => c :: markFinds isEnd width skip cs
  | 0, c :: cs =>
    if isEnd c cs then c :: '_' :: markFinds isEnd width width cs
    else c :: markFinds isEnd width 0 cs

/-- No word ends at one of the first characters. -/
def noneWithin (isEnd : Char → List Char → Bool) : Nat → List Char → Bool
  | 0, _ => true
  | _, [] => true
  | width + 1, c :: cs => !isEnd c cs && noneWithin isEnd width cs

/-- Nothing is missed behind a find if no end is inside another. -/
theorem markFinds_eq (h : ∀ c cs, isEnd c cs = true → noneWithin isEnd width cs = true)
    {skip : Nat} (hskip : noneWithin isEnd skip cs = true) :
    markFinds isEnd width skip cs = markEnds isEnd cs := by
  induction cs generalizing skip with
  | nil => simp [markFinds, markEnds]
  | cons c cs ih =>
    cases skip with
    | zero =>
      rw [markFinds, markEnds]
      split
      · next hend => rw [ih (h c cs hend)]
      · rw [ih rfl]
    | succ skip =>
      obtain ⟨hc, hcs⟩ := (Bool.and_eq_true _ _).mp hskip
      rw [markFinds, markEnds, ih hcs, if_neg (by simpa using hc)]

theorem exists_of_startsWith {isFirst : Char → Bool} (h : startsWith isFirst cs = true) :
    ∃ d ds, cs = d :: ds ∧ isFirst d = true := by
  cases cs with
  | nil => cases h
  | cons d ds => exact ⟨d, ds, rfl, h⟩

/-- A capitalized word starts with a capital letter and a small one. -/
theorem exists_of_startsCapitalized (h : startsCapitalized cs = true) :
    ∃ d e es, cs = d :: e :: es ∧ isUpperLetter d = true ∧ isLowerLetter e = true := by
  match cs, h with
  | d :: e :: es, h =>
    obtain ⟨hd, he⟩ := (Bool.and_eq_true _ _).mp h
    exact ⟨d, e, es, rfl, hd, he⟩

theorem isLowerLetter_of_isUpperLetter (h : isUpperLetter c = true) : isLowerLetter c = false := by
  cases hc : isLowerLetter c with
  | false => rfl
  | true => rw [isUpperLetter_of_isLowerLetter hc] at h; cases h

/-- Behind the end of a word in small letters there is a capital letter, which ends no such word. -/
theorem noneWithin_of_endsLowerWord (h : endsLowerWord c cs = true) :
    noneWithin endsLowerWord 1 cs = true := by
  obtain ⟨d, ds, rfl, hd⟩ := exists_of_startsWith ((Bool.and_eq_true _ _).mp h).2
  simp [noneWithin, endsLowerWord, isLowerLetter_of_isUpperLetter hd]

/-- Behind the end of an acronym there is a capitalized word, within which none ends. -/
theorem noneWithin_of_endsAcronym (h : endsAcronym c cs = true) :
    noneWithin endsAcronym 2 cs = true := by
  obtain ⟨d, e, es, rfl, hd, he⟩ := exists_of_startsCapitalized ((Bool.and_eq_true _ _).mp h).2
  have hupper := isUpperLetter_of_isLowerLetter he
  cases es <;> simp [noneWithin, endsAcronym, startsCapitalized, hupper]

/-- Behind a letter before a number there is the number, which is no letter. -/
theorem noneWithin_of_endsBeforeNumber (h : endsBeforeNumber c cs = true) :
    noneWithin endsBeforeNumber 1 cs = true := by
  obtain ⟨d, ds, rfl, hd⟩ := exists_of_startsWith ((Bool.and_eq_true _ _).mp h).2
  have hletter : isLetter d = false := by
    by_contra hletter
    rw [isNumber_of_isLetter (by simpa using hletter)] at hd
    cases hd
  simp [noneWithin, endsBeforeNumber, hletter]

theorem noneWithin_of_endsNumber (h : endsNumber c cs = true) :
    noneWithin endsNumber 2 cs = true := by
  obtain ⟨d, e, es, rfl, hd, he⟩ := exists_of_startsCapitalized ((Bool.and_eq_true _ _).mp h).2
  simp [noneWithin, endsNumber, isNumber_of_isUpperLetter hd, isNumber_of_isLowerLetter he]

/-- **Four searches.**  Each goes through the text once, takes up what it finds, and finds every end
of its kind. -/
theorem markWords_eq (cs : List Char) :
    markWords cs = joinRuns false
      (markFinds endsNumber 2 0 <| markFinds endsBeforeNumber 1 0 <| markFinds endsAcronym 2 0 <|
        markFinds endsLowerWord 1 0 cs) := by
  rw [markFinds_eq (fun _ _ => noneWithin_of_endsNumber) rfl,
    markFinds_eq (fun _ _ => noneWithin_of_endsBeforeNumber) rfl,
    markFinds_eq (fun _ _ => noneWithin_of_endsAcronym) rfl,
    markFinds_eq (fun _ _ => noneWithin_of_endsLowerWord) rfl, markWords]

/-! ### Texts with more underscores -/

/-- The first text is the second with underscores put in, each between two characters or for a gap
between words. -/
inductive Underscored : List Char → List Char → Prop where
  | nil : Underscored [] []
  | keep (c : Char) {ds cs : List Char} (h : Underscored ds cs) : Underscored (c :: ds) (c :: cs)
  | mark (gap : List Char) {ds cs : List Char} (hgap : ∀ c ∈ gap, isWordChar c = false)
      (h : Underscored ds cs) : Underscored ('_' :: ds) (gap ++ cs)

/-- A pass only puts in underscores. -/
theorem underscored_markEnds (isEnd : Char → List Char → Bool) (cs : List Char) :
    Underscored (markEnds isEnd cs) cs := by
  induction cs with
  | nil => exact .nil
  | cons c cs ih =>
    rw [markEnds]
    split
    · exact .keep c (.mark [] (by simp) ih)
    · exact .keep c ih

/-- In the middle of a run what is left of it is skipped. -/
theorem underscored_joinRuns (cs : List Char) :
    Underscored (joinRuns false cs) cs ∧ ∃ gap rest, cs = gap ++ rest ∧
      (∀ c ∈ gap, isWordChar c = false) ∧ Underscored (joinRuns true cs) rest := by
  induction cs with
  | nil => exact ⟨.nil, [], [], rfl, by simp, .nil⟩
  | cons c cs ih =>
    obtain ⟨hout, gap, rest, hcs, hgap, hin⟩ := ih
    rw [joinRuns, joinRuns]
    split
    · exact ⟨.keep c hout, [], c :: cs, rfl, by simp, .keep c hout⟩
    · next hc =>
      have hrun : ∀ d ∈ c :: gap, isWordChar d = false := by
        refine List.forall_mem_cons.mpr ⟨?_, hgap⟩
        simpa [isSnakeChar] using fun h : isWordChar c = true => hc (by simp [isSnakeChar, h])
      subst hcs
      exact ⟨.mark _ hrun hin, c :: gap, rest, rfl, hrun, hin⟩

namespace Underscored

variable (h : Underscored ds cs)
include h

/-- No characters come in but underscores. -/
theorem mem (hc : c ∈ ds) : c = '_' ∨ c ∈ cs := by
  induction h with
  | nil => cases hc
  | keep d _ ih =>
    rcases List.mem_cons.mp hc with rfl | hc
    · exact Or.inr List.mem_cons_self
    · exact (ih hc).imp_right (List.mem_cons_of_mem d)
  | mark _ _ _ ih =>
    rcases List.mem_cons.mp hc with rfl | hc
    · exact Or.inl rfl
    · exact (ih hc).imp_right (List.mem_append_right _)

/-- The letters and numbers stay, in their order. -/
theorem filter_isWordChar : ds.filter isWordChar = cs.filter isWordChar := by
  induction h with
  | nil => rfl
  | keep c _ ih => rw [List.filter_cons, List.filter_cons, ih]
  | mark gap hgap _ ih =>
    have hnone : gap.filter isWordChar = [] :=
      List.filter_eq_nil_iff.mpr fun c hc => by simp [hgap c hc]
    rw [List.filter_append, hnone, List.nil_append, List.filter_cons_of_neg (by decide), ih]

theorem startsWith {isFirst : Char → Bool} (hunderscore : isFirst '_' = false)
    (hds : Naming.startsWith isFirst ds = true) : Naming.startsWith isFirst cs = true := by
  cases h with
  | nil => cases hds
  | keep => exact hds
  | mark =>
    rw [Naming.startsWith, hunderscore] at hds
    cases hds

/-- If a text with underscores starts with a capitalized word, it did so before. -/
theorem startsCapitalized (hds : Naming.startsCapitalized ds = true) :
    Naming.startsCapitalized cs = true := by
  obtain ⟨d, e, es, rfl, hd, he⟩ := exists_of_startsCapitalized hds
  cases h with
  | mark => exact absurd hd (by decide)
  | keep _ h =>
    cases h with
    | mark => exact absurd he (by decide)
    | keep => exact hds

end Underscored

/-! ### Ends of one kind -/

/-- A word ends somewhere in the text. -/
def hasEnd (isEnd : Char → List Char → Bool) : List Char → Bool
  | [] => false
  | c :: cs => isEnd c cs || hasEnd isEnd cs

theorem hasEnd_eq_false_iff : hasEnd isEnd (c :: cs) = false ↔
    isEnd c cs = false ∧ hasEnd isEnd cs = false := Bool.or_eq_false_iff

theorem hasEnd_of_append {gap : List Char} (h : hasEnd isEnd (gap ++ cs) = false) :
    hasEnd isEnd cs = false := by
  induction gap with
  | nil => exact h
  | cons c gap ih => exact ih (hasEnd_eq_false_iff.mp h).2

/-- An underscore is no part of an end, so that none comes from underscores. -/
structure IsBroken (isEnd : Char → List Char → Bool) : Prop where
  underscore (cs : List Char) : isEnd '_' cs = false
  before (c : Char) (cs : List Char) : isEnd c ('_' :: cs) = false
  of_underscored {c : Char} {ds cs : List Char} (h : Underscored ds cs) (hds : isEnd c ds = true) :
    isEnd c cs = true

/-- An end takes a character and what begins behind it, neither of which has an underscore. -/
theorem isBroken_and {isLast : Char → Bool} {begins : List Char → Bool} (hlast : isLast '_' = false)
    (hbefore : ∀ cs, begins ('_' :: cs) = false)
    (hbegins : ∀ {ds cs}, Underscored ds cs → begins ds = true → begins cs = true) :
    IsBroken fun c cs => isLast c && begins cs where
  underscore cs := by rw [hlast, Bool.false_and]
  before c cs := by rw [hbefore, Bool.and_false]
  of_underscored h hds := by
    obtain ⟨hc, hds⟩ := (Bool.and_eq_true _ _).mp hds
    exact (Bool.and_eq_true _ _).mpr ⟨hc, hbegins h hds⟩

theorem startsCapitalized_underscore (cs : List Char) : startsCapitalized ('_' :: cs) = false := by
  have hupper : isUpperLetter '_' = false := by decide
  cases cs with
  | nil => rfl
  | cons => rw [startsCapitalized, hupper, Bool.false_and]

theorem isBroken_endsLowerWord : IsBroken endsLowerWord := by
  have hupper : isUpperLetter '_' = false := by decide
  exact isBroken_and (by decide) (fun _ => hupper) fun h => h.startsWith hupper

theorem isBroken_endsAcronym : IsBroken endsAcronym :=
  isBroken_and (by decide) startsCapitalized_underscore fun h => h.startsCapitalized

theorem isBroken_endsBeforeNumber : IsBroken endsBeforeNumber := by
  have hnumber : isNumber '_' = false := by decide
  exact isBroken_and (by decide) (fun _ => hnumber) fun h => h.startsWith hnumber

theorem isBroken_endsNumber : IsBroken endsNumber :=
  isBroken_and (by decide) startsCapitalized_underscore fun h => h.startsCapitalized

/-- **Underscores make no ends.**  A text without an end has none when there are underscores
in it. -/
theorem hasEnd_of_underscored (hend : IsBroken isEnd) (h : Underscored ds cs)
    (hcs : hasEnd isEnd cs = false) : hasEnd isEnd ds = false := by
  induction h with
  | nil => rfl
  | keep c h ih =>
    obtain ⟨hc, hcs⟩ := hasEnd_eq_false_iff.mp hcs
    refine hasEnd_eq_false_iff.mpr ⟨?_, ih hcs⟩
    by_contra hds
    rw [hend.of_underscored h (by simpa using hds)] at hc
    cases hc
  | mark _ _ _ ih => exact hasEnd_eq_false_iff.mpr ⟨hend.underscore _, ih (hasEnd_of_append hcs)⟩

/-- A pass leaves no end of its kind. -/
theorem hasEnd_markEnds (hend : IsBroken isEnd) (cs : List Char) :
    hasEnd isEnd (markEnds isEnd cs) = false := by
  induction cs with
  | nil => rfl
  | cons c cs ih =>
    rw [markEnds]
    split
    · exact hasEnd_eq_false_iff.mpr
        ⟨hend.before c _, hasEnd_eq_false_iff.mpr ⟨hend.underscore _, ih⟩⟩
    · next hc =>
      refine hasEnd_eq_false_iff.mpr ⟨?_, ih⟩
      by_contra hds
      exact hc (hend.of_underscored (underscored_markEnds isEnd cs) (by simpa using hds))

/-- A pass leaves a text alone that has no end of its kind. -/
theorem markEnds_of_hasEnd (h : hasEnd isEnd cs = false) : markEnds isEnd cs = cs := by
  induction cs with
  | nil => rfl
  | cons c cs ih =>
    obtain ⟨hc, hcs⟩ := hasEnd_eq_false_iff.mp h
    rw [markEnds, hc, if_neg Bool.false_ne_true, ih hcs]

/-! ### Passes one after the other -/

/-- The kinds of ends in the order in which they are marked. -/
def wordEnds : List (Char → List Char → Bool) :=
  [endsLowerWord, endsAcronym, endsBeforeNumber, endsNumber]

/-- Marks ends of all the kinds, kind by kind. -/
def markAll (ends : List (Char → List Char → Bool)) (cs : List Char) : List Char :=
  ends.foldl (fun cs isEnd => markEnds isEnd cs) cs

theorem markWords_eq_markAll (cs : List Char) :
    markWords cs = joinRuns false (markAll wordEnds cs) := rfl

variable {ends : List (Char → List Char → Bool)}

theorem isBroken_of_mem_wordEnds (h : isEnd ∈ wordEnds) : IsBroken isEnd := by
  simp only [wordEnds, List.mem_cons, List.not_mem_nil, or_false] at h
  obtain rfl | rfl | rfl | rfl := h
  · exact isBroken_endsLowerWord
  · exact isBroken_endsAcronym
  · exact isBroken_endsBeforeNumber
  · exact isBroken_endsNumber

/-- What a text keeps when underscores are put in it has after all passes. -/
theorem markWords_induction {motive : List Char → Prop}
    (h : ∀ {ds cs : List Char}, Underscored ds cs → motive cs → motive ds) (hcs : motive cs) :
    motive (markWords cs) := by
  refine h (underscored_joinRuns (markAll wordEnds cs)).1 ?_
  generalize wordEnds = ends
  induction ends generalizing cs with
  | nil => exact hcs
  | cons isEnd ends ih => exact ih (h (underscored_markEnds isEnd cs) hcs)

/-- No pass brings back an end of a kind that was there before it. -/
theorem hasEnd_markAll (hend : IsBroken isEnd) (h : isEnd ∈ ends ∨ hasEnd isEnd cs = false) :
    hasEnd isEnd (markAll ends cs) = false := by
  induction ends generalizing cs with
  | nil => exact h.resolve_left List.not_mem_nil
  | cons next ends ih =>
    refine ih ?_
    rcases h with h | h
    · rcases List.mem_cons.mp h with rfl | h
      · exact Or.inr (hasEnd_markEnds hend cs)
      · exact Or.inl h
    · exact Or.inr (hasEnd_of_underscored hend (underscored_markEnds next cs) h)

/-- Nothing is left to mark: the text is made of letters, numbers and underscores, and no word ends
in it without one. -/
structure IsMarked (cs : List Char) : Prop where
  snakeChars : ∀ c ∈ cs, isSnakeChar c = true
  ends : ∀ isEnd ∈ wordEnds, hasEnd isEnd cs = false

/-- **Marked texts.**  After all passes there is nothing left to mark. -/
theorem isMarked_markWords (cs : List Char) : IsMarked (markWords cs) where
  snakeChars _ := isSnakeChar_of_mem_joinRuns
  ends isEnd h := by
    have hend := isBroken_of_mem_wordEnds h
    exact hasEnd_of_underscored hend (underscored_joinRuns _).1 (hasEnd_markAll hend (.inl h))

/-- Runs are joined only where there are other separators than underscores. -/
theorem joinRuns_of_isSnakeChar (h : ∀ c ∈ cs, isSnakeChar c = true) :
    joinRuns false cs = cs := by
  induction cs with
  | nil => rfl
  | cons c cs ih =>
    obtain ⟨hc, hcs⟩ := List.forall_mem_cons.mp h
    rw [joinRuns, if_pos hc, ih hcs]

/-- Where there is no end of any kind, no pass changes the text. -/
theorem markAll_of_hasEnd (h : ∀ isEnd ∈ ends, hasEnd isEnd cs = false) : markAll ends cs = cs := by
  induction ends with
  | nil => rfl
  | cons isEnd ends ih =>
    obtain ⟨hcs, hends⟩ := List.forall_mem_cons.mp h
    rw [markAll, List.foldl_cons, markEnds_of_hasEnd hcs]
    exact ih hends

/-- A marked text stays as it is when it is marked again. -/
theorem IsMarked.markWords_eq (h : IsMarked cs) : markWords cs = cs := by
  rw [markWords_eq_markAll, markAll_of_hasEnd h.ends, joinRuns_of_isSnakeChar h.snakeChars]

/-! ### Marked texts in another case -/

/-- The letters of the text are not of both cases. -/
def OneCase (cs : List Char) : Prop :=
  (∀ c ∈ cs, isUpperLetter c = false) ∨ ∀ c ∈ cs, isLowerLetter c = false

theorem OneCase.of_cons (h : OneCase (c :: cs)) : OneCase cs :=
  h.imp (fun h => (List.forall_mem_cons.mp h).2) fun h => (List.forall_mem_cons.mp h).2

/-- There is no end of a kind that takes a capital and a small letter. -/
theorem hasEnd_of_oneCase (hcases : ∀ {c cs}, isEnd c cs = true →
      (∃ d ∈ c :: cs, isUpperLetter d = true) ∧ ∃ d ∈ c :: cs, isLowerLetter d = true)
    (h : OneCase cs) : hasEnd isEnd cs = false := by
  induction cs with
  | nil => rfl
  | cons c cs ih =>
    refine hasEnd_eq_false_iff.mpr ⟨?_, ih h.of_cons⟩
    by_contra hend
    obtain ⟨⟨d, hd, hupper⟩, e, he, hlower⟩ := hcases (by simpa using hend)
    rcases h with h | h
    · rw [h d hd] at hupper
      cases hupper
    · rw [h e he] at hlower
      cases hlower

/-- Letters before numbers are where they were, if letters and numbers stay what they are. -/
theorem hasEnd_endsBeforeNumber_map {f : Char → Char}
    (hletter : ∀ c ∈ cs, isLetter (f c) = isLetter c)
    (hnumber : ∀ c ∈ cs, isNumber (f c) = isNumber c) :
    hasEnd endsBeforeNumber (cs.map f) = hasEnd endsBeforeNumber cs := by
  induction cs with
  | nil => rfl
  | cons c cs ih =>
    obtain ⟨hc, hletter⟩ := List.forall_mem_cons.mp hletter
    have hnumber := (List.forall_mem_cons.mp hnumber).2
    have hfirst : startsWith isNumber (cs.map f) = startsWith isNumber cs := by
      cases cs with
      | nil => rfl
      | cons d ds => exact hnumber d List.mem_cons_self
    rw [List.map_cons, hasEnd, hasEnd, endsBeforeNumber, endsBeforeNumber, hc, hfirst,
      ih hletter hnumber]

/-- **Case.**  A text stays marked when its letters become letters of one case. -/
theorem IsMarked.map {f : Char → Char} (h : IsMarked cs)
    (hletter : ∀ c ∈ cs, isLetter (f c) = isLetter c)
    (hnumber : ∀ c ∈ cs, isNumber (f c) = isNumber c) (hunderscore : f '_' = '_')
    (hcase : OneCase (cs.map f)) : IsMarked (cs.map f) where
  snakeChars d hd := by
    obtain ⟨c, hc, rfl⟩ := List.mem_map.mp hd
    rcases (Bool.or_eq_true _ _).mp (h.snakeChars c hc) with hword | hmark
    · rw [isSnakeChar, isWordChar, hletter c hc, hnumber c hc, ← isWordChar, hword, Bool.true_or]
    · rw [eq_of_beq hmark, hunderscore]
      decide
  ends isEnd hmem := by
    simp only [wordEnds, List.mem_cons, List.not_mem_nil, or_false] at hmem
    obtain rfl | rfl | rfl | rfl := hmem
    · refine hasEnd_of_oneCase (fun {c cs} hend => ?_) hcase
      obtain ⟨hc, hd⟩ := (Bool.and_eq_true _ _).mp hend
      obtain ⟨d, ds, rfl, hd⟩ := exists_of_startsWith hd
      exact ⟨⟨d, by simp, hd⟩, c, by simp, hc⟩
    · refine hasEnd_of_oneCase (fun {c cs} hend => ?_) hcase
      obtain ⟨d, e, es, rfl, hd, he⟩ :=
        exists_of_startsCapitalized ((Bool.and_eq_true _ _).mp hend).2
      exact ⟨⟨d, by simp, hd⟩, e, by simp, he⟩
    · rw [hasEnd_endsBeforeNumber_map hletter hnumber]
      exact h.ends _ (by simp [wordEnds])
    · refine hasEnd_of_oneCase (fun {c cs} hend => ?_) hcase
      obtain ⟨d, e, es, rfl, hd, he⟩ :=
        exists_of_startsCapitalized ((Bool.and_eq_true _ _).mp hend).2
      exact ⟨⟨d, by simp, hd⟩, e, by simp, he⟩

/-! ### Names in ASCII -/

section Ascii

variable (h : IsAscii cs)
include h

/-- Marking brings in underscores only, which are in ASCII. -/
theorem isAscii_markWords : IsAscii (markWords cs) := by
  refine markWords_induction (fun hmark hcs c hc => ?_) h
  rcases hmark.mem hc with rfl | hc
  · decide
  · exact hcs c hc

/-- In ASCII a marked text is lowered character by character. -/
theorem snakeChars_eq_map : snakeChars cs = (markWords cs).map Char.toLower :=
  lowercase_eq_map (isAscii_markWords h)

/-- In ASCII a marked text is raised character by character. -/
theorem uppercase_snakeChars_eq_map :
    uppercase (snakeChars cs) = (markWords cs).map Char.toUpper := by
  rw [snakeChars_eq_map h, uppercase_eq_map (isAscii_markWords h).map_toLower, List.map_map]
  exact List.map_congr_left fun c _ => Char.toUpper_toLower_eq_toUpper c

theorem isMarked_map_toLower (hcs : IsMarked cs) : IsMarked (cs.map Char.toLower) := by
  refine hcs.map (fun c hc => isLetter_toLower (h c hc)) (fun c hc => isNumber_toLower (h c hc)) rfl
    (Or.inl (List.forall_mem_map.mpr fun c hc => ?_))
  rw [(isTabled_of_lt (toLower_lt (h c hc))).isUpperLetter, Char.isUpper_toLower_eq_false]

theorem isMarked_map_toUpper (hcs : IsMarked cs) : IsMarked (cs.map Char.toUpper) := by
  refine hcs.map (fun c hc => isLetter_toUpper (h c hc)) (fun c hc => isNumber_toUpper (h c hc)) rfl
    (Or.inr (List.forall_mem_map.mpr fun c hc => ?_))
  rw [(isTabled_of_lt (toUpper_lt (h c hc))).isLowerLetter, Char.isLower_toUpper_eq_false]

/-- A name in snake case has small letters, digits and underscores. -/
theorem isLower_or_isDigit_of_mem (hc : c ∈ snakeChars cs) :
    c.isLower = true ∨ c.isDigit = true ∨ c = '_' := by
  rw [snakeChars_eq_map h] at hc
  obtain ⟨d, hd, rfl⟩ := List.mem_map.mp hc
  rcases (Bool.or_eq_true _ _).mp ((isMarked_markWords cs).snakeChars d hd) with hword | hmark
  · rw [isWordChar_eq_isAlphanum (isAscii_markWords h d hd), ← isAlphanum_toLower,
      Char.isAlphanum, Char.isAlpha, Char.isUpper_toLower_eq_false, Bool.false_or,
      Bool.or_eq_true] at hword
    exact hword.imp_right Or.inl
  · rw [eq_of_beq hmark]
    exact Or.inr (Or.inr rfl)

/-- Without its underscores it has the letters and digits of the name, in small letters. -/
theorem filter_snakeChars : (snakeChars cs).filter (· ≠ '_') =
    (cs.filter Char.isAlphanum).map Char.toLower := by
  have hmarked : (markWords cs).filter isWordChar = cs.filter isWordChar :=
    markWords_induction (fun hmark hcs => hmark.filter_isWordChar.trans hcs) rfl
  rw [snakeChars_eq_map h, List.filter_map, ← filter_isWordChar h, ← hmarked]
  refine congrArg _ (List.filter_congr fun c hc => ?_)
  have hascii := isAscii_markWords h c hc
  rcases (Bool.or_eq_true _ _).mp ((isMarked_markWords cs).snakeChars c hc) with hword | hmark
  · have hne : c.toLower ≠ '_' := by
      intro hlower
      rw [isWordChar_eq_isAlphanum hascii, ← isAlphanum_toLower, hlower] at hword
      cases hword
    rw [hword]
    exact decide_eq_true hne
  · rw [eq_of_beq hmark]
    decide

end Ascii

/-- No number stands directly behind a letter. -/
theorem IsMarked.isDigit_eq_false {before after : List Char} {d : Char} (h : IsMarked cs)
    (hascii : IsAscii cs) (hcs : cs = before ++ c :: d :: after) (hc : c.isAlpha = true) :
    d.isDigit = false := by
  subst hcs
  have hend := (hasEnd_eq_false_iff.mp
    (hasEnd_of_append (h.ends endsBeforeNumber (by simp [wordEnds])))).1
  rw [endsBeforeNumber, isLetter_eq_isAlpha (hascii c (by simp)), hc, Bool.true_and] at hend
  rw [← isNumber_eq_isDigit (hascii d (by simp))]
  exact hend

/-- The conversion finds with one search for each kind of end all that there is to mark.  What it
adds to the letters and digits of the name are underscores, and a second conversion of either kind
changes no more than the case. -/
structure IsMarkedOnce (name : String) : Prop where
  searched : (snake name).toList = lowercase (joinRuns false
    (markFinds endsNumber 2 0 <| markFinds endsBeforeNumber 1 0 <| markFinds endsAcronym 2 0 <|
      markFinds endsLowerWord 1 0 name.toList))
  snake_screaming : snake (screaming name) = snake name
  screaming_snake : screaming (snake name) = screaming name
  snake_snake : snake (snake name) = snake name
  screaming_screaming : screaming (screaming name) = screaming name
  characters : ∀ c ∈ (snake name).toList, c.isLower = true ∨ c.isDigit = true ∨ c = '_'
  numbers : ∀ before c d after, (snake name).toList = before ++ c :: d :: after →
    c.isAlpha = true → d.isDigit = false
  letters : (snake name).toList.filter (· ≠ '_') =
    (name.toList.filter Char.isAlphanum).map Char.toLower

/-- **Snake case.**  The words of a name in ASCII are marked once, however often it is converted. -/
theorem isMarkedOnce_of_ascii {name : String} (h : IsAscii name.toList) : IsMarkedOnce name := by
  have hmarked := isMarked_markWords name.toList
  have hascii := isAscii_markWords h
  have hlower := isMarked_map_toLower hascii hmarked
  have hupper := isMarked_map_toUpper hascii hmarked
  have hsnake (name : String) : (snake name).toList = snakeChars name.toList :=
    String.toList_ofList
  have hscreaming (name : String) : (screaming name).toList = uppercase (snakeChars name.toList) :=
    String.toList_ofList
  constructor
  case searched => rw [hsnake, snakeChars, markWords_eq]
  case snake_screaming =>
    refine String.ext ?_
    rw [hsnake, hsnake, hscreaming, uppercase_snakeChars_eq_map h, snakeChars_eq_map h,
      snakeChars_eq_map hascii.map_toUpper, hupper.markWords_eq, List.map_map]
    exact List.map_congr_left fun c _ => Char.toLower_toUpper_eq_toLower c
  case screaming_snake =>
    refine String.ext ?_
    rw [hscreaming, hscreaming, hsnake, uppercase_snakeChars_eq_map h, snakeChars_eq_map h,
      uppercase_snakeChars_eq_map hascii.map_toLower, hlower.markWords_eq, List.map_map]
    exact List.map_congr_left fun c _ => Char.toUpper_toLower_eq_toUpper c
  case snake_snake =>
    refine String.ext ?_
    rw [hsnake, hsnake, snakeChars_eq_map h, snakeChars_eq_map hascii.map_toLower,
      hlower.markWords_eq, List.map_map]
    exact List.map_congr_left fun c _ => Char.toLower_toLower_eq_toLower c
  case screaming_screaming =>
    refine String.ext ?_
    rw [hscreaming, hscreaming, uppercase_snakeChars_eq_map h,
      uppercase_snakeChars_eq_map hascii.map_toUpper, hupper.markWords_eq, List.map_map]
    exact List.map_congr_left fun c _ => Char.toUpper_toUpper_eq_toUpper c
  case characters =>
    rw [hsnake]
    exact fun c => isLower_or_isDigit_of_mem h
  case numbers =>
    intro before c d after hname hc
    rw [hsnake, snakeChars_eq_map h] at hname
    exact hlower.isDigit_eq_false hascii.map_toLower hname hc
  case letters => rw [hsnake, filter_snakeChars h]

/-- A name with all kinds of ends, with underscores of its own and with other separators. -/
theorem isMarkedOnce_of_mixedName : IsAscii "_XMLHttp2Request--v10B2".toList ∧
    snake "_XMLHttp2Request--v10B2" = "_xml_http_2_request_v_10b_2" ∧
    screaming "_XMLHttp2Request--v10B2" = "_XML_HTTP_2_REQUEST_V_10B_2" ∧
    snake "_XML_HTTP_2_REQUEST_V_10B_2" = "_xml_http_2_request_v_10b_2" ∧
    IsMarkedOnce "_XMLHttp2Request--v10B2" := by
  have hascii : IsAscii "_XMLHttp2Request--v10B2".toList := by decide
  have hscreaming : screaming "_XMLHttp2Request--v10B2" = "_XML_HTTP_2_REQUEST_V_10B_2" := by
    decide
  have hsnake : snake "_XMLHttp2Request--v10B2" = "_xml_http_2_request_v_10b_2" := by
    decide
  have hmarked := isMarkedOnce_of_ascii hascii
  refine ⟨hascii, hsnake, hscreaming, ?_, hmarked⟩
  rw [← hscreaming, hmarked.snake_screaming, hsnake]

end SchemaBeans.Naming

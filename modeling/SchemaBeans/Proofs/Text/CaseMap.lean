import SchemaBeans.Text.CaseMap

/-!
# Text — texts without regard to case

A text is *folded* by lowering each character and then raising what comes of it (`fold`).  Texts
that come of one another by raising and lowering characters are the same when they are folded, for a
character is folded to the same when it has been lowered or raised before (`fold_lower`,
`fold_upper`).

The case maps are tables, and most of their entries shift a range of characters.  A table is looked
up for all characters of a range at once: no entry of the table moves them (`CharShift.misses`), or
one moves all of them by the same distance (`CharShift.target?`).  So the tables are gone through by
ranges; the characters are looked at one by one only where a table has no range of them.
-/

namespace SchemaBeans.Text

namespace CharShift

/-! ### Ranges in a table -/

/-- Such is the distance of a character that the shift moves from the first one. -/
def IsOffset (s : CharShift) (k : Nat) : Prop := k ≤ s.last - s.first ∧ k % s.stride = 0

variable {s : CharShift} {shifts : List CharShift} {base code image k : Nat}

/-- What holds for each number that is an offset of `s` holds for all offsets. -/
theorem of_all_range {P : Nat → Bool} (h : ((List.range (s.last - s.first + 1)).all fun k =>
    k % s.stride != 0 || P k) = true) (hk : s.IsOffset k) : P k = true := by
  have hin := List.all_eq_true.mp h k (List.mem_range.mpr (Nat.lt_succ_of_le hk.1))
  rw [hk.2] at hin
  simpa using hin

/-- What a table moves is at an offset of one of its shifts, and moved to the same offset. -/
theorem exists_isOffset_of_image? (h : image? shifts code = some image) :
    ∃ s ∈ shifts, ∃ k, s.IsOffset k ∧ code = s.first + k ∧ image = s.image + k := by
  induction shifts with
  | nil => cases h
  | cons s shifts ih =>
    rw [image?] at h
    split at h
    · cases h
    split at h
    · split at h
      · next hfirst hlast hstride =>
        cases h
        exact ⟨s, List.mem_cons_self, code - s.first,
          ⟨Nat.sub_le_sub_right hlast _, eq_of_beq hstride⟩, by omega, rfl⟩
      · cases h
    · obtain ⟨t, ht, hoffset⟩ := ih h
      exact ⟨t, List.mem_cons_of_mem _ ht, hoffset⟩

/-- A step of `t` divides every offset of `s`. -/
def divides (t s : CharShift) : Bool := s.last == s.first || s.stride % t.stride == 0

/-- So every offset of `s` is a number of steps of `t`. -/
theorem dvd_of_divides {t : CharShift} (h : divides t s = true) (hk : s.IsOffset k) :
    t.stride ∣ k := by
  obtain ⟨hspan, hstride⟩ := hk
  rcases (Bool.or_eq_true _ _).mp h with hsingle | hdvd
  · rw [eq_of_beq hsingle, Nat.sub_self, Nat.le_zero] at hspan
    exact hspan ▸ Nat.dvd_zero _
  · exact Nat.dvd_trans (Nat.dvd_of_mod_eq_zero (eq_of_beq hdvd)) (Nat.dvd_of_mod_eq_zero hstride)

/-- No shift of the table moves a code at an offset of `s` from `base`: their ranges are apart, or
the steps of the one fall between those of the other. -/
def misses (s : CharShift) (base : Nat) : List CharShift → Bool
  | [] => true
  | t :: ts =>
    if base + (s.last - s.first) < t.first then true
    else if t.last < base then misses s base ts
    else divides t s && base % t.stride != t.first % t.stride && misses s base ts

/-- **Missed ranges.**  If the shifts of a table miss a range, none of its characters is moved. -/
theorem image?_of_misses (h : misses s base shifts = true) (hk : s.IsOffset k) :
    image? shifts (base + k) = none := by
  have hspan := hk.1
  induction shifts with
  | nil => rfl
  | cons t ts ih =>
    rw [misses] at h
    rw [image?]
    split at h
    · exact if_pos (by omega)
    split at h
    · split
      · rfl
      · rw [if_neg (by omega), ih h]
    · obtain ⟨hbetween, hrest⟩ := (Bool.and_eq_true _ _).mp h
      obtain ⟨hdivides, hne⟩ := (Bool.and_eq_true _ _).mp hbetween
      split
      · rfl
      next hfirst =>
      split
      · refine if_neg fun hstep => bne_iff_ne.mp hne ?_
        -- a step of `t` would make `base` a step of it as well
        obtain ⟨q, hq⟩ := Nat.dvd_of_mod_eq_zero (eq_of_beq hstep)
        obtain ⟨r, rfl⟩ := dvd_of_divides hdivides hk
        have hsame : base + t.stride * r = t.first + t.stride * q := by omega
        rw [← Nat.add_mul_mod_self_left base, hsame, Nat.add_mul_mod_self_left]
      · exact ih hrest

/-- Where a table moves `base` to, if one shift of it moves all codes at offsets of `s` from
`base`. -/
def target? (s : CharShift) (base : Nat) : List CharShift → Option Nat
  | [] => none
  | t :: ts =>
    if base < t.first then none
    else if t.last < base then target? s base ts
    else if base + (s.last - s.first) ≤ t.last && divides t s &&
        (base - t.first) % t.stride == 0 then
      some (t.image + (base - t.first))
    else none

/-- **Moved ranges.**  If one shift of a table moves a range, all its characters go the same
distance. -/
theorem image?_of_target? (h : target? s base shifts = some image) (hk : s.IsOffset k) :
    image? shifts (base + k) = some (image + k) := by
  have hspan := hk.1
  induction shifts with
  | nil => cases h
  | cons t ts ih =>
    rw [target?] at h
    rw [image?]
    split at h
    · cases h
    split at h
    · rw [if_neg (by omega), if_neg (by omega), ih h]
    split at h
    · next hfirst _ hwithin =>
      simp only [Bool.and_eq_true, decide_eq_true_eq, beq_iff_eq] at hwithin
      obtain ⟨⟨hlast, hdivides⟩, hbase⟩ := hwithin
      cases h
      have hsub : base + k - t.first = base - t.first + k := by omega
      have hstep : t.stride ∣ base - t.first + k :=
        Nat.dvd_add (Nat.dvd_of_mod_eq_zero hbase) (dvd_of_divides hdivides hk)
      rw [if_neg (by omega), if_pos (by omega), hsub,
        if_pos (beq_iff_eq.mpr (Nat.mod_eq_zero_of_dvd hstep)), Nat.add_assoc]
    · cases h

end CharShift

/-! ### Characters -/

theorem toNat_ofNat_of_isValidChar {code : Nat} (h : code.isValidChar) :
    (Char.ofNat code).toNat = code := by
  rw [Char.ofNat, dif_pos h]
  rfl

/-- Only the first character stands for other codes than its own: for those of no character. -/
theorem eq_toNat_of_eq_ofNat {c : Char} {code : Nat} (h : c = Char.ofNat code)
    (hzero : c ≠ Char.ofNat 0) : code = c.toNat := by
  by_cases hvalid : code.isValidChar
  · rw [h, toNat_ofNat_of_isValidChar hvalid]
  · exact absurd (h.trans (dif_neg hvalid)) hzero

section Convert

variable {expansions : List (Nat × List Nat)} {shifts : List CharShift} {c : Char}

/-- A character is expanded, shifted, or left as it is. -/
theorem convert_cases (expansions : List (Nat × List Nat)) (shifts : List CharShift) (c : Char) :
    (∃ image, (c.toNat, image) ∈ expansions ∧
        convert expansions shifts c = image.map Char.ofNat) ∨
      (∃ s ∈ shifts, ∃ k, s.IsOffset k ∧ c.toNat = s.first + k ∧
        convert expansions shifts c = [Char.ofNat (s.image + k)]) ∨
      convert expansions shifts c = [c] := by
  rw [convert]
  split
  · next image hlookup =>
    obtain ⟨before, after, rfl, -⟩ := List.lookup_eq_some_iff.mp hlookup
    exact Or.inl ⟨image, List.mem_append_right _ List.mem_cons_self, rfl⟩
  · split
    · next image himage =>
      obtain ⟨s, hs, k, hk, hcode, rfl⟩ := CharShift.exists_isOffset_of_image? himage
      exact Or.inr (Or.inl ⟨s, hs, k, hk, hcode, rfl⟩)
    · exact Or.inr (Or.inr rfl)

/-- The codes at offsets of `s` from `base` are those of characters, and the table expands none of
them. -/
def isPlain (expansions : List (Nat × List Nat)) (s : CharShift) (base : Nat) : Bool :=
  (base + (s.last - s.first) < 0xd800 ||
      0xdfff < base && base + (s.last - s.first) < 0x110000) &&
    expansions.all fun e => e.1 < base || base + (s.last - s.first) < e.1

/-- The codes of a plain range are those of characters. -/
theorem isValidChar_of_isPlain {s : CharShift} {base k : Nat}
    (h : isPlain expansions s base = true) (hk : s.IsOffset k) : (base + k).isValidChar := by
  have hspan := hk.1
  simp only [isPlain, Bool.and_eq_true, Bool.or_eq_true, decide_eq_true_eq] at h
  exact h.1.imp (fun hlow => by omega) fun hhigh => ⟨by omega, by omega⟩

/-- A character of a plain range becomes one character, by the table of shifts alone. -/
theorem convert_of_isPlain {s : CharShift} {base k : Nat}
    (h : isPlain expansions s base = true) (hk : s.IsOffset k) :
    convert expansions shifts (Char.ofNat (base + k)) =
      [Char.ofNat ((CharShift.image? shifts (base + k)).getD (base + k))] := by
  have hlookup : expansions.lookup (base + k) = none := by
    rw [List.lookup_eq_none_iff]
    intro e he
    have hapart := List.all_eq_true.mp ((Bool.and_eq_true _ _).mp h).2 e he
    simp only [Bool.or_eq_true, decide_eq_true_eq] at hapart
    have hspan := hk.1
    exact bne_iff_ne.mpr (by omega)
  rw [convert, toNat_ofNat_of_isValidChar (isValidChar_of_isPlain h hk), hlookup]
  cases CharShift.image? shifts (base + k) <;> rfl

/-- A table without empty images leaves something of every character. -/
theorem convert_ne_nil (h : expansions.all (fun e => !e.2.isEmpty) = true) (c : Char) :
    convert expansions shifts c ≠ [] := by
  obtain ⟨image, hmem, hc⟩ | ⟨s, -, k, -, -, hc⟩ | hc := convert_cases expansions shifts c
  · have himage := List.all_eq_true.mp h _ hmem
    rw [hc, Ne, List.map_eq_nil_iff]
    intro hnil
    simp [hnil] at himage
  · simp [hc]
  · simp [hc]

/-- No image in the tables is the code. -/
def avoids (expansions : List (Nat × List Nat)) (shifts : List CharShift) (code : Nat) : Bool :=
  expansions.all (fun e => !e.2.contains code) &&
    shifts.all fun s => code < s.image || s.image + (s.last - s.first) < code

/-- A character whose code no image is comes of no other character. -/
theorem not_mem_convert {d : Char} (hd : avoids expansions shifts d.toNat = true)
    (hzero : d ≠ Char.ofNat 0) (hc : c ≠ d) : d ∉ convert expansions shifts c := by
  obtain ⟨hexpansions, hshifts⟩ := (Bool.and_eq_true _ _).mp hd
  obtain ⟨image, hmem, h⟩ | ⟨s, hs, k, hk, -, h⟩ | h := convert_cases expansions shifts c
  · rw [h]
    intro hin
    obtain ⟨code, hin, he⟩ := List.mem_map.mp hin
    have hnot := List.all_eq_true.mp hexpansions _ hmem
    rw [eq_toNat_of_eq_ofNat he.symm hzero] at hin
    simp [hin] at hnot
  · rw [h, List.mem_singleton]
    intro he
    have hspan := hk.1
    have hapart := List.all_eq_true.mp hshifts s hs
    simp only [Bool.or_eq_true, decide_eq_true_eq] at hapart
    have hcode := eq_toNat_of_eq_ofNat he hzero
    omega
  · rw [h, List.mem_singleton]
    exact hc.symm

end Convert

/-! ### Folded characters -/

/-- A character without regard to case: lowered, and what comes of it raised. -/
def foldChar (c : Char) : List Char := (lower c).flatMap upper

/-- A text without regard to case. -/
def fold (cs : List Char) : List Char := cs.flatMap foldChar

theorem fold_singleton (c : Char) : fold [c] = foldChar c := List.flatMap_singleton _ _

/-- What a shift leads to is in lower case. -/
def leadsToLower (s : CharShift) : Bool :=
  isPlain Table.lowerExpansions s s.image && s.misses s.image Table.lowerShifts

/-- Such a shift leads to characters that are lowered to themselves. -/
theorem lower_of_leadsToLower {s : CharShift} {k : Nat} (h : leadsToLower s = true)
    (hk : s.IsOffset k) : lower (Char.ofNat (s.image + k)) = [Char.ofNat (s.image + k)] := by
  obtain ⟨hplain, hmisses⟩ := (Bool.and_eq_true _ _).mp h
  rw [lower, convert_of_isPlain hplain hk, CharShift.image?_of_misses hmisses hk]
  rfl

/-- A character that has been lowered is in lower case. -/
theorem lower_lower (c : Char) : (lower c).flatMap lower = lower c := by
  obtain ⟨image, hmem, hc⟩ | ⟨s, hs, k, hk, -, hc⟩ | hc :=
    convert_cases Table.lowerExpansions Table.lowerShifts c
  · have htable : Table.lowerExpansions.all (fun e =>
        (e.2.map Char.ofNat).flatMap lower == e.2.map Char.ofNat) = true := by decide +kernel
    rw [lower, hc]
    exact eq_of_beq (List.all_eq_true.mp htable _ hmem)
  · have htable : Table.lowerShifts.all leadsToLower = true := by decide +kernel
    rw [lower, hc, List.flatMap_singleton,
      lower_of_leadsToLower (List.all_eq_true.mp htable s hs) hk]
  · rw [lower, hc, List.flatMap_singleton]
    exact hc

/-- The table of small letters moves what the shift leads to back. -/
def comesBack (s : CharShift) : Bool :=
  isPlain Table.lowerExpansions s s.image &&
    s.target? s.image Table.lowerShifts == some s.first

/-- What the shift leads to is folded as what it leads from, looked at character by character. -/
def keepsFold (s : CharShift) : Bool :=
  (List.range (s.last - s.first + 1)).all fun k =>
    k % s.stride != 0 ||
      foldChar (Char.ofNat (s.image + k)) == foldChar (Char.ofNat (s.first + k))

/-- Such a shift leads to characters that are folded as where they come from. -/
theorem foldChar_of_comesBack {s : CharShift} {k : Nat} (h : comesBack s = true)
    (hk : s.IsOffset k) :
    foldChar (Char.ofNat (s.image + k)) = foldChar (Char.ofNat (s.first + k)) := by
  obtain ⟨hplain, htarget⟩ := (Bool.and_eq_true _ _).mp h
  have hback : lower (Char.ofNat (s.image + k)) = [Char.ofNat (s.first + k)] := by
    rw [lower, convert_of_isPlain hplain hk, CharShift.image?_of_target? (eq_of_beq htarget) hk]
    rfl
  have hlow : lower (Char.ofNat (s.first + k)) = [Char.ofNat (s.first + k)] := by
    have htwice := lower_lower (Char.ofNat (s.image + k))
    rwa [hback, List.flatMap_singleton] at htwice
  rw [foldChar, foldChar, hback, hlow]

/-- Such a shift does so too, which was looked at character by character. -/
theorem foldChar_of_keepsFold {s : CharShift} {k : Nat} (h : keepsFold s = true)
    (hk : s.IsOffset k) :
    foldChar (Char.ofNat (s.image + k)) = foldChar (Char.ofNat (s.first + k)) := by
  exact eq_of_beq (CharShift.of_all_range h hk)

/-- A character is folded to the same when it has been lowered before. -/
theorem fold_lower (c : Char) : fold (lower c) = foldChar c := by
  calc fold (lower c)
      = ((lower c).flatMap lower).flatMap upper := List.flatMap_assoc.symm
    _ = foldChar c := by rw [lower_lower]; rfl

/-- A character is folded to the same when it has been raised before. -/
theorem fold_upper (c : Char) : fold (upper c) = foldChar c := by
  obtain ⟨image, hmem, hc⟩ | ⟨s, hs, k, hk, hcode, hc⟩ | hc :=
    convert_cases Table.upperExpansions Table.upperShifts c
  · have htable : Table.upperExpansions.all (fun e =>
        foldChar (Char.ofNat e.1) == fold (e.2.map Char.ofNat)) = true := by decide +kernel
    have hin := eq_of_beq (List.all_eq_true.mp htable _ hmem)
    rw [Char.ofNat_toNat] at hin
    rw [upper, hc, hin]
  · have htable : Table.upperShifts.all (fun s => comesBack s || keepsFold s) = true := by
      decide +kernel
    obtain rfl : c = Char.ofNat (s.first + k) := by rw [← hcode, Char.ofNat_toNat]
    rw [upper, hc, fold_singleton]
    rcases (Bool.or_eq_true _ _).mp (List.all_eq_true.mp htable s hs) with hback | hkeeps
    · exact foldChar_of_comesBack hback hk
    · exact foldChar_of_keepsFold hkeeps hk
  · rw [upper, hc, fold_singleton]

/-- Something is left of every character. -/
theorem foldChar_ne_nil (c : Char) : foldChar c ≠ [] := by
  have hlower : lower c ≠ [] := convert_ne_nil (by decide) c
  obtain ⟨d, rest, hd⟩ := List.exists_cons_of_ne_nil hlower
  have hupper : upper d ≠ [] := convert_ne_nil (by decide) d
  rw [foldChar, hd, List.flatMap_cons]
  exact List.append_ne_nil_of_left_ne_nil hupper _

/-- No other character is raised or lowered to the character. -/
structure IsAlone (d : Char) : Prop where
  ne_zero : d ≠ Char.ofNat 0
  lower : avoids Table.lowerExpansions Table.lowerShifts d.toNat = true
  upper : avoids Table.upperExpansions Table.upperShifts d.toNat = true

section IsAlone

variable {c d : Char} (hd : IsAlone d) (hc : c ≠ d)
include hd hc

theorem IsAlone.not_mem_lower : d ∉ Text.lower c := not_mem_convert hd.lower hd.ne_zero hc

theorem IsAlone.not_mem_upper : d ∉ Text.upper c := not_mem_convert hd.upper hd.ne_zero hc

/-- No other character is folded to one that is alone. -/
theorem IsAlone.not_mem_foldChar : d ∉ foldChar c := by
  intro h
  obtain ⟨e, he, hd'⟩ := List.mem_flatMap.mp h
  have hne : e ≠ d := fun heq => hd.not_mem_lower hc (heq ▸ he)
  exact hd.not_mem_upper hne hd'

end IsAlone

theorem isAlone_slash : IsAlone '/' :=
  ⟨by decide, by decide, by decide⟩

theorem isAlone_underscore : IsAlone '_' :=
  ⟨by decide, by decide, by decide⟩

theorem isAlone_feed : IsAlone '\n' :=
  ⟨by decide, by decide, by decide⟩

theorem isAlone_quote : IsAlone '"' :=
  ⟨by decide, by decide, by decide⟩

theorem isAlone_dot : IsAlone '.' :=
  ⟨by decide, by decide, by decide⟩

/-- The tables have no image that stands for the first character: none is zero, and all are codes of
characters. -/
def avoidsNull (expansions : List (Nat × List Nat)) (shifts : List CharShift) : Bool :=
  expansions.all (fun e => (e.2.map Char.ofNat).all (· != '\x00')) &&
    shifts.all fun s => isPlain [] s s.image && s.image != 0

/-- The first character stands for all codes of no character, so it needs more than that no image is
its own code. -/
theorem null_not_mem_convert {expansions : List (Nat × List Nat)} {shifts : List CharShift}
    {c : Char} (h : avoidsNull expansions shifts = true) (hc : c ≠ '\x00') :
    '\x00' ∉ convert expansions shifts c := by
  obtain ⟨hexpansions, hshifts⟩ := (Bool.and_eq_true _ _).mp h
  obtain ⟨image, hmem, himage⟩ | ⟨s, hs, k, hk, -, himage⟩ | himage :=
    convert_cases expansions shifts c
  · rw [himage]
    intro hin
    have hne := List.all_eq_true.mp (List.all_eq_true.mp hexpansions _ hmem) _ hin
    exact absurd hne (by decide)
  · rw [himage, List.mem_singleton]
    intro he
    obtain ⟨hplain, hzero⟩ := (Bool.and_eq_true _ _).mp (List.all_eq_true.mp hshifts s hs)
    have hcode := toNat_ofNat_of_isValidChar (isValidChar_of_isPlain hplain hk)
    rw [← he] at hcode
    have hnull : '\x00'.toNat = 0 := rfl
    exact bne_iff_ne.mp hzero (by omega)
  · rw [himage, List.mem_singleton]
    exact hc.symm

/-- No other character is raised or lowered to the character, as it appears in texts. -/
structure IsUnreached (d : Char) : Prop where
  not_mem_lower {c : Char} (hc : c ≠ d) : d ∉ Text.lower c
  not_mem_upper {c : Char} (hc : c ≠ d) : d ∉ Text.upper c

theorem IsAlone.isUnreached {d : Char} (hd : IsAlone d) : IsUnreached d :=
  ⟨hd.not_mem_lower, hd.not_mem_upper⟩

theorem isUnreached_null : IsUnreached '\x00' :=
  ⟨null_not_mem_convert (by decide), null_not_mem_convert (by decide)⟩

/-! ### Folded texts -/

@[simp] theorem fold_nil : fold [] = [] := rfl

@[simp] theorem fold_cons (c : Char) (cs : List Char) : fold (c :: cs) = foldChar c ++ fold cs :=
  List.flatMap_cons

@[simp] theorem fold_append (cs ds : List Char) : fold (cs ++ ds) = fold cs ++ fold ds :=
  List.flatMap_append

theorem fold_eq_nil_iff {cs : List Char} : fold cs = [] ↔ cs = [] := by
  cases cs with
  | nil => simp
  | cons c cs => simp [foldChar_ne_nil]

/-- A sigma is folded to a capital one, at the end of a word as elsewhere. -/
theorem foldChar_sigma (isFinal : Bool) :
    foldChar (if isFinal then 'ς' else 'σ') = foldChar 'Σ' := by
  cases isFinal <;> decide

/-- **Lowering and folding.**  A lowered text is folded to what the text is, a final sigma being
folded like others. -/
theorem fold_lowerFrom (afterCased : Bool) (cs : List Char) :
    fold (lowerFrom afterCased cs) = fold cs := by
  induction cs generalizing afterCased with
  | nil => rfl
  | cons c cs ih =>
    rw [lowerFrom]
    split
    · next hc => rw [fold_cons, foldChar_sigma, ih, hc, fold_cons]
    · rw [fold_append, fold_lower, ih, fold_cons]

theorem fold_lowercase (cs : List Char) : fold (lowercase cs) = fold cs := fold_lowerFrom false cs

/-- With its first character raised a text is folded to the same. -/
theorem fold_upperFirst (cs : List Char) : fold (upperFirst cs) = fold cs := by
  cases cs with
  | nil => rfl
  | cons c cs => rw [upperFirst, fold_append, fold_upper, fold_cons]

theorem fold_lowerFirst (cs : List Char) : fold (lowerFirst cs) = fold cs := by
  cases cs with
  | nil => rfl
  | cons c cs => rw [lowerFirst, fold_append, fold_lower, fold_cons]

/-- To lower a text and raise it again is to fold it. -/
theorem uppercase_lowerFrom (afterCased : Bool) (cs : List Char) :
    uppercase (lowerFrom afterCased cs) = fold cs := by
  induction cs generalizing afterCased with
  | nil => rfl
  | cons c cs ih =>
    rw [lowerFrom]
    split
    · next hc =>
      have hsigma : upper (if afterCased && !startsCased cs then 'ς' else 'σ') = foldChar 'Σ' := by
        split <;> decide
      rw [uppercase, List.flatMap_cons, hsigma, hc, fold_cons]
      exact congrArg _ (ih _)
    · rw [uppercase, List.flatMap_append, fold_cons]
      exact congrArg _ (ih _)

/-- To fold a text is to lower it and to raise the outcome. -/
theorem uppercase_lowercase (cs : List Char) : uppercase (lowercase cs) = fold cs :=
  uppercase_lowerFrom false cs

end SchemaBeans.Text

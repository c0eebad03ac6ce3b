/-!
# Text — Split

Cutting a text at every character of a class.  A cut leaves one piece more than there are
separators, so neighbouring separators leave an empty piece between them; `joinWith` puts the
pieces of a cut at one character together again.
-/

namespace SchemaBeans.Text

/-- Puts a character in front of the first piece. -/
def consFirst (c : Char) : List (List Char) → List (List Char)
  | [] => [[c]]
  | piece :: pieces => (c :: piece) :: pieces

/-- The pieces of a text between the characters of a class. -/
def split (isSeparator : Char → Bool) : List Char → List (List Char)
  | [] => [[]]
  | c :: cs =>
    if isSeparator c then [] :: split isSeparator cs else consFirst c (split isSeparator cs)

/-- The pieces of a text between the occurrences of one character. -/
def splitOn (separator : Char) : List Char → List (List Char) := split (· == separator)

/-- The pieces with one character between each two of them. -/
def joinWith (separator : Char) : List (List Char) → List Char
  | [] => []
  | [piece] => piece
  | piece :: pieces => piece ++ separator :: joinWith separator pieces

@[simp] theorem consFirst_ne_nil (c : Char) (pieces : List (List Char)) :
    consFirst c pieces ≠ [] := by
  cases pieces <;> simp [consFirst]

@[simp] theorem split_ne_nil (isSeparator : Char → Bool) (cs : List Char) :
    split isSeparator cs ≠ [] := by
  cases cs with
  | nil => simp [split]
  | cons c cs => rw [split]; split <;> simp

/-- A cut loses nothing. -/
theorem joinWith_splitOn (separator : Char) (cs : List Char) :
    joinWith separator (splitOn separator cs) = cs := by
  induction cs with
  | nil => rfl
  | cons c cs ih =>
    have ne : splitOn separator cs ≠ [] := split_ne_nil _ _
    have step : splitOn separator (c :: cs) =
        if (c == separator) = true then [] :: splitOn separator cs
        else consFirst c (splitOn separator cs) := rfl
    rw [step]
    cases hs : splitOn separator cs with
    | nil => exact absurd hs ne
    | cons piece pieces =>
      rw [hs] at ih
      split
      · next h => simp [joinWith, ih, eq_of_beq h]
      · cases pieces <;> simpa [consFirst, joinWith] using ih

/-- Texts with the same pieces are the same. -/
theorem eq_of_map_splitOn {separator : Char} {text text' : String}
    (h : (splitOn separator text.toList).map String.ofList =
      (splitOn separator text'.toList).map String.ofList) : text = text' := by
  have hpieces : splitOn separator text.toList = splitOn separator text'.toList :=
    (List.map_inj_right fun _ _ he => String.ofList_injective he).mp h
  refine String.ext ?_
  rw [← joinWith_splitOn separator text.toList, hpieces, joinWith_splitOn]

/-- The pieces are what is left without the separators. -/
theorem flatten_split (isSeparator : Char → Bool) (cs : List Char) :
    (split isSeparator cs).flatten = cs.filter (!isSeparator ·) := by
  induction cs with
  | nil => rfl
  | cons c cs ih =>
    rw [split, List.filter_cons, ← ih]
    cases hc : isSeparator c with
    | true => rfl
    | false =>
      cases hs : split isSeparator cs with
      | nil => exact absurd hs (split_ne_nil _ _)
      | cons piece pieces => rfl

/-- A piece of a cut has no character of the class. -/
theorem eq_false_of_mem_split {isSeparator : Char → Bool} {cs piece : List Char}
    (hpiece : piece ∈ split isSeparator cs) {c : Char} (hc : c ∈ piece) :
    isSeparator c = false := by
  induction cs generalizing piece with
  | nil =>
    obtain rfl := List.mem_singleton.mp hpiece
    cases hc
  | cons d cs ih =>
    rw [split] at hpiece
    split at hpiece
    · rcases List.mem_cons.mp hpiece with rfl | hpiece
      · cases hc
      · exact ih hpiece hc
    · next hd =>
      cases hs : split isSeparator cs with
      | nil => exact absurd hs (split_ne_nil _ _)
      | cons first rest =>
        rw [hs] at hpiece ih
        rcases List.mem_cons.mp hpiece with rfl | hpiece
        · rcases List.mem_cons.mp hc with rfl | hc
          · exact Bool.eq_false_iff.mpr hd
          · exact ih List.mem_cons_self hc
        · exact ih (List.mem_cons_of_mem _ hpiece) hc

/-- A text is cut before and after a separator in it. -/
theorem splitOn_append (separator : Char) (cs ds : List Char) :
    splitOn separator (cs ++ separator :: ds) = splitOn separator cs ++ splitOn separator ds := by
  induction cs with
  | nil => simp [splitOn, split]
  | cons c cs ih =>
    simp only [splitOn, List.cons_append, split] at ih ⊢
    rw [ih]
    split
    · rfl
    · cases hs : split (· == separator) cs with
      | nil => exact absurd hs (split_ne_nil _ _)
      | cons piece pieces => rfl

/-- A text without the separator is one piece. -/
theorem splitOn_of_not_mem {separator : Char} {cs : List Char} (h : separator ∉ cs) :
    splitOn separator cs = [cs] := by
  induction cs with
  | nil => rfl
  | cons c cs ih =>
    obtain ⟨hc, hcs⟩ := not_or.mp fun e => h (List.mem_cons.mpr e)
    simp only [splitOn, split] at ih ⊢
    rw [if_neg (by simpa using Ne.symm hc), ih hcs]
    rfl

/-- Pieces without the separator are found again when they have been put together. -/
theorem splitOn_joinWith {separator : Char} {pieces : List (List Char)} (hne : pieces ≠ [])
    (h : ∀ piece ∈ pieces, separator ∉ piece) :
    splitOn separator (joinWith separator pieces) = pieces := by
  induction pieces with
  | nil => exact absurd rfl hne
  | cons piece pieces ih =>
    have hpiece := h piece List.mem_cons_self
    cases pieces with
    | nil => exact splitOn_of_not_mem hpiece
    | cons next rest =>
      rw [joinWith, splitOn_append, splitOn_of_not_mem hpiece,
        ih (List.cons_ne_nil _ _) fun p hp => h p (List.mem_cons_of_mem _ hp)]
      · rfl
      · exact List.cons_ne_nil _ _

end SchemaBeans.Text

import SchemaBeans.Naming.Snake
import SchemaBeans.Proofs.Text.CaseMap
import SchemaBeans.Text.Split

/-!
# Naming — Names that become the same in screaming snake case

An identifier in screaming snake case is the name's words without regard to case, with underscores
between them (`uppercase_snakeChars`).  No other character comes to an underscore by a change of
case, so the words are found again in the identifier: two names become the same exactly if their
words are the same (`screaming_eq_iff`).

Nothing is left of the empty name only (`screaming_eq_empty_iff`), since separators become an
underscore.
-/

namespace SchemaBeans.Naming

open SchemaBeans.Text

/-- The words of a name in snake case, without regard to case; neighbouring underscores have an
empty word between them. -/
def snakeWords (name : String) : List (List Char) :=
  (splitOn '_' (markWords name.toList)).map fold

/-! ### Words of an identifier -/

theorem foldChar_underscore : foldChar '_' = ['_'] := by decide

/-- Pieces may be folded before they are joined, since underscores stay underscores. -/
theorem fold_joinWith (pieces : List (List Char)) :
    fold (joinWith '_' pieces) = joinWith '_' (pieces.map fold) := by
  induction pieces with
  | nil => rfl
  | cons piece pieces ih =>
    cases pieces with
    | nil => rfl
    | cons next rest =>
      rw [joinWith, fold_append, fold_cons, foldChar_underscore, ih]
      · rfl
      · exact List.cons_ne_nil _ _

theorem not_mem_fold {d : Char} (hd : IsAlone d) {cs : List Char} (h : d ∉ cs) : d ∉ fold cs := by
  intro hmem
  obtain ⟨c, hc, hmem⟩ := List.mem_flatMap.mp hmem
  exact hd.not_mem_foldChar (fun he => h (he ▸ hc)) hmem

/-- An identifier in screaming snake case is the name's words with underscores between them. -/
theorem uppercase_snakeChars (name : String) :
    uppercase (snakeChars name.toList) = joinWith '_' (snakeWords name) := by
  rw [snakeChars, uppercase_lowercase, snakeWords, ← fold_joinWith, joinWith_splitOn]

/-- The words are found again in the identifier. -/
theorem splitOn_screaming (name : String) :
    splitOn '_' (screaming name).toList = snakeWords name := by
  rw [screaming, String.toList_ofList, uppercase_snakeChars]
  refine splitOn_joinWith ?_ fun piece hpiece => ?_
  · exact fun h => split_ne_nil _ _ (List.map_eq_nil_iff.mp h)
  · obtain ⟨word, hword, rfl⟩ := List.mem_map.mp hpiece
    refine not_mem_fold isAlone_underscore fun hmem => ?_
    exact absurd (eq_false_of_mem_split hword hmem) (by decide)

/-- **Screaming snake case.**  Two names become the same exactly if their words are the same. -/
theorem screaming_eq_iff {name name' : String} :
    screaming name = screaming name' ↔ snakeWords name = snakeWords name' := by
  refine ⟨fun h => ?_, fun h => ?_⟩
  · rw [← splitOn_screaming, h, splitOn_screaming]
  · rw [screaming, screaming, uppercase_snakeChars, uppercase_snakeChars, h]

/-! ### Characters of an identifier -/

/-- When runs are joined, letters, numbers and underscores are left. -/
theorem isSnakeChar_of_mem_joinRuns {inRun : Bool} {cs : List Char} {d : Char}
    (h : d ∈ joinRuns inRun cs) : isSnakeChar d = true := by
  induction cs generalizing inRun with
  | nil => cases h
  | cons c cs ih =>
    rw [joinRuns] at h
    split at h
    · next hc =>
      rcases List.mem_cons.mp h with rfl | h
      · exact hc
      · exact ih h
    · split at h
      · exact ih h
      · rcases List.mem_cons.mp h with rfl | h
        · decide
        · exact ih h

/-- No character stands in an identifier that neither a name in snake case can hold nor another
character leads to by a change of case. -/
theorem not_mem_screaming {d : Char} (hd : IsAlone d) (hsnake : isSnakeChar d = false)
    (name : String) : d ∉ (screaming name).toList := by
  rw [screaming, String.toList_ofList, snakeChars, uppercase_lowercase]
  refine not_mem_fold hd fun hmem => ?_
  rw [markWords] at hmem
  exact absurd (isSnakeChar_of_mem_joinRuns hmem) (by simp [hsnake])

/-! ### Empty identifiers -/

theorem markEnds_eq_nil_iff {isEnd : Char → List Char → Bool} {cs : List Char} :
    markEnds isEnd cs = [] ↔ cs = [] := by
  cases cs with
  | nil => simp [markEnds]
  | cons c cs =>
    rw [markEnds]
    split <;> simp

theorem joinRuns_eq_nil_iff {cs : List Char} : joinRuns false cs = [] ↔ cs = [] := by
  cases cs with
  | nil => simp [joinRuns]
  | cons c cs =>
    rw [joinRuns]
    split <;> simp

/-- Something is left of every name that is not empty. -/
theorem markWords_eq_nil_iff {cs : List Char} : markWords cs = [] ↔ cs = [] := by
  rw [markWords, joinRuns_eq_nil_iff, markEnds_eq_nil_iff, markEnds_eq_nil_iff,
    markEnds_eq_nil_iff, markEnds_eq_nil_iff]

/-- **Empty constants.**  No name but the empty one gives an empty constant. -/
theorem screaming_eq_empty_iff {name : String} : screaming name = "" ↔ name = "" := by
  rw [← String.toList_eq_nil_iff, screaming, String.toList_ofList, snakeChars, uppercase_lowercase,
    fold_eq_nil_iff, markWords_eq_nil_iff, String.toList_eq_nil_iff]

end SchemaBeans.Naming

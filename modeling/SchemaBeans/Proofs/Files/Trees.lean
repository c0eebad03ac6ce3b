import Mathlib.Data.List.Induction
import SchemaBeans.Proofs.Files.Writes

/-!
# Files — trees

A table of files and directories is a *tree* if everything in it lies in a directory, under a file
name, and the working directory is a directory (`IsTree`).  So the way from the root to what is
there leads through directories only (`IsTree.directory_of_isPrefix`).

A tree stays one when something that is not a directory is replaced in a directory, or something
new is put there (`IsTree.put`), and when a file is taken out (`IsTree.erase`).  What is at each
location tells two trees apart (`IsTree.ext`).
-/

namespace SchemaBeans.Files

namespace Path

theorem isFileName_iff {name : String} :
    IsFileName name ↔ '/' ∉ name.toList ∧ name ≠ "" ∧ name ≠ "." ∧ name ≠ ".." :=
  ⟨fun h => ⟨h.noSlash, h.ne_empty, h.ne_dot, h.ne_dots⟩,
    fun ⟨h, he, hd, hds⟩ => ⟨h, he, hd, hds⟩⟩

instance (name : String) : Decidable (IsFileName name) := decidable_of_iff' _ isFileName_iff

end Path

namespace System

open SchemaBeans.Files.Path (IsFileName)

variable {s s' : System} {l l' m : Location} {name : String} {e : Entry} {content : List UInt8}

/-- The location is one in a directory, under a file name. -/
def Lies (s : System) (l : Location) : Prop :=
  IsFileName (l.getLast?.getD "") ∧ s.entry? l.dropLast = some .directory

instance (s : System) (l : Location) : Decidable (s.Lies l) := inferInstanceAs (Decidable (_ ∧ _))

/-- What lies right below a location lies in a tree if there is a directory at the location. -/
theorem lies_concat : s.Lies (l ++ [name]) ↔ IsFileName name ∧ s.entry? l = some .directory := by
  simp [Lies]

theorem not_lies_nil : ¬s.Lies [] := fun h => h.1.ne_empty rfl

/-- What lies in a tree does so as long as no directory goes. -/
theorem Lies.mono (h : s.Lies l)
    (hd : ∀ m, s.entry? m = some .directory → s'.entry? m = some .directory) : s'.Lies l :=
  ⟨h.1, hd _ h.2⟩

/-- Everything lies in a directory, under a file name, and the working directory is one. -/
structure IsTree (s : System) : Prop where
  lies {l : Location} {e : Entry} : s.entries[l]? = some e → s.Lies l
  workingDirectory : s.entry? s.workingDirectory = some .directory

theorem isTree_iff : s.IsTree ↔ (∀ entry ∈ s.entries.toList, s.Lies entry.1) ∧
    s.entry? s.workingDirectory = some .directory := by
  refine ⟨fun h => ⟨fun entry hentry => ?_, h.workingDirectory⟩, fun h => ⟨fun {l e} he => ?_, h.2⟩⟩
  · exact h.lies (Std.ExtTreeMap.mem_toList_iff_getElem?_eq_some.mp hentry)
  · exact h.1 (l, e) (Std.ExtTreeMap.mem_toList_iff_getElem?_eq_some.mpr he)

instance (s : System) : Decidable s.IsTree := decidable_of_iff' _ isTree_iff

theorem entry?_of_ne_nil (h : l ≠ []) : s.entry? l = s.entries[l]? := if_neg h

theorem entry?_nil : s.entry? [] = some .directory := if_pos rfl

theorem entry?_concat : s.entry? (l ++ [name]) = s.entries[l ++ [name]]? :=
  entry?_of_ne_nil (by simp)

theorem entry?_erase_of_ne (h : m ≠ l) : System.entry? (s.erase l) m = s.entry? m := by
  simp only [System.entry?, erase, Std.ExtTreeMap.getElem?_erase,
    Std.LawfulEqCmp.compare_eq_iff_eq, Ne.symm h, if_false]

theorem entry?_erase_self (h : l ≠ []) : System.entry? (s.erase l) l = none := by
  simp [System.entry?, erase, h]

/-- Where there was a file, nothing may be left without taking away a directory. -/
theorem directory_erase (hl : s.entry? l = some (.file content))
    (h : s.entry? m = some .directory) : System.entry? (s.erase l) m = some .directory := by
  have hne : m ≠ l := by
    rintro rfl
    cases hl.symm.trans h
  rw [entry?_erase_of_ne hne, h]

namespace IsTree

/-- In a tree all names are file names. -/
theorem isFileName (h : s.IsTree) (hl : s.entry? (l ++ [name]) = some e) : IsFileName name :=
  (lies_concat.mp (h.lies (entry?_concat.symm.trans hl))).1

/-- In a tree what something lies in is a directory. -/
theorem directory (h : s.IsTree) (hl : s.entry? (l ++ [name]) = some e) :
    s.entry? l = some .directory :=
  (lies_concat.mp (h.lies (entry?_concat.symm.trans hl))).2

/-- Up from what is there, there is a directory. -/
theorem directory_dropLast (h : s.IsTree) (hl : s.entry? l = some e) :
    s.entry? l.dropLast = some .directory := by
  by_cases hnil : l = []
  · rw [hnil]
    exact entry?_nil
  · exact (h.lies ((entry?_of_ne_nil hnil).symm.trans hl)).2

/-- The way to a directory leads through directories. -/
theorem directory_of_isPrefix (h : s.IsTree) (hl : s.entry? l = some .directory) (hp : m <+: l) :
    s.entry? m = some .directory := by
  obtain ⟨names, rfl⟩ := hp
  induction names using List.reverseRecOn with
  | nil => rwa [List.append_nil] at hl
  | append_singleton names name ih =>
    rw [← List.append_assoc] at hl
    exact ih (h.directory hl)

/-- What is at each location tells trees apart. -/
theorem ext (h : s.IsTree) (h' : s'.IsTree) (hw : s.workingDirectory = s'.workingDirectory)
    (he : ∀ l, s.entry? l = s'.entry? l) : s = s' := by
  have hentries : s.entries = s'.entries := by
    refine Std.ExtTreeMap.ext_getElem? fun l => ?_
    by_cases hnil : l = []
    · -- a table says nothing of the root
      have hnone : ∀ {t : System}, t.IsTree → t.entries[l]? = none := by
        intro t ht
        rw [Option.eq_none_iff_forall_ne_some]
        exact fun e hl => not_lies_nil (hnil ▸ ht.lies hl)
      rw [hnone h, hnone h']
    · rw [← entry?_of_ne_nil hnil, he, entry?_of_ne_nil hnil]
  cases s
  cases s'
  congr

/-- In a directory, something may be put where no directory is. -/
theorem put (h : s.IsTree) (hd : s.entry? l = some .directory) (hn : IsFileName name)
    (hl : s.entry? (l ++ [name]) ≠ some .directory) (e : Entry) :
    System.IsTree (s.put (l ++ [name]) e) where
  lies {m e'} hm := by
    have hstay : ∀ m, s.entry? m = some .directory →
        System.entry? (s.put (l ++ [name]) e) m = some .directory := fun m => directory_put hl
    refine Lies.mono (s := s) ?_ hstay
    by_cases hne : m = l ++ [name]
    · rw [hne, lies_concat]
      exact ⟨hn, hd⟩
    · simp only [System.put, Std.ExtTreeMap.getElem?_insert, Std.LawfulEqCmp.compare_eq_iff_eq,
        Ne.symm hne, if_false] at hm
      exact h.lies hm
  workingDirectory := directory_put hl h.workingDirectory

/-- A file may be taken out. -/
theorem erase (h : s.IsTree) (hl : s.entry? l = some (.file content)) :
    System.IsTree (s.erase l) where
  lies {m e} hm := by
    refine Lies.mono (s := s) ?_ fun m => directory_erase hl
    rw [System.erase, Std.ExtTreeMap.getElem?_erase] at hm
    split at hm
    · cases hm
    · exact h.lies hm
  workingDirectory := directory_erase hl h.workingDirectory

end IsTree

end System

end SchemaBeans.Files

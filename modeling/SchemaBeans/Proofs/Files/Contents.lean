import SchemaBeans.Proofs.Files.Ways

/-!
# Files — the files in a directory

Whether a file can have a name in a directory is a matter of the texts alone: nothing may be wrong
with its path, and the name may not be too long (`Fits`).  Where a path leads to a directory, the
files in it are written and taken out right below (`write_join_eq_ok_iff`,
`remove_join_eq_ok_iff`).

The names that a directory is said to have are those of the files right below it, each once
(`mem_fileNames_iff`, `nodup_fileNames`).
-/

namespace SchemaBeans.Files.System

open SchemaBeans.Files.Path (IsFileName join)

variable {s s' : System} {l m : Location} {directory name : String} {names : List String}
  {content : List UInt8}

/-- A file in the directory can have the name. -/
def Fits (directory name : String) : Prop :=
  pathFault? (join directory name) = none ∧ name.utf8ByteSize ≤ longestName

section Directory

variable (hd : s.IsDirectoryAt directory l) (hn : IsFileName name)

include hd hn

/-- The path of a file leads right below the directory. -/
theorem locate_join_eq_ok_iff :
    s.locate (join directory name) = .ok m ↔ Fits directory name ∧ m = l ++ [name] := by
  rw [locate_join hd hn, Fits]
  cases pathFault? (join directory name) with
  | some fault => simp
  | none =>
    dsimp only
    rw [step_of_isFileName hn]
    split
    · next hlong => simp [Nat.not_le.mpr hlong]
    · next hshort => simp [Nat.not_lt.mp hshort, eq_comm]

/-- **Writing.**  A file is written exactly if its name fits and there is no directory at its place,
which is all that changes. -/
theorem write_join_eq_ok_iff : s.write (join directory name) content = .ok s' ↔
    Fits directory name ∧ s.entry? (l ++ [name]) ≠ some .directory ∧
      s' = s.put (l ++ [name]) (.file content) := by
  refine ⟨fun h => ?_, ?_⟩
  · obtain ⟨l', hd', hlocate, hl, rfl⟩ := exists_of_write hn h
    obtain rfl := hd.unique hd'
    exact ⟨((locate_join_eq_ok_iff hd hn).mp hlocate).1, hl, rfl⟩
  · rintro ⟨⟨hfault, hshort⟩, hl, rfl⟩
    have hlast : (Path.names directory ++ [name]).getLast?.getD "." = name := by simp
    simp only [write, locateNew, hfault, start_join s hn, Path.names_join hn, List.dropLast_concat,
      hlast, isDirectoryAt_iff.mp hd, Path.endsWithSlash_join hn, hn.ne_dot, hn.ne_dots,
      Bool.false_eq_true, or_self, if_false, Except.bind, step_of_isFileName hn,
      Nat.not_lt.mpr hshort]
    rfl

/-- **Taking out.**  A path is taken out exactly if its name fits and there is a file, which is all
that goes. -/
theorem remove_join_eq_ok_iff : s.remove (join directory name) = .ok s' ↔
    Fits directory name ∧ (∃ content, s.entry? (l ++ [name]) = some (.file content)) ∧
      s' = s.erase (l ++ [name]) := by
  refine ⟨fun h => ?_, ?_⟩
  · rw [remove] at h
    cases hlocate : s.locate (join directory name) with
    | error fault => simp [hlocate, Except.bind] at h
    | ok m =>
      obtain ⟨hfits, rfl⟩ := (locate_join_eq_ok_iff hd hn).mp hlocate
      simp only [hlocate, Except.bind] at h
      split at h
      · cases h
      · cases h
      · next content he => exact ⟨hfits, ⟨content, he⟩, (Except.ok.inj h).symm⟩
  · rintro ⟨hfits, ⟨content, he⟩, rfl⟩
    have hlocate := (locate_join_eq_ok_iff hd hn).mpr ⟨hfits, rfl⟩
    simp only [remove, hlocate, Except.bind, he]

end Directory

/-! ### The names in a directory -/

theorem fileName?_eq_some_iff {entry : Location × Entry} :
    fileName? l entry = some name ↔ ∃ content, entry = (l ++ [name], .file content) := by
  obtain ⟨m, e⟩ := entry
  cases e with
  | directory => simp [fileName?]
  | file content =>
    rw [fileName?]
    cases hp : l.isPrefixOf? m with
    | none =>
      simp only [reduceCtorEq, Prod.mk.injEq, Entry.file.injEq, exists_eq_right', false_iff]
      rintro rfl
      rw [List.isPrefixOf?_eq_some_iff_append_eq.mpr rfl] at hp
      cases hp
    | some rest =>
      obtain rfl := List.isPrefixOf?_eq_some_iff_append_eq.mp hp
      match rest with
      | [] => simp
      | [name'] => simp
      | _ :: _ :: _ => simp

/-- The names in a directory are those of the entries right below it. -/
theorem fileNames_eq (hd : s.IsDirectoryAt directory l) (h : s.fileNames directory = .ok names) :
    names = s.entries.toList.filterMap (fileName? l) := by
  rw [fileNames] at h
  have hf : pathFault? directory = none := by
    cases hf : pathFault? directory with
    | none => rfl
    | some fault => simp [System.locate, hf, Except.bind] at h
  simp only [hd.locate hf, Except.bind, hd.directory, Except.ok.injEq] at h
  exact h.symm

/-- A directory has the names of the files right below it. -/
theorem mem_fileNames_iff (hd : s.IsDirectoryAt directory l)
    (h : s.fileNames directory = .ok names) :
    name ∈ names ↔ ∃ content, s.entry? (l ++ [name]) = some (.file content) := by
  rw [fileNames_eq hd h, List.mem_filterMap]
  simp only [fileName?_eq_some_iff, entry?_concat]
  refine ⟨?_, ?_⟩
  · rintro ⟨_, hmem, content, rfl⟩
    exact ⟨content, Std.ExtTreeMap.mem_toList_iff_getElem?_eq_some.mp hmem⟩
  · rintro ⟨content, he⟩
    exact ⟨_, Std.ExtTreeMap.mem_toList_iff_getElem?_eq_some.mpr he, content, rfl⟩

theorem nodup_fileNames (hd : s.IsDirectoryAt directory l)
    (h : s.fileNames directory = .ok names) : names.Nodup := by
  rw [fileNames_eq hd h]
  refine (Std.ExtTreeMap.distinct_keys_toList (t := s.entries)).filterMap _ ?_
  rintro entry entry' hne name hname name' hname' rfl
  obtain ⟨content, rfl⟩ := fileName?_eq_some_iff.mp hname
  obtain ⟨content', rfl⟩ := fileName?_eq_some_iff.mp hname'
  exact hne Std.ReflCmp.compare_self

end SchemaBeans.Files.System

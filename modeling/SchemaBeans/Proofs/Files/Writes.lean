import Mathlib.Data.List.Basic
import SchemaBeans.Files.System

/-!
# Files — what a write changes

A file is written into a directory under a *file name*: one name without a slash that does not lead
anywhere by itself (`IsFileName`).  The steps of the file's path are then those of the directory's
path and the name (`names_join`), so the file is right below the directory (`locate_join`).

A write changes one location, at which there is no directory before.  So every directory stays, and
a path that leads to one leads there afterwards too (`IsDirectoryAt.put`).  The file can be looked
up at its path (`status_of_write`), and the files of other names in the same directory are as they
were (`status_of_write_of_ne`).
-/

namespace SchemaBeans.Files

namespace Path

open SchemaBeans.Text

/-- A name under which there can be a file in a directory. -/
structure IsFileName (name : String) : Prop where
  noSlash : '/' ∉ name.toList
  ne_empty : name ≠ ""
  ne_dot : name ≠ "."
  ne_dots : name ≠ ".."

variable {directory name : String}

/-- What stands between a directory and a name in it. -/
theorem toList_join (hn : IsFileName name) : (join directory name).toList =
    directory.toList ++
      (if directory = "" ∨ endsWithSlash directory = true then [] else ['/']) ++ name.toList := by
  have hrelative : isAbsolute name = false := by
    rw [isAbsolute, beq_eq_false_iff_ne]
    exact fun h => hn.noSlash (List.mem_of_mem_head? h)
  rw [join, hrelative, if_neg Bool.false_ne_true]
  split <;> simp [String.toList_append]

theorem isAbsolute_join (hn : IsFileName name) :
    isAbsolute (join directory name) = isAbsolute directory := by
  rw [isAbsolute, isAbsolute, toList_join hn]
  cases hd : directory.toList with
  | nil =>
    obtain rfl : directory = "" := String.ext hd
    rw [if_pos (Or.inl rfl)]
    simpa using fun h => hn.noSlash (List.mem_of_mem_head? h)
  | cons c cs => simp

theorem endsWithSlash_join (hn : IsFileName name) :
    endsWithSlash (join directory name) = false := by
  have hne : name.toList ≠ [] := fun h => hn.ne_empty (String.ext h)
  rw [endsWithSlash, toList_join hn, List.getLast?_append_of_ne_nil _ hne, beq_eq_false_iff_ne]
  exact fun h => hn.noSlash (List.mem_of_getLast? h)

/-- The steps to a file are those to its directory and its name. -/
theorem names_join (hn : IsFileName name) :
    names (join directory name) = names directory ++ [name] := by
  have hlast : ((splitOn '/' name.toList).filter (!·.isEmpty)).map String.ofList = [name] := by
    rw [splitOn_of_not_mem hn.noSlash]
    have hne : name.toList ≠ [] := fun h => hn.ne_empty (String.ext h)
    simp [hne]
  rw [names, names, toList_join hn, ← hlast, ← List.map_append, ← List.filter_append]
  split
  · next h =>
    rw [List.append_nil]
    rcases h with rfl | h
    · rfl
    · -- the slash at the end of the directory is the one before the name
      obtain ⟨cs, hcs⟩ := List.getLast?_eq_some_iff.mp (eq_of_beq h)
      rw [hcs, List.append_assoc, List.singleton_append, splitOn_append, splitOn_append]
      simp [splitOn, split]
  · rw [List.append_assoc, List.singleton_append, splitOn_append]

end Path

namespace System

open SchemaBeans.Files.Path (IsFileName join)

variable {s s' : System} {here there parent l : Location} {directory name name' : String}
  {names : List String} {e : Entry} {content : List UInt8}

/-- A way goes on from where its first part leads. -/
theorem walk_append (names names' : List String) : s.walk here (names ++ names') =
    (s.walk here names).bind fun there => s.walk there names' := by
  induction names generalizing here with
  | nil => rfl
  | cons name names ih =>
    rw [List.cons_append, walk, walk]
    split
    · rfl
    · rfl
    · split
      · exact ih
      · rfl

theorem walk_singleton (h : s.entry? here = some .directory) (name : String) :
    s.walk here [name] = step here name := by
  simp only [walk, h]
  cases step here name <;> rfl

/-- The path leads to a directory, which is at the location. -/
structure IsDirectoryAt (s : System) (path : String) (l : Location) : Prop where
  walk : s.walk (s.start path) (Path.names path) = .ok l
  directory : s.entry? l = some .directory

/-- A path leads to a directory if one can go on in it. -/
theorem isDirectoryAt_iff {path : String} : s.IsDirectoryAt path l ↔
    s.walk (s.start path) (Path.names path ++ ["."]) = .ok l := by
  rw [walk_append]
  refine ⟨?_, ?_⟩
  · rintro ⟨hwalk, hdir⟩
    rw [hwalk]
    exact walk_singleton hdir "."
  · intro h
    cases hw : s.walk (s.start path) (Path.names path) with
    | error fault => simp [hw, Except.bind] at h
    | ok m =>
      simp only [hw, Except.bind, System.walk] at h
      split at h
      · cases h
      · cases h
      · next hdir =>
        simp only [step, if_true, Except.ok.injEq] at h
        exact h ▸ ⟨hw, hdir⟩

/-- A file name leads right below a directory, if it is not too long. -/
theorem step_of_isFileName (hn : IsFileName name) : step here name =
    if longestName < name.utf8ByteSize then .error .nameTooLong else .ok (here ++ [name]) := by
  rw [step, if_neg hn.ne_dot, if_neg hn.ne_dots]

theorem start_join (s : System) (hn : IsFileName name) :
    s.start (join directory name) = s.start directory := by
  rw [start, start, Path.isAbsolute_join hn]

/-- A file is one step behind its directory, unless its path is at fault. -/
theorem locate_join (hd : s.IsDirectoryAt directory parent) (hn : IsFileName name) :
    s.locate (join directory name) =
      match pathFault? (join directory name) with
      | some fault => .error fault
      | none => step parent name := by
  rw [locate]
  cases pathFault? (join directory name) with
  | some fault => rfl
  | none =>
    rw [Path.steps, Path.endsWithSlash_join hn, if_neg Bool.false_ne_true, List.append_nil,
      start_join s hn, Path.names_join hn, walk_append, hd.walk]
    exact walk_singleton hd.directory name

/-- **Where a file is written.**  It is put right below the directory, where no directory is. -/
theorem exists_of_write (hn : IsFileName name)
    (h : s.write (join directory name) content = .ok s') :
    ∃ parent, s.IsDirectoryAt directory parent ∧
      s.locate (join directory name) = .ok (parent ++ [name]) ∧
      s.entry? (parent ++ [name]) ≠ some .directory ∧
      s' = s.put (parent ++ [name]) (.file content) := by
  have hlast : (Path.names directory ++ [name]).getLast?.getD "." = name := by simp
  simp only [write, locateNew, start_join s hn, Path.names_join hn, List.dropLast_concat, hlast,
    Path.endsWithSlash_join hn, hn.ne_dot, hn.ne_dots, Bool.false_eq_true, or_self,
    if_false] at h
  cases hfault : pathFault? (join directory name) with
  | some fault => simp [hfault, Except.map] at h
  | none =>
    simp only [hfault] at h
    cases hw : s.walk (s.start directory) (Path.names directory ++ ["."]) with
    | error fault => simp [hw, Except.bind, Except.map] at h
    | ok parent =>
      have hd := isDirectoryAt_iff.mpr hw
      have hlocate := locate_join hd hn
      simp only [hfault, step_of_isFileName hn] at hlocate
      by_cases hlength : longestName < name.utf8ByteSize
      · simp [hw, Except.bind, step_of_isFileName hn, hlength, Except.map] at h
      · rw [if_neg hlength] at hlocate
        simp only [hw, Except.bind, step_of_isFileName hn, if_neg hlength] at h
        refine ⟨parent, hd, hlocate, ?_, ?_⟩
        · intro hdir
          simp [hdir, Except.map] at h
        · split at h
          · cases h
          · exact (Except.ok.inj h).symm

theorem entry?_put_of_ne {m : Location} (h : m ≠ l) : System.entry? (s.put l e) m = s.entry? m := by
  simp only [System.entry?, put, Std.ExtTreeMap.getElem?_insert, Std.LawfulEqCmp.compare_eq_iff_eq,
    Ne.symm h, if_false]

theorem entry?_put_self (h : s.entry? l ≠ some .directory) :
    System.entry? (s.put l e) l = some e := by
  have hroot : l ≠ [] := by
    rintro rfl
    exact h rfl
  simp [System.entry?, put, hroot]

/-- Steps lead where they led before, if all directories are still there. -/
theorem walk_mono (h : ∀ m, s.entry? m = some .directory → s'.entry? m = some .directory)
    (hw : s.walk here names = .ok there) : s'.walk here names = .ok there := by
  induction names generalizing here with
  | nil => exact hw
  | cons name names ih =>
    rw [walk] at hw ⊢
    cases hh : s.entry? here with
    | none => simp [hh] at hw
    | some entry =>
      cases entry with
      | file content => simp [hh] at hw
      | directory =>
        rw [h here hh]
        simp only [hh] at hw ⊢
        split
        · next hstep => exact ih (by simpa only [hstep] using hw)
        · next hstep => simp [hstep] at hw

/-- A path leads to the same directory as long as no directory goes. -/
theorem IsDirectoryAt.mono {path : String} (hd : s.IsDirectoryAt path l)
    (h : ∀ m, s.entry? m = some .directory → s'.entry? m = some .directory)
    (hw : s'.workingDirectory = s.workingDirectory) : s'.IsDirectoryAt path l where
  walk := by
    have hstart : s'.start path = s.start path := by rw [start, start, hw]
    rw [hstart]
    exact walk_mono h hd.walk
  directory := h l hd.directory

/-- Where there was no directory, something may be put without taking away another directory. -/
theorem directory_put (hl : s.entry? l ≠ some .directory) {m : Location}
    (h : s.entry? m = some .directory) : System.entry? (s.put l e) m = some .directory := by
  have hne : m ≠ l := by
    rintro rfl
    exact hl h
  rw [entry?_put_of_ne hne, h]

theorem IsDirectoryAt.put {path : String} (h : s.IsDirectoryAt path parent)
    (hl : s.entry? l ≠ some .directory) : (s.put l e).IsDirectoryAt path parent :=
  h.mono (fun _ => directory_put hl) rfl

/-- **What was written is there.** -/
theorem status_of_write (hn : IsFileName name)
    (h : s.write (join directory name) content = .ok s') :
    s'.status (join directory name) = .ok (.file content) := by
  obtain ⟨parent, hd, hlocate, hl, rfl⟩ := exists_of_write hn h
  rw [locate_join hd hn] at hlocate
  rw [status, locate_join (hd.put hl) hn, hlocate, Except.bind]
  simp only [entry?_put_self hl]

/-- **The other files stay.**  Writing a file changes no file of another name in the same
directory. -/
theorem status_of_write_of_ne (hn : IsFileName name) (hn' : IsFileName name') (hne : name' ≠ name)
    (h : s.write (join directory name) content = .ok s') :
    s'.status (join directory name') = s.status (join directory name') := by
  obtain ⟨parent, hd, -, hl, rfl⟩ := exists_of_write hn h
  rw [status, status, locate_join (hd.put hl) hn', locate_join hd hn']
  split
  · rfl
  · rw [step_of_isFileName hn']
    split
    · rfl
    · have hother : parent ++ [name'] ≠ parent ++ [name] := by simpa using hne
      simp only [Except.bind, entry?_put_of_ne hother]

end System

end SchemaBeans.Files

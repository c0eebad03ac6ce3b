import SchemaBeans.Generation.Directory
import SchemaBeans.Proofs.Files.Ways
import SchemaBeans.Proofs.Generation.Preparation

/-!
# Generation — the way to a store directory

The segments of a package's name are file names, so the names in the path of the store directory are
those of the output and then the segments (`names_storeDirectory`).  The way to it leaves a
directory by a step up only if the output does, and only then can it be overlooked
(`mem_names_of_overlooked`).
-/

namespace SchemaBeans.Generation

open Files (Location System)
open Files.Path (IsFileName names)

variable {s s' : System} {output package path : String} {l : Location} {segments : List String}

/-- No identifier has a slash or a dot in it. -/
theorem ne_of_isIdentifierPart {c : Char} (h : Java.isIdentifierPart c = true) :
    c ≠ '/' ∧ c ≠ '.' := by
  refine ⟨?_, ?_⟩
  · rintro rfl
    exact absurd h (by decide)
  · rintro rfl
    exact absurd h (by decide)

theorem isFileName_of_isIdentifier {cs : List Char} (h : Java.isIdentifier cs = true) :
    IsFileName (String.ofList cs) := by
  cases cs with
  | nil => cases h
  | cons c cs =>
    obtain ⟨hstart, hrest⟩ := Bool.and_eq_true_iff.mp h
    have hpart : ∀ c' ∈ c :: cs, Java.isIdentifierPart c' = true :=
      List.forall_mem_cons.mpr ⟨by rw [Java.isIdentifierPart, hstart, Bool.true_or],
        List.all_eq_true.mp hrest⟩
    have hdot : ∀ short : String, short.toList.head? = some '.' →
        String.ofList (c :: cs) ≠ short := by
      rintro short hshort rfl
      rw [String.toList_ofList, List.head?_cons, Option.some.injEq] at hshort
      exact (ne_of_isIdentifierPart (hpart c List.mem_cons_self)).2 hshort
    refine ⟨?_, ?_, hdot _ (by decide), hdot _ (by decide)⟩
    · rw [String.toList_ofList]
      exact fun hslash => (ne_of_isIdentifierPart (hpart _ hslash)).1 rfl
    · exact fun he => List.cons_ne_nil c cs (String.ofList_eq_empty_iff.mp he)

/-- File names are appended to a path one after the other. -/
theorem names_joinAll (h : ∀ segment ∈ segments, IsFileName segment) :
    names (Files.Path.joinAll path segments) = names path ++ segments := by
  induction segments generalizing path with
  | nil => exact (List.append_nil _).symm
  | cons segment segments ih =>
    obtain ⟨hsegment, hsegments⟩ := List.forall_mem_cons.mp h
    rw [Files.Path.joinAll, List.foldl_cons, ← Files.Path.joinAll, ih hsegments,
      Files.Path.names_join hsegment, List.append_assoc, List.singleton_append]

theorem isFileName_of_mem_packageSegments (h : Java.isPackageName package = true)
    {segment : String} (hsegment : segment ∈ Java.packageSegments package) :
    IsFileName segment := by
  obtain ⟨cs, hcs, rfl⟩ := List.mem_map.mp hsegment
  exact isFileName_of_isIdentifier (List.all_eq_true.mp h cs hcs)

/-- No segment of a package's name is passed over. -/
theorem storeDirectory_eq_joinAll (h : Java.isPackageName package = true) :
    storeDirectory output package = Files.Path.joinAll output (Java.packageSegments package) := by
  have hall : (Java.packageSegments package).filter (· ≠ "") = Java.packageSegments package :=
    List.filter_eq_self.mpr fun segment hsegment =>
      decide_eq_true (isFileName_of_mem_packageSegments h hsegment).ne_empty
  rw [storeDirectory, hall]

/-- **The names in the path of a store directory**: those of the output, and then the segments of
the package's name. -/
theorem names_storeDirectory (h : Java.isPackageName package = true) :
    names (storeDirectory output package) = names output ++ Java.packageSegments package := by
  rw [storeDirectory_eq_joinAll h, names_joinAll fun _ => isFileName_of_mem_packageSegments h]

theorem packageSegments_ne_nil (package : String) : Java.packageSegments package ≠ [] := by
  simp [Java.packageSegments, Text.splitOn]

theorem storeDirectory_ne_empty (h : Java.isPackageName package = true) :
    storeDirectory output package ≠ "" := by
  intro he
  have hnil : names (storeDirectory output package) = [] := by
    rw [he]
    rfl
  rw [names_storeDirectory h, List.append_eq_nil_iff] at hnil
  exact packageSegments_ne_nil package hnil.2

/-- **Overlooked directories.**  A store directory is overlooked only if its output has a step
up. -/
theorem mem_names_of_overlooked (hs : s.IsTree) (h : Java.isPackageName package = true)
    (hw : s'.workingDirectory = s.workingDirectory)
    (hd : s'.IsDirectoryAt (storeDirectory output package) l)
    (ho : Overlooked s (storeDirectory output package) l) : ".." ∈ names output := by
  by_contra hup
  have hup : ".." ∉ names (storeDirectory output package) := by
    rw [names_storeDirectory h, List.mem_append]
    exact not_or.mpr ⟨hup, fun hmem => (isFileName_of_mem_packageSegments h hmem).ne_dots rfl⟩
  have hat := System.isDirectoryAt_of_entry? hs hup hw hd ho.2
  cases hf : System.pathFault? (storeDirectory output package) with
  | none =>
    have hstatus := System.status_eq_directory_iff.mpr ⟨hf, l, hat⟩
    cases hstatus.symm.trans ho.1
  | some fault =>
    have hfault : fault = .notFound := by
      simpa [System.status, System.locate, hf, Except.bind] using ho.1
    exact storeDirectory_ne_empty h (System.pathFault?_eq_notFound (hfault ▸ hf))

end SchemaBeans.Generation

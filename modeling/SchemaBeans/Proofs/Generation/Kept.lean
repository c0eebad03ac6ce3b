import SchemaBeans.Proofs.Generation.Stored

/-!
# Generation — files that are kept

Without leave to delete, a run is to overwrite nothing: it ends early if there is a source in the
store directory, which it looks for by the extension of file names.  The names of the files that it
writes have the extension, but for that of a type without a name, which begins with its only dot
(`isSourceName_sourceName`).

So a run that succeeds without leave keeps every file, except that the file of a type without a name
may be overwritten (`namelessSource_overwritten`), and that nothing is looked for in a store
directory that is overlooked (`generate_kept`).
-/

namespace SchemaBeans.Files.Path

/-- What follows a dot is the extension of a file's name, unless the dot comes first. -/
theorem extension?_append (name : String) {extension : String} (h : '.' ∉ extension.toList) :
    extension? (name ++ "." ++ extension) = if name = "" then none else some extension := by
  have hsplit : Text.splitOn '.' (name ++ "." ++ extension).toList =
      Text.splitOn '.' name.toList ++ [extension.toList] := by
    rw [← Text.splitOn_of_not_mem h, ← Text.splitOn_append]
    simp
  have hjoin := Text.joinWith_splitOn '.' name.toList
  rw [extension?, hsplit, List.reverse_append, List.reverse_singleton, List.singleton_append]
  cases hpieces : (Text.splitOn '.' name.toList).reverse with
  | nil => exact absurd (List.reverse_eq_nil_iff.mp hpieces) (Text.split_ne_nil _ _)
  | cons piece pieces =>
    by_cases hname : name = ""
    · subst hname
      obtain ⟨rfl, rfl⟩ := List.cons.inj hpieces
      rfl
    · rw [if_neg hname]
      split
      · next hone => cases hone
      · next htwo =>
        -- there is nothing before the dot
        obtain ⟨-, hnil⟩ := List.cons.inj htwo
        rw [hnil, List.reverse_eq_iff] at hpieces
        rw [hpieces] at hjoin
        exact absurd (String.ext hjoin.symm) hname
      · next hlast =>
        rw [← (List.cons.inj hlast).1, String.ofList_toList]
      · next hnil => cases hnil

end SchemaBeans.Files.Path

namespace SchemaBeans.Generation

open Files (Entry Location System)

variable {s : System} {output package text name : String} {stats : Stats}

/-- The file name of a type's source has the extension of sources, if the type has a name. -/
theorem isSourceName_sourceName : isSourceName (sourceName name) = true ↔ name ≠ "" := by
  rw [isSourceName, sourceName, Files.Path.extension?_append name (by decide)]
  split
  · next hname => simp [hname]
  · next hname => simp [hname]

/-- **Files are kept.**  For every tree of files, every output, package name and text, a run that
succeeds without leave to delete keeps every file, but for those of types: for that of a type
without a name, and for those in a store directory that was overlooked, which takes an output with a
step up. -/
theorem generate_kept (hs : s.IsTree) (hpackage : Java.isPackageName package = true)
    (h : (generate output package false text s).result = .ok stats) :
    ∃ product store, (translate package text).result = .ok product ∧
      (generate output package false text s).system.IsDirectoryAt
        (storeDirectory output package) store ∧
      (∀ l content, s.entry? l = some (.file content) →
        (generate output package false text s).system.entry? l = some (.file content) ∨
          ∃ name, product.package.contains name = true ∧ l = sourceLocation store name ∧
            (name = "" ∨ Overlooked s (storeDirectory output package) store)) ∧
      (Overlooked s (storeDirectory output package) store → ".." ∈ Files.Path.names output) := by
  obtain ⟨product, store, removed, ht, hstores, hforce, -⟩ := exists_stores_of_generate hs h
  obtain rfl := hforce rfl
  refine ⟨product, store, ht, hstores.isDirectoryAt, fun l content hfile => ?_, fun hover =>
    mem_names_of_overlooked hs hpackage hstores.workingDirectory hstores.isDirectoryAt hover⟩
  by_cases hl : IsStored store product.package l
  · obtain ⟨name, hname, rfl⟩ := hl
    refine Or.inr ⟨name, hname, rfl, or_iff_not_imp_left.mpr fun hne => ?_⟩
    -- a source, and none was deleted
    have hsource : IsSourceIn s store (sourceLocation store name) :=
      ⟨_, content, rfl, isSourceName_sourceName.mpr hne, hfile⟩
    by_contra hover
    exact List.not_mem_nil (hstores.mem_removed.mpr ⟨hsource, hover⟩)
  · exact Or.inl (hstores.kept hfile List.not_mem_nil hl)

/-- A working directory with two files in the store directory of the package `pets`, neither of them
a source by its name. -/
def withNotes : System where
  entries := Std.ExtTreeMap.ofList
    [(["home"], Entry.directory), (["home", "out"], Entry.directory),
      (["home", "out", "pets"], Entry.directory),
      (["home", "out", "pets", "Notes.txt"], Entry.file (Files.encode "notes")),
      (["home", "out", "pets", ".java"], Entry.file (Files.encode "kept"))]
  workingDirectory := ["home"]

/-- The type has a name, and both files are kept. -/
theorem withNotes_kept : ∃ stats,
    (generate "out" "pets" false soundText withNotes).result = .ok stats ∧
      (generate "out" "pets" false soundText withNotes).system.entry?
        ["home", "out", "pets", "Notes.txt"] = some (.file (Files.encode "notes")) ∧
      (generate "out" "pets" false soundText withNotes).system.entry?
        ["home", "out", "pets", ".java"] = some (.file (Files.encode "kept")) := by
  obtain ⟨stats, hstats, -⟩ := Schema.exists_of_toOption_any (P := fun _ => true)
    (show (generate "out" "pets" false soundText withNotes).result.toOption.any _ = true by
      decide +kernel)
  have hproduct : (translate "pets" soundText).result.toOption.any (fun product =>
      product.package.contains "" = false) = true := by
    decide +kernel
  obtain ⟨product', ht', hnamed⟩ := Schema.exists_of_toOption_any hproduct
  obtain ⟨product, store, ht, -, hkept, hup⟩ :=
    generate_kept (show withNotes.IsTree by decide +kernel) (by decide +kernel) hstats
  obtain rfl := Except.ok.inj (ht'.symm.trans ht)
  have hdots : ".." ∉ Files.Path.names "out" := by decide +kernel
  have hall : ∀ l content, withNotes.entry? l = some (.file content) →
      (generate "out" "pets" false soundText withNotes).system.entry? l =
        some (.file content) := by
    intro l content hfile
    rcases hkept l content hfile with hkept | ⟨name, hname, -, rfl | hover⟩
    · exact hkept
    · rw [of_decide_eq_true hnamed] at hname
      cases hname
    · exact absurd (hup hover) hdots
  exact ⟨stats, hstats, hall _ _ (by decide +kernel), hall _ _ (by decide +kernel)⟩

/-- A text with a schema whose name has no letters. -/
def namelessText : String := "components: \x7bschemas: \x7b_: \x7btype: object\x7d\x7d\x7d"

/-- The file of a type without a name is overwritten without leave. -/
theorem namelessSource_overwritten : withNotes.IsTree ∧ Java.isPackageName "pets" = true ∧
    withNotes.entry? ["home", "out", "pets", ".java"] = some (.file (Files.encode "kept")) ∧
    ∃ stats, (generate "out" "pets" false namelessText withNotes).result = .ok stats ∧
      (generate "out" "pets" false namelessText withNotes).system.entry?
        ["home", "out", "pets", ".java"] ≠ some (.file (Files.encode "kept")) := by
  obtain ⟨stats, hstats, -⟩ := Schema.exists_of_toOption_any (P := fun _ => true)
    (show (generate "out" "pets" false namelessText withNotes).result.toOption.any _ = true by
      decide +kernel)
  exact ⟨by decide +kernel, by decide +kernel, by decide +kernel, stats, hstats,
    by decide +kernel⟩

end SchemaBeans.Generation

import SchemaBeans.Generation.Write
import SchemaBeans.Proofs.Extraction.Dimensions

/-!
# Generation — runs that fail before they touch a file

A run changes files and directories by three actions: it makes directories, it deletes and it
writes.  A failure of any other kind comes before the first of these (`Error.PrecedesChanges`), and
then everything is as it was (`generate_untouched`).

These failures can be told from the text and from what is at the store directory (`EndsEarly`): no
package comes of the text, or the directory is a file, cannot be looked at, or holds sources that
must not be deleted (`Refused`).  That it cannot be listed is not among them, for what was found to
be a directory can be.
-/

namespace SchemaBeans.Generation

open Files (Entry System)

/-- The action changes files or directories. -/
def Action.Changes : Action → Prop
  | .createDirectory | .delete | .write => True
  | .useAsDirectory | .inspect | .list => False

/-- The error is not that of an action that changes files or directories. -/
def Error.PrecedesChanges : Error → Prop
  | .files action _ _ => ¬action.Changes
  | _ => True

/-- Why a store directory is neither made nor emptied: there is a file in its place, it cannot be
looked at, or it has a source that must not be deleted. -/
inductive Refused (directory : String) (force : Bool) (s : System) : Error → Prop where
  | file {content : List UInt8} (h : s.status directory = .ok (.file content)) :
      Refused directory force s (.files .useAsDirectory directory .entityExists)
  | hidden {fault : Files.Fault} (h : s.status directory = .error fault)
      (hne : fault ≠ .notFound) : Refused directory force s (.files .inspect directory fault)
  | source {names : List String} {name : String} (h : s.status directory = .ok .directory)
      (hn : s.fileNames directory = .ok names) (hname : name ∈ names)
      (hsource : isSourceName name = true) (hforce : force = false) :
      Refused directory force s (.overwrite directory)

/-- Why a run ends before it touches a file: no package comes of the text, or the store directory is
refused. -/
inductive EndsEarly (output package : String) (force : Bool) (text : String) (s : System) :
    Error → Prop where
  | untranslated {error : Error} (h : (translate package text).result = .error error) :
      EndsEarly output package force text s error
  | refused {product : Product} {error : Error} (h : (translate package text).result = .ok product)
      (hr : Refused (storeDirectory output package) force s error) :
      EndsEarly output package force text s error

variable {output package text directory path : String} {force : Bool} {s : System}
  {error : Error}

/-! ### One part of a run after another -/

namespace Effect

variable {α β : Type} {e : Effect α} (next : α → System → Effect β)

theorem andThen_of_ok {a : α} (h : e.result = .ok a) :
    (e.andThen next).system = (next a e.system).system ∧
      (e.andThen next).result = (next a e.system).result := by
  simp only [andThen, h, and_self]

theorem andThen_of_error (h : e.result = .error error) :
    (e.andThen next).system = e.system ∧ (e.andThen next).result = .error error := by
  simp only [andThen, h, and_self]

/-- A run fails in its first part, or in its second part after the first one. -/
theorem andThen_eq_error_iff {next : α → System → Effect β} :
    (e.andThen next).result = .error error ↔ e.result = .error error ∨
      ∃ a, e.result = .ok a ∧ (next a e.system).result = .error error := by
  cases h : e.result with
  | error error' => simp [(andThen_of_error next h).2]
  | ok a => simp [(andThen_of_ok next h).2]

/-- A run succeeds in both its parts. -/
theorem exists_of_andThen_eq_ok {next : α → System → Effect β} {b : β}
    (h : (e.andThen next).result = .ok b) :
    ∃ a, e.result = .ok a ∧ (next a e.system).result = .ok b := by
  cases he : e.result with
  | error error =>
    rw [(andThen_of_error next he).2] at h
    cases h
  | ok a => exact ⟨a, rfl, (andThen_of_ok next he).2 ▸ h⟩

theorem events_andThen_of_ok {a : α} (h : e.result = .ok a) :
    (e.andThen next).events = e.events ++ (next a e.system).events := by
  simp only [andThen, h]

end Effect

/-! ### Parts that change files -/

/-- Deleting fails with the failure to delete a file. -/
theorem not_precedesChanges_of_deleteAll {paths : List String}
    (h : (deleteAll s paths).result = .error error) : ¬error.PrecedesChanges := by
  induction paths generalizing s with
  | nil => cases h
  | cons path paths ih =>
    rw [deleteAll] at h
    split at h
    · cases h
      exact not_not_intro trivial
    · exact ih h

theorem writeAll_nil (directory : String) (s : System) :
    writeAll directory s [] = { system := s, result := .ok [] } := by
  rfl

theorem writeAll_cons (directory : String) (s : System) (source : String × String)
    (sources : List (String × String)) :
    writeAll directory s (source :: sources) =
      match s.write (sourcePath directory source.1) (Files.encode source.2) with
      | .error fault =>
        { system := s, result := .error (.files .write (sourcePath directory source.1) fault) }
      | .ok s =>
        { writeAll directory s sources with
          events := .wrote (sourcePath directory source.1) :: (writeAll directory s sources).events
          result := (writeAll directory s sources).result.map
            (sourcePath directory source.1 :: ·) } := by
  rfl

/-- Writing fails with the failure to write a file. -/
theorem not_precedesChanges_of_writeAll {sources : List (String × String)}
    (h : (writeAll directory s sources).result = .error error) : ¬error.PrecedesChanges := by
  induction sources generalizing s with
  | nil => cases h
  | cons source sources ih =>
    rw [writeAll_cons] at h
    split at h
    · cases h
      exact not_not_intro trivial
    · next s' _ =>
      cases hr : (writeAll directory s' sources).result with
      | error error' =>
        simp only [hr, Except.map, Except.error.injEq] at h
        exact ih (h ▸ hr)
      | ok paths => simp [hr, Except.map] at h

/-! ### The store directory -/

/-- What was found to be a directory can be listed. -/
theorem exists_fileNames_of_status (h : s.status path = .ok .directory) :
    ∃ names, s.fileNames path = .ok names := by
  rw [System.status] at h
  cases hl : s.locate path with
  | error fault => simp [hl, Except.bind] at h
  | ok l =>
    simp only [hl, Except.bind] at h
    cases he : s.entry? l with
    | none => simp [he] at h
    | some entry =>
      simp only [he, Except.ok.injEq] at h
      subst h
      refine ⟨s.entries.toList.filterMap (System.fileName? l), ?_⟩
      simp only [System.fileNames, hl, Except.bind, he]

/-- A source is not deleted without leave, and then nothing is. -/
theorem clean_of_source {names : List String} {name : String}
    (hn : s.fileNames directory = .ok names) (hname : name ∈ names)
    (hsource : isSourceName name = true) :
    (clean directory false s).result = .error (.overwrite directory) ∧
      (clean directory false s).system = s := by
  obtain ⟨first, rest, hsources⟩ : ∃ first rest, names.filter isSourceName = first :: rest :=
    List.exists_cons_of_ne_nil (List.ne_nil_of_mem (List.mem_filter.mpr ⟨hname, hsource⟩))
  simp only [clean, hn, hsources, Bool.false_eq_true, if_false, and_self]

/-- Emptying a directory fails before any change only if a source must not be deleted. -/
theorem refused_of_clean (hs : s.status directory = .ok .directory)
    (h : (clean directory force s).result = .error error) (he : error.PrecedesChanges) :
    Refused directory force s error := by
  obtain ⟨names, hn⟩ := exists_fileNames_of_status hs
  simp only [clean, hn] at h
  split at h
  · cases h
  · next hne =>
    obtain ⟨name, hname⟩ := List.exists_mem_of_ne_nil _ hne
    obtain ⟨hname, hsource⟩ := List.mem_filter.mp hname
    split at h
    · rcases Effect.andThen_eq_error_iff.mp h with h | ⟨_, _, h⟩
      · exact absurd he (not_precedesChanges_of_deleteAll h)
      · cases h
    · next hforce =>
      cases h
      exact .source hs hn hname hsource (Bool.eq_false_iff.mpr hforce)

/-- A refused directory is left as it is. -/
theorem prepare_of_refused (h : Refused directory force s error) :
    (prepare directory force s).result = .error error ∧
      (prepare directory force s).system = s := by
  cases h with
  | file h => simp only [prepare, h, and_self]
  | hidden h hne => simp only [prepare, h, and_self]
  | source h hn hname hsource hforce =>
    subst hforce
    simp only [prepare, h]
    exact clean_of_source hn hname hsource

/-- Preparing a directory fails before any change only if the directory is refused. -/
theorem refused_of_prepare (h : (prepare directory force s).result = .error error)
    (he : error.PrecedesChanges) : Refused directory force s error := by
  simp only [prepare] at h
  split at h
  · next hs => exact refused_of_clean hs h he
  · next hs =>
    cases h
    exact .file hs
  · split at h
    · cases h
    -- the directory could not be made, which is a change that failed
    · cases h
      exact absurd trivial he
  · next fault hne hs =>
    cases h
    exact .hidden hs hne

/-! ### Runs -/

/-- A translation fails before any change. -/
theorem precedesChanges_of_translate (h : (translate package text).result = .error error) :
    error.PrecedesChanges := by
  simp only [translate, translateDocument, translateExtraction] at h
  repeat' split at h
  all_goals cases h <;> exact trivial

/-- Writing a package fails before any change only if its directory is refused. -/
theorem refused_of_writePackage (p : Java.Package) (stats : Stats)
    (h : (writePackage output package force p stats s).result = .error error)
    (he : error.PrecedesChanges) : Refused (storeDirectory output package) force s error := by
  simp only [writePackage] at h
  rcases Effect.andThen_eq_error_iff.mp h with h | ⟨removed, -, h⟩
  · exact refused_of_prepare h he
  · rcases Effect.andThen_eq_error_iff.mp h with h | ⟨_, _, h⟩
    · exact absurd he (not_precedesChanges_of_writeAll h)
    · cases h

/-- A package whose directory is refused is not written. -/
theorem writePackage_of_refused (p : Java.Package) (stats : Stats)
    (h : Refused (storeDirectory output package) force s error) :
    (writePackage output package force p stats s).result = .error error ∧
      (writePackage output package force p stats s).system = s := by
  obtain ⟨hresult, hsystem⟩ := prepare_of_refused h
  simp only [writePackage, Effect.andThen, hresult, hsystem, and_self]

theorem generate_of_error (output : String) (force : Bool) (s : System)
    (h : (translate package text).result = .error error) :
    (generate output package force text s).result = .error error ∧
      (generate output package force text s).system = s := by
  simp only [generate, h, and_self]

theorem generate_of_ok (output : String) (force : Bool) (s : System) {product : Product}
    (h : (translate package text).result = .ok product) :
    (generate output package force text s).result =
        (writePackage output package force product.package product.stats s).result.map
          Written.stats ∧
      (generate output package force text s).system =
        (writePackage output package force product.package product.stats s).system := by
  simp only [generate, h, and_self]

theorem Refused.precedesChanges (h : Refused directory force s error) : error.PrecedesChanges := by
  cases h <;> simp [Error.PrecedesChanges, Action.Changes]

/-- **Failing before any change.**  Whatever the files, the text, the package, the output and the
leave to delete: a run that fails, and not in making a directory, deleting or writing, leaves
everything as it was.  These failures are those of texts from which no package comes, and of store
directories that are refused. -/
theorem generate_untouched (output package : String) (force : Bool) (text : String) (s : System)
    (error : Error) :
    (EndsEarly output package force text s error ↔
        (generate output package force text s).result = .error error ∧ error.PrecedesChanges) ∧
      ((generate output package force text s).result = .error error → error.PrecedesChanges →
        (generate output package force text s).system = s) := by
  have hends : EndsEarly output package force text s error →
      ((generate output package force text s).result = .error error ∧ error.PrecedesChanges) ∧
        (generate output package force text s).system = s := by
    rintro (h | ⟨h, hr⟩)
    · obtain ⟨hresult, hsystem⟩ := generate_of_error output force s h
      exact ⟨⟨hresult, precedesChanges_of_translate h⟩, hsystem⟩
    · obtain ⟨hresult, hsystem⟩ := generate_of_ok output force s h
      obtain ⟨hwritten, hsame⟩ := writePackage_of_refused _ _ hr
      exact ⟨⟨by rw [hresult, hwritten]; rfl, hr.precedesChanges⟩, hsystem.trans hsame⟩
  have hearly : (generate output package force text s).result = .error error →
      error.PrecedesChanges → EndsEarly output package force text s error := by
    intro h he
    cases ht : (translate package text).result with
    | error error' =>
      rw [(generate_of_error output force s ht).1, Except.error.injEq] at h
      exact .untranslated (h ▸ ht)
    | ok product =>
      rw [(generate_of_ok output force s ht).1] at h
      refine .refused ht (refused_of_writePackage product.package product.stats ?_ he)
      cases hw : (writePackage output package force product.package product.stats s).result with
      | error error' => rw [hw] at h; exact congrArg Except.error (Except.error.inj h)
      | ok written => rw [hw] at h; cases h
  exact ⟨⟨fun h => (hends h).1, fun h => hearly h.1 h.2⟩, fun h he => (hends (hearly h he)).2⟩

/-- A working directory with a source in the store directory of the package `pets`. -/
def withSource : System where
  entries := Std.ExtTreeMap.ofList
    [(["home"], Entry.directory), (["home", "out"], Entry.directory),
      (["home", "out", "pets"], Entry.directory),
      (["home", "out", "pets", "Old.java"], Entry.file (Files.encode "class Old"))]
  workingDirectory := ["home"]

/-- A text that is translated. -/
def soundText : String := "components: \x7bschemas: \x7ba: \x7btype: object\x7d\x7d\x7d"

/-- A text with a faulty schema. -/
def faultyText : String := "components: \x7bschemas: \x7ba: 1\x7d\x7d"

/-- Without leave to delete the source, a run fails and the source stays.  With it, a faulty schema
makes the run fail before the source is deleted. -/
theorem withSource_untouched :
    (generate "out" "pets" false soundText withSource).result = .error (.overwrite "out/pets") ∧
      (generate "out" "pets" false soundText withSource).system = withSource ∧
      ∃ errors, (generate "out" "pets" true faultyText withSource).result =
          .error (.schemas errors) ∧
        (generate "out" "pets" true faultyText withSource).system = withSource := by
  obtain ⟨product, hsound, -⟩ := Schema.exists_of_toOption_any (P := fun _ => true)
    (show (translate "pets" soundText).result.toOption.any _ = true by decide +kernel)
  have hnames : withSource.fileNames (storeDirectory "out" "pets") = .ok ["Old.java"] := by
    decide +kernel
  have hrefused : EndsEarly "out" "pets" false soundText withSource (.overwrite "out/pets") :=
    .refused hsound (.source (by decide +kernel) hnames List.mem_cons_self (by decide +kernel) rfl)
  obtain ⟨hends, hsame⟩ := generate_untouched "out" "pets" false soundText withSource
    (.overwrite "out/pets")
  obtain ⟨hresult, hearly⟩ := hends.mp hrefused
  obtain ⟨errors, hfaulty⟩ : ∃ errors, (translate "pets" faultyText).result =
      .error (.schemas errors) := by
    have hrun : (match (translate "pets" faultyText).result with
        | .error (.schemas _) => true
        | _ => false) = true := by decide +kernel
    split at hrun
    · next errors h => exact ⟨errors, h⟩
    · cases hrun
  obtain ⟨hends', hsame'⟩ := generate_untouched "out" "pets" true faultyText withSource
    (.schemas errors)
  obtain ⟨hresult', hearly'⟩ := hends'.mp (.untranslated hfaulty)
  exact ⟨hresult, hsame hresult hearly, errors, hresult', hsame' hresult' hearly'⟩

end SchemaBeans.Generation

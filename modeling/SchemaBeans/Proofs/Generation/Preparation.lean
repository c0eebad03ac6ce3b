import Mathlib.Data.List.Nodup
import SchemaBeans.Proofs.Files.Contents
import SchemaBeans.Proofs.Generation.Untouched

/-!
# Generation — preparing a directory

Before sources are written their directory is made, or emptied of sources.  After that the path of
the directory leads to it, the directories on the way are there, the sources that were deleted are
gone, and nothing else has changed (`exists_prepared`).

All sources in the directory are deleted, unless the directory was *overlooked*: its path led
nowhere, as a directory on the way was missing, and yet the directory was there, for the path leaves
the missing one again by a step up.  Then the missing directory is made, and the sources stay.

A directory that its path leads to can be emptied if each of its sources can be named there
(`exists_prepare_of_fits`).
-/

namespace SchemaBeans.Generation

open Files (Entry Location System)
open Files.Path (IsFileName join)
open Files.System (Fits)

variable {s s' : System} {directory : String} {store l : Location} {names : List String}
  {force : Bool} {count : Nat}

/-- At the location there is a source: a file right below the directory, with the extension of
sources. -/
def IsSourceIn (s : System) (store l : Location) : Prop :=
  ∃ name content, l = store ++ [name] ∧ isSourceName name = true ∧
    s.entry? l = some (.file content)

/-- There is a directory, but the path that should lead to it leads nowhere. -/
def Overlooked (s : System) (path : String) (l : Location) : Prop :=
  s.status path = .error .notFound ∧ s.entry? l = some .directory

/-! ### Deleting -/

/-- The second one is the first one without the files at these locations. -/
structure Removes (s : System) (removed : List Location) (s' : System) : Prop where
  isTree : s'.IsTree
  workingDirectory : s'.workingDirectory = s.workingDirectory
  directories {l : Location} : s.entry? l = some .directory → s'.entry? l = some .directory
  entry? (l : Location) : s'.entry? l = if l ∈ removed then none else s.entry? l

theorem removes_nil (hs : s.IsTree) : Removes s [] s where
  isTree := hs
  workingDirectory := rfl
  directories := id
  entry? _ := by rw [if_neg List.not_mem_nil]

/-- One file is deleted before the others. -/
theorem Removes.cons {content : List UInt8} {removed : List Location}
    (hl : s.entry? l = some (.file content)) (h : Removes (s.erase l) removed s') :
    Removes s (l :: removed) s' where
  isTree := h.isTree
  workingDirectory := h.workingDirectory
  directories hd := h.directories (System.directory_erase hl hd)
  entry? m := by
    have hroot : l ≠ [] := by
      rintro rfl
      cases hl
    rw [h.entry?]
    by_cases hm : m = l
    · rw [hm, System.entry?_erase_self hroot, ite_self, if_pos List.mem_cons_self]
    · simp only [System.entry?_erase_of_ne hm, List.mem_cons, hm, false_or]

/-- **Deleting.**  The files of these names in a directory are gone, and nothing else. -/
theorem removes_of_deleteAll (hs : s.IsTree) (hd : s.IsDirectoryAt directory store)
    (hn : ∀ name ∈ names, IsFileName name)
    (h : (deleteAll s (names.map (join directory))).result = .ok ()) :
    Removes s (names.map fun name => store ++ [name])
      (deleteAll s (names.map (join directory))).system := by
  induction names generalizing s with
  | nil => exact removes_nil hs
  | cons name names ih =>
    rw [List.forall_mem_cons] at hn
    simp only [List.map_cons, deleteAll] at h ⊢
    cases hr : s.remove (join directory name) with
    | error fault => simp [hr] at h
    | ok s₁ =>
      simp only [hr] at h ⊢
      obtain ⟨-, ⟨content, hfile⟩, rfl⟩ := (System.remove_join_eq_ok_iff hd hn.1).mp hr
      exact .cons hfile
        (ih (hs.erase hfile) (hd.mono (fun _ => System.directory_erase hfile) rfl) hn.2 h)

/-- Files that can be named in a directory can be deleted there. -/
theorem deleteAll_of_fits (hd : s.IsDirectoryAt directory store) (hnodup : names.Nodup)
    (hn : ∀ name ∈ names, IsFileName name ∧ Fits directory name ∧
      ∃ content, s.entry? (store ++ [name]) = some (.file content)) :
    (deleteAll s (names.map (join directory))).result = .ok () := by
  induction names generalizing s with
  | nil => rfl
  | cons name names ih =>
    obtain ⟨hnot, hnodup⟩ := List.nodup_cons.mp hnodup
    rw [List.forall_mem_cons] at hn
    obtain ⟨⟨hname, hfits, content, hfile⟩, hn⟩ := hn
    have hr := (System.remove_join_eq_ok_iff hd hname).mpr ⟨hfits, ⟨content, hfile⟩, rfl⟩
    rw [List.map_cons, deleteAll]
    simp only [hr]
    refine ih (hd.mono (fun _ => System.directory_erase hfile) rfl) hnodup fun name' hmem => ?_
    obtain ⟨hname', hfits', content', hfile'⟩ := hn name' hmem
    have hne : store ++ [name'] ≠ store ++ [name] := by
      simp only [ne_eq, List.append_cancel_left_eq, List.cons.injEq, and_true]
      rintro rfl
      exact hnot hmem
    exact ⟨hname', hfits', content', by rw [System.entry?_erase_of_ne hne, hfile']⟩

/-! ### Emptying -/

/-- The names of the sources in a directory are those of its files with the extension. -/
theorem mem_filter_isSourceName_iff (hd : s.IsDirectoryAt directory store)
    (h : s.fileNames directory = .ok names) :
    l ∈ (names.filter isSourceName).map (fun name => store ++ [name]) ↔ IsSourceIn s store l := by
  rw [List.mem_map]
  refine ⟨?_, ?_⟩
  · rintro ⟨name, hmem, rfl⟩
    obtain ⟨hmem, hsource⟩ := List.mem_filter.mp hmem
    obtain ⟨content, hfile⟩ := (System.mem_fileNames_iff hd h).mp hmem
    exact ⟨name, content, rfl, hsource, hfile⟩
  · rintro ⟨name, content, rfl, hsource, hfile⟩
    have hname := (System.mem_fileNames_iff hd h).mpr ⟨content, hfile⟩
    exact ⟨name, List.mem_filter.mpr ⟨hname, hsource⟩, rfl⟩

/-- **Emptying.**  The sources in the directory are deleted, and nothing else.  Without leave to
delete there were none. -/
theorem exists_removes_of_clean (hs : s.IsTree) (hd : s.IsDirectoryAt directory store)
    (h : (clean directory force s).result = .ok count) :
    ∃ removed, Removes s removed (clean directory force s).system ∧ removed.Nodup ∧
      removed.length = count ∧ (force = false → removed = []) ∧
      ∀ l, l ∈ removed ↔ IsSourceIn s store l := by
  rw [clean] at h ⊢
  cases hn : s.fileNames directory with
  | error fault => simp [hn] at h
  | ok names =>
    have hmem := fun l => mem_filter_isSourceName_iff (l := l) hd hn
    simp only [hn] at h ⊢
    cases hsources : names.filter isSourceName with
    | nil =>
      simp only [hsources] at h hmem ⊢
      exact ⟨[], removes_nil hs, List.nodup_nil, Except.ok.inj h, fun _ => rfl, hmem⟩
    | cons first rest =>
      simp only [hsources] at h ⊢
      cases force with
      | false => cases h
      | true =>
        simp only [if_true] at h ⊢
        obtain ⟨_, hdelete, hcount⟩ := Effect.exists_of_andThen_eq_ok h
        rw [(Effect.andThen_of_ok _ hdelete).1]
        rw [← hsources] at hdelete hcount ⊢
        have hnames : ∀ name ∈ names.filter isSourceName, IsFileName name := by
          intro name hname
          obtain ⟨content, hfile⟩ :=
            (System.mem_fileNames_iff hd hn).mp (List.mem_filter.mp hname).1
          exact hs.isFileName hfile
        have hnodup := (System.nodup_fileNames hd hn).filter isSourceName
        have hinjective : Function.Injective fun name => store ++ [name] := by
          intro name name' he
          simpa using he
        refine ⟨_, removes_of_deleteAll hs hd hnames hdelete, List.Nodup.map hinjective hnodup, ?_,
          ?_, hmem⟩
        · rw [List.length_map]
          exact Except.ok.inj hcount
        · rintro ⟨⟩

/-! ### Preparing -/

/-- The second one is the first one with a directory prepared for sources. -/
structure Prepared (s : System) (directory : String) (store : Location) (removed : List Location)
    (s' : System) : Prop where
  isTree : s'.IsTree
  workingDirectory : s'.workingDirectory = s.workingDirectory
  isDirectoryAt : s'.IsDirectoryAt directory store
  directories {l : Location} : s.entry? l = some .directory → s'.entry? l = some .directory
  gone {l : Location} : l ∈ removed → s'.entry? l = none
  kept {l : Location} {e : Entry} : s.entry? l = some e → l ∉ removed → s'.entry? l = some e
  missing {l : Location} : s.entry? l = none →
    s'.entry? l = if l ∈ s.way directory then some .directory else none
  nodup : removed.Nodup
  mem_removed {l : Location} : l ∈ removed ↔ IsSourceIn s store l ∧ ¬Overlooked s directory store

/-- Emptying a directory prepares it. -/
theorem prepared_of_removes {removed : List Location}
    (hstatus : s.status directory = .ok .directory) (hd : s.IsDirectoryAt directory store)
    (h : Removes s removed s') (hnodup : removed.Nodup)
    (hmem : ∀ l, l ∈ removed ↔ IsSourceIn s store l) :
    Prepared s directory store removed s' where
  isTree := h.isTree
  workingDirectory := h.workingDirectory
  isDirectoryAt := hd.mono (fun _ => h.directories) h.workingDirectory
  directories := h.directories
  gone hl := by rw [h.entry?, if_pos hl]
  kept he hl := by rw [h.entry?, if_neg hl, he]
  missing {l} hnone := by
    have hnot : l ∉ s.way directory := fun hl => by
      cases hnone.symm.trans (hd.directory_of_mem_way hl)
    rw [h.entry?, hnone, ite_self, if_neg hnot]
  nodup := hnodup
  mem_removed {l} := by
    have hnot : ¬Overlooked s directory store := fun ho => by cases hstatus.symm.trans ho.1
    rw [hmem, and_iff_left hnot]

/-- Making a directory prepares it. -/
theorem prepared_of_makes (hs : s.IsTree) (hstatus : s.status directory = .error .notFound)
    (h : s.Makes (s.way directory) s') (hd : s'.IsDirectoryAt directory store) :
    Prepared s directory store [] s' where
  isTree := h.isTree
  workingDirectory := h.workingDirectory
  isDirectoryAt := hd
  directories hl := h.kept hl
  gone hl := absurd hl List.not_mem_nil
  kept he _ := h.kept he
  missing hnone := by rw [h.entry?, hnone]
  nodup := List.nodup_nil
  mem_removed {l} := by
    -- a source lies in a directory, which its path did not lead to
    simp only [List.not_mem_nil, false_iff, not_and, not_not]
    rintro ⟨name, content, rfl, -, hfile⟩
    exact ⟨hstatus, hs.directory hfile⟩

/-- A directory that its path led to is the one that is prepared. -/
theorem Prepared.store_eq {removed : List Location} (h : Prepared s directory store removed s')
    (hd : s.IsDirectoryAt directory l) : store = l :=
  h.isDirectoryAt.unique (hd.mono (fun _ => h.directories) h.workingDirectory)

/-- **Preparing a directory.**  Whatever the files, a directory that could be prepared is there,
with all on its way, and without the sources that were in it, unless it was overlooked. -/
theorem exists_prepared (hs : s.IsTree) (h : (prepare directory force s).result = .ok count) :
    ∃ store removed, Prepared s directory store removed (prepare directory force s).system ∧
      removed.length = count ∧ (force = false → removed = []) := by
  rw [prepare] at h ⊢
  cases hstatus : s.status directory with
  | ok entry =>
    cases entry with
    | file content => simp [hstatus] at h
    | directory =>
      simp only [hstatus] at h ⊢
      obtain ⟨-, store, hd⟩ := System.status_eq_directory_iff.mp hstatus
      obtain ⟨removed, hremoves, hnodup, hlength, hforce, hmem⟩ := exists_removes_of_clean hs hd h
      exact ⟨store, removed, prepared_of_removes hstatus hd hremoves hnodup hmem, hlength,
        hforce⟩
  | error fault =>
    cases fault with
    | notFound =>
      simp only [hstatus] at h ⊢
      cases hc : s.createDirectories directory with
      | mk s' result =>
        cases result with
        | error fault => simp [hc] at h
        | ok =>
          simp only [hc, Except.ok.injEq] at h ⊢
          obtain ⟨hmakes, store, hd⟩ := System.makes_of_createDirectories hs hc
          exact ⟨store, [], prepared_of_makes hs hstatus hmakes hd, h, fun _ => rfl⟩
    | _ => simp [hstatus] at h

/-- A directory that could be prepared has a path with which nothing is wrong as a text. -/
theorem pathFault?_of_prepare (hne : directory ≠ "")
    (h : (prepare directory force s).result = .ok count) :
    System.pathFault? directory = none := by
  cases hf : System.pathFault? directory with
  | none => rfl
  | some fault =>
    have hstatus : s.status directory = .error fault := by
      simp only [System.status, System.locate, hf, Except.bind]
    cases fault with
    | notFound => exact absurd (System.pathFault?_eq_notFound hf) hne
    | _ => simp [prepare, hstatus] at h

/-- A directory that its path leads to can be emptied with leave to delete, if all its sources can
be named there. -/
theorem exists_prepare_of_fits (hs : s.IsTree) (hf : System.pathFault? directory = none)
    (hd : s.IsDirectoryAt directory store)
    (hn : ∀ name, IsSourceIn s store (store ++ [name]) → Fits directory name) :
    ∃ count, (prepare directory true s).result = .ok count := by
  have hstatus := System.status_eq_directory_iff.mpr ⟨hf, store, hd⟩
  obtain ⟨names, hnames⟩ := exists_fileNames_of_status hstatus
  simp only [prepare, hstatus, clean, hnames, if_true]
  split
  · exact ⟨_, rfl⟩
  · next hsources =>
    have hdelete := deleteAll_of_fits hd ((System.nodup_fileNames hd hnames).filter isSourceName)
      fun name hname => by
        obtain ⟨hname, hsource⟩ := List.mem_filter.mp hname
        obtain ⟨content, hfile⟩ := (System.mem_fileNames_iff hd hnames).mp hname
        exact ⟨hs.isFileName hfile, hn name ⟨name, content, rfl, hsource, hfile⟩, content, hfile⟩
    exact ⟨_, (Effect.andThen_of_ok _ hdelete).2⟩

end SchemaBeans.Generation

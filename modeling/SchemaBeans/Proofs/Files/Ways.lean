import SchemaBeans.Proofs.Files.Trees

/-!
# Files — ways

The *way* of a path is what its steps lead through: the locations of the directories that lead to
it, those included that the path leaves again by a step up (`way`).

Making the directory at a path makes those on its way that are missing, and nothing else
(`makes_of_createDirectories`).  Afterwards the path leads to a directory.

That directory may have been there all the time: a path does not lead through a directory that is
missing, even if it leaves it again.  Without a step up this cannot be, and the path led to the
directory before (`isDirectoryAt_of_entry?`).
-/

namespace SchemaBeans.Files

namespace Path

open SchemaBeans.Text

/-- What can stand between the slashes of a path. -/
def IsStep (name : String) : Prop := '/' ∉ name.toList ∧ name ≠ ""

theorem isStep_of_mem_names {path name : String} (h : name ∈ names path) : IsStep name := by
  obtain ⟨piece, hpiece, rfl⟩ := List.mem_map.mp h
  obtain ⟨hpiece, hempty⟩ := List.mem_filter.mp hpiece
  refine ⟨?_, ?_⟩
  · rw [String.toList_ofList]
    exact fun hslash => absurd (eq_false_of_mem_split hpiece hslash) (by decide)
  · rintro he
    rw [String.ofList_eq_empty_iff.mp he] at hempty
    cases hempty

theorem isStep_of_mem_steps {path name : String} (h : name ∈ steps path) : IsStep name := by
  rcases List.mem_append.mp h with h | h
  · exact isStep_of_mem_names h
  · split at h
    · rw [List.mem_singleton.mp h]
      exact ⟨by decide, by decide⟩
    · cases h

end Path

namespace System

open SchemaBeans.Files.Path (IsFileName IsStep)

variable {s s₁ s' : System} {here there l m : Location} {path name : String} {names : List String}
  {made : List Location}

/-! ### Directories along steps -/

theorem step_eq_ok (hn : IsStep name) (h : step here name = .ok there) :
    there = here ∨ there = here.dropLast ∨ IsFileName name ∧ there = here ++ [name] := by
  rw [step] at h
  split at h
  · exact Or.inl (Except.ok.inj h).symm
  · next hdot =>
    split at h
    · exact Or.inr (Or.inl (Except.ok.inj h).symm)
    · next hdots =>
      split at h
      · cases h
      · exact Or.inr (Or.inr ⟨⟨hn.1, hn.2, hdot, hdots⟩, (Except.ok.inj h).symm⟩)

/-- From a directory a step leads to a new location only right below it. -/
theorem IsTree.eq_concat_of_step (hs : s.IsTree) (hd : s.entry? here = some .directory)
    (hn : IsStep name) (h : step here name = .ok there) (hnone : s.entry? there = none) :
    IsFileName name ∧ there = here ++ [name] := by
  rcases step_eq_ok hn h with rfl | rfl | hnew
  · cases hnone.symm.trans hd
  · cases hnone.symm.trans (hs.directory_dropLast hd)
  · exact hnew

/-- Steps that lead somewhere begin with one from a directory. -/
theorem walk_cons_eq_ok : s.walk here (name :: names) = .ok there ↔
    s.entry? here = some .directory ∧ ∃ next, step here name = .ok next ∧
      s.walk next names = .ok there := by
  rw [walk]
  cases s.entry? here with
  | none => simp
  | some entry =>
    cases entry with
    | file content => simp
    | directory => cases step here name <;> simp

/-- Steps that lead to a directory begin at one. -/
theorem directory_of_walk (hw : s.walk here names = .ok there)
    (hd : s.entry? there = some .directory) : s.entry? here = some .directory := by
  cases names with
  | nil => rwa [Except.ok.inj hw]
  | cons name names => exact (walk_cons_eq_ok.mp hw).1

/-- The locations that steps lead through. -/
def trail : (here : Location) → List String → List Location
  | _, [] => []
  | here, name :: names =>
    match step here name with
    | .ok there => there :: trail there names
    | .error _ => []

/-- Where steps lead to a directory, they lead through directories. -/
theorem directory_of_mem_trail (hw : s.walk here names = .ok there)
    (hd : s.entry? there = some .directory) (hm : m ∈ trail here names) :
    s.entry? m = some .directory := by
  induction names generalizing here with
  | nil => cases hm
  | cons name names ih =>
    obtain ⟨-, next, hstep, hw⟩ := walk_cons_eq_ok.mp hw
    simp only [trail, hstep, List.mem_cons] at hm
    rcases hm with rfl | hm
    · exact directory_of_walk hw hd
    · exact ih hw hm

/-- The locations of the directories that lead to a path, and its own. -/
def way (s : System) (path : String) : List Location := trail (s.start path) (Path.steps path)

theorem way_congr (h : s'.workingDirectory = s.workingDirectory) : s'.way path = s.way path := by
  rw [way, way, start, start, h]

/-! ### Making directories -/

/-- The second one is the first one with directories made at these locations. -/
structure Makes (s : System) (made : List Location) (s' : System) : Prop where
  isTree : s'.IsTree
  workingDirectory : s'.workingDirectory = s.workingDirectory
  entry? (l : Location) : s'.entry? l = if l ∈ made then some .directory else s.entry? l
  kept {l : Location} {e : Entry} : s.entry? l = some e → s'.entry? l = some e

namespace Makes

theorem of_directories (hs : s.IsTree) (h : ∀ l ∈ made, s.entry? l = some .directory) :
    s.Makes made s where
  isTree := hs
  workingDirectory := rfl
  entry? l := by
    split
    · next hl => exact h l hl
    · rfl
  kept := id

/-- One directory is made before the others. -/
theorem cons (h : s₁.Makes made s') (hfirst : s.Makes [there] s₁) : s.Makes (there :: made) s' where
  isTree := h.isTree
  workingDirectory := h.workingDirectory.trans hfirst.workingDirectory
  entry? l := by
    rw [h.entry?, hfirst.entry?]
    by_cases hmade : l ∈ made <;> by_cases hl : l = there <;> simp [hmade, hl]
  kept hl := h.kept (hfirst.kept hl)

/-- A directory is made where nothing is. -/
theorem put (hs : s.IsTree) (hd : s.entry? here = some .directory) (hn : IsFileName name)
    (hnone : s.entry? (here ++ [name]) = none) :
    s.Makes [here ++ [name]] (s.put (here ++ [name]) .directory) := by
  have hnot : s.entry? (here ++ [name]) ≠ some .directory := by simp [hnone]
  refine ⟨hs.put hd hn hnot .directory, rfl, fun l => ?_, fun {l e} hl => ?_⟩
  · simp only [List.mem_singleton]
    split
    · next hl => rw [hl, entry?_put_self hnot]
    · next hl => exact entry?_put_of_ne hl
  · have hne : l ≠ here ++ [name] := by
      rintro rfl
      cases hnone.symm.trans hl
    rw [entry?_put_of_ne hne, hl]

end Makes

/-- **Making directories along steps.**  Those that the steps lead through are made, and nothing
else; then the steps lead to a directory. -/
theorem makes_of_ensure (hs : s.IsTree) (hhere : s.entry? here = some .directory)
    (hn : ∀ name ∈ names, IsStep name) (h : s.ensure here names = (s', .ok ())) :
    s.Makes (trail here names) s' ∧
      ∃ there, s'.walk here names = .ok there ∧ s'.entry? there = some .directory := by
  induction names generalizing s here with
  | nil =>
    obtain ⟨rfl, -⟩ := Prod.mk.inj h
    exact ⟨.of_directories hs fun _ hm => absurd hm List.not_mem_nil, here, rfl, hhere⟩
  | cons name names ih =>
    rw [List.forall_mem_cons] at hn
    rw [ensure] at h
    cases hstep : step here name with
    | error fault => simp [hstep] at h
    | ok next =>
      simp only [hstep] at h
      -- the first directory is there, or it is made
      obtain ⟨s₁, hfirst, hrest⟩ : ∃ s₁ : System, s.Makes [next] s₁ ∧
          s₁.ensure next names = (s', .ok ()) := by
        cases hnext : s.entry? next with
        | none =>
          simp only [hnext] at h
          obtain ⟨hname, rfl⟩ := hs.eq_concat_of_step hhere hn.1 hstep hnext
          exact ⟨_, .put hs hhere hname hnext, h⟩
        | some entry =>
          cases entry with
          | file content => simp [hnext] at h
          | directory =>
            simp only [hnext] at h
            exact ⟨s, .of_directories hs (by simpa using hnext), h⟩
      have hnext : s₁.entry? next = some .directory := by
        rw [hfirst.entry?, if_pos List.mem_cons_self]
      obtain ⟨hmakes, there, hwalk, hdir⟩ := ih hfirst.isTree hnext hn.2 hrest
      have hcons := hmakes.cons hfirst
      refine ⟨by simpa only [trail, hstep] using hcons, there, ?_, hdir⟩
      exact walk_cons_eq_ok.mpr ⟨hcons.kept hhere, next, hstep, hwalk⟩

/-! ### Paths -/

theorem IsTree.directory_start (hs : s.IsTree) (path : String) :
    s.entry? (s.start path) = some .directory := by
  rw [start]
  split
  · exact entry?_nil
  · exact hs.workingDirectory

/-- A path leads to a directory if its steps do. -/
theorem isDirectoryAt_iff_steps : s.IsDirectoryAt path l ↔
    s.walk (s.start path) (Path.steps path) = .ok l ∧ s.entry? l = some .directory := by
  rw [Path.steps]
  split
  · rw [← isDirectoryAt_iff]
    exact ⟨fun h => ⟨h, h.directory⟩, fun h => h.1⟩
  · rw [List.append_nil]
    exact ⟨fun h => ⟨h.walk, h.directory⟩, fun h => ⟨h.1, h.2⟩⟩

theorem IsDirectoryAt.unique (h : s.IsDirectoryAt path l) (h' : s.IsDirectoryAt path m) : l = m :=
  Except.ok.inj (h.walk.symm.trans h'.walk)

/-- The only path that leads nowhere as a text is the empty one. -/
theorem pathFault?_eq_notFound (h : pathFault? path = some .notFound) : path = "" := by
  rw [pathFault?] at h
  repeat' split at h
  all_goals first | assumption | cases h

theorem IsDirectoryAt.locate (h : s.IsDirectoryAt path l) (hf : pathFault? path = none) :
    s.locate path = .ok l := by
  rw [System.locate, hf]
  exact (isDirectoryAt_iff_steps.mp h).1

/-- At a path there is a directory if nothing is wrong with the path as a text and it leads to
one. -/
theorem status_eq_directory_iff : s.status path = .ok .directory ↔
    pathFault? path = none ∧ ∃ l, s.IsDirectoryAt path l := by
  refine ⟨fun h => ?_, ?_⟩
  · rw [status, System.locate] at h
    cases hf : pathFault? path with
    | some fault => simp [hf, Except.bind] at h
    | none =>
      simp only [hf] at h
      cases hw : s.walk (s.start path) (Path.steps path) with
      | error fault => simp [hw, Except.bind] at h
      | ok l =>
        simp only [hw, Except.bind] at h
        split at h
        · next he => exact ⟨rfl, l, isDirectoryAt_iff_steps.mpr ⟨hw, he.trans (by cases h; rfl)⟩⟩
        · cases h
  · rintro ⟨hf, l, hl⟩
    simp only [status, hl.locate hf, Except.bind, hl.directory]

/-- The way of a path that leads to a directory is there. -/
theorem IsDirectoryAt.directory_of_mem_way (h : s.IsDirectoryAt path l) (hm : m ∈ s.way path) :
    s.entry? m = some .directory :=
  have hsteps := isDirectoryAt_iff_steps.mp h
  directory_of_mem_trail hsteps.1 hsteps.2 hm

/-- **Making a directory.**  Those on the way of the path are made, and nothing else; then the path
leads to a directory. -/
theorem makes_of_createDirectories (hs : s.IsTree) (h : s.createDirectories path = (s', .ok ())) :
    s.Makes (s.way path) s' ∧ ∃ l, s'.IsDirectoryAt path l := by
  rw [createDirectories] at h
  split at h
  · next hempty =>
    obtain ⟨rfl, -⟩ := Prod.mk.inj h
    subst hempty
    have hat : s.IsDirectoryAt "" (s.start "") := ⟨rfl, hs.directory_start ""⟩
    exact ⟨.of_directories hs fun _ => hat.directory_of_mem_way, _, hat⟩
  · split at h
    · cases h
    · obtain ⟨hmakes, l, hw, hd⟩ := makes_of_ensure hs (hs.directory_start path)
        (fun _ => Path.isStep_of_mem_steps) h
      have hstart : s'.start path = s.start path := by rw [start, start, hmakes.workingDirectory]
      exact ⟨hmakes, l, isDirectoryAt_iff_steps.mpr ⟨hstart ▸ hw, hd⟩⟩

/-! ### Paths without a step up -/

/-- Without a step up, steps lead below where they begin. -/
theorem isPrefix_of_walk (hup : ".." ∉ names) (hw : s.walk here names = .ok l) : here <+: l := by
  induction names generalizing here with
  | nil =>
    obtain rfl := Except.ok.inj hw
    exact List.prefix_rfl
  | cons name names ih =>
    obtain ⟨hname, hup⟩ := not_or.mp fun h => hup (List.mem_cons.mpr h)
    obtain ⟨-, next, hstep, hw⟩ := walk_cons_eq_ok.mp hw
    refine List.IsPrefix.trans ?_ (ih hup hw)
    rw [step, if_neg (Ne.symm hname)] at hstep
    split at hstep
    · obtain rfl := Except.ok.inj hstep
      exact List.prefix_rfl
    · split at hstep
      · cases hstep
      · rw [← Except.ok.inj hstep]
        exact List.prefix_append _ _

/-- Without a step up, the way of a path leads down to where the path leads. -/
theorem isPrefix_of_mem_way (hup : ".." ∉ Path.names path) (h : s.IsDirectoryAt path l)
    (hm : m ∈ s.way path) : m <+: l := by
  have htrail : ∀ {names here}, ".." ∉ names → s.walk here names = .ok l →
      m ∈ trail here names → m <+: l := by
    intro names
    induction names with
    | nil => exact fun _ _ hm => absurd hm List.not_mem_nil
    | cons name names ih =>
      intro here hup hw hm
      have hup : ".." ∉ names := fun h => hup (List.mem_cons_of_mem _ h)
      obtain ⟨-, next, hstep, hw⟩ := walk_cons_eq_ok.mp hw
      simp only [trail, hstep, List.mem_cons] at hm
      rcases hm with rfl | hm
      · exact isPrefix_of_walk hup hw
      · exact ih hup hw hm
  refine htrail ?_ (isDirectoryAt_iff_steps.mp h).1 hm
  rw [Path.steps, List.mem_append, not_or]
  refine ⟨hup, ?_⟩
  split <;> simp

/-- **What is there can be reached.**  If a path without a step up leads to a location in one tree,
then it does in every tree that has a directory there. -/
theorem isDirectoryAt_of_entry? (hs : s.IsTree) (hup : ".." ∉ Path.names path)
    (hw : s'.workingDirectory = s.workingDirectory) (h : s'.IsDirectoryAt path l)
    (hl : s.entry? l = some .directory) : s.IsDirectoryAt path l := by
  have hwalk : ∀ {names here}, ".." ∉ names → s'.walk here names = .ok l →
      s.walk here names = .ok l := by
    intro names
    induction names with
    | nil => exact fun _ hw => hw
    | cons name names ih =>
      intro here hup hw
      have hhere := hs.directory_of_isPrefix hl (isPrefix_of_walk hup hw)
      obtain ⟨-, next, hstep, hw⟩ := walk_cons_eq_ok.mp hw
      exact walk_cons_eq_ok.mpr
        ⟨hhere, next, hstep, ih (fun h => hup (List.mem_cons_of_mem _ h)) hw⟩
  have hstart : s.start path = s'.start path := by rw [start, start, hw]
  exact ⟨hstart ▸ hwalk hup h.walk, hl⟩

end System

end SchemaBeans.Files

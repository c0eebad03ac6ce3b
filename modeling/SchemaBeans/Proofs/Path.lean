import Mathlib.Data.List.Basic
import Mathlib.Data.List.TakeWhile
import SchemaBeans.Schema.Path

/-!
# Paths — what lies within what

Every fact about a path is read off one equation: a path lies within another exactly when it is
that path or one of its children (`isWithin_iff`), where a child's name may be any text, with
separators or without.

A name without a separator is a *segment*.  Only for segments does a child know its parent and its
name (`parent?_child`, `last_child`), and only they keep siblings apart
(`eq_of_isWithin_children`).

The schemas lie below `base`.  There the path of the top-level schema that holds a path is `base`
with the first segment of what follows (`root_child_base`), and a path lies within a top-level
schema exactly when that schema is its root (`isWithin_root_iff`).
-/

namespace SchemaBeans.Schema.Path

/-! ### Children -/

/-- The name is one segment of a path. -/
def IsSegment (name : String) : Prop := '/' ∉ name.toList

instance (name : String) : Decidable (IsSegment name) := inferInstanceAs (Decidable (¬ _))

@[simp] theorem toList_child (parent name : String) :
    (child parent name).toList = parent.toList ++ '/' :: name.toList := by
  simp [child, String.toList_append]

theorem child_assoc (path name rest : String) :
    child (child path name) rest = child path (child name rest) := by
  apply String.ext
  simp

/-- Different names have different paths below the same parent. -/
theorem child_right_injective {path name name' : String} (h : child path name = child path name') :
    name = name' := by
  have h' := congrArg String.toList h
  rw [toList_child, toList_child, List.append_cancel_left_eq, List.cons.injEq] at h'
  exact String.ext h'.2

theorem child_ne_self (path name : String) : child path name ≠ path := by
  intro h
  have h' := congrArg (fun s => s.toList.length) h
  simp only [toList_child, List.length_append, List.length_cons] at h'
  omega

/-! ### Within -/

/-- A text goes on from another if it is the same, or has it in front of a slash. -/
theorem continues_iff {cs ds : List Char} :
    continues cs ds = true ↔ cs = ds ∨ ∃ rest, cs = ds ++ '/' :: rest := by
  induction ds generalizing cs with
  | nil => cases cs <;> simp [continues]
  | cons d ds ih =>
    cases cs with
    | nil => simp [continues]
    | cons c cs =>
      simp only [continues, Bool.and_eq_true, beq_iff_eq, ih, List.cons_append, List.cons.injEq]
      refine ⟨?_, ?_⟩
      · rintro ⟨rfl, rfl | ⟨rest, rfl⟩⟩
        · exact Or.inl ⟨rfl, rfl⟩
        · exact Or.inr ⟨rest, rfl, rfl⟩
      · rintro (⟨rfl, rfl⟩ | ⟨rest, rfl, rfl⟩)
        · exact ⟨rfl, Or.inl rfl⟩
        · exact ⟨rfl, Or.inr ⟨rest, rfl⟩⟩

/-- A path lies within another if it is that path or one of its children. -/
theorem isWithin_iff {path root : String} :
    isWithin path root = true ↔ path = root ∨ ∃ name, path = child root name := by
  rw [isWithin, continues_iff]
  refine ⟨?_, ?_⟩
  · rintro (h | ⟨rest, h⟩)
    · exact Or.inl (String.ext h)
    · exact Or.inr ⟨String.ofList rest, String.ext (by simpa using h)⟩
  · rintro (rfl | ⟨name, rfl⟩)
    · exact Or.inl rfl
    · exact Or.inr ⟨name.toList, by simp⟩

@[simp] theorem isWithin_self (path : String) : isWithin path path = true :=
  isWithin_iff.mpr (Or.inl rfl)

@[simp] theorem isWithin_child (path name : String) : isWithin (child path name) path = true :=
  isWithin_iff.mpr (Or.inr ⟨name, rfl⟩)

/-- What is within a path is within all paths which that is within. -/
theorem isWithin_trans {p q r : String} (hpq : isWithin p q = true) (hqr : isWithin q r = true) :
    isWithin p r = true := by
  rcases isWithin_iff.mp hpq with rfl | ⟨name, rfl⟩
  · exact hqr
  · rcases isWithin_iff.mp hqr with rfl | ⟨name', rfl⟩
    · exact isWithin_child q name
    · rw [child_assoc]
      exact isWithin_child r _

/-- A path does not lie within its children. -/
theorem not_isWithin_child (path name : String) : isWithin path (child path name) = false := by
  rw [Bool.eq_false_iff]
  intro h
  rcases isWithin_iff.mp h with h | ⟨rest, h⟩
  · exact child_ne_self path name h.symm
  · rw [child_assoc] at h
    exact child_ne_self path _ h.symm

/-- What lies within a child is not its parent. -/
theorem ne_of_isWithin_child {path parent name : String}
    (h : isWithin path (child parent name) = true) : path ≠ parent := by
  rintro rfl
  rw [not_isWithin_child] at h
  cases h

/-! ### Segments -/

/-- The name up to its first separator. -/
def firstSegment (name : String) : String := String.ofList (name.toList.takeWhile (· != '/'))

@[simp] theorem toList_firstSegment (name : String) :
    (firstSegment name).toList = name.toList.takeWhile (· != '/') :=
  String.toList_ofList

/-- The first segment of a name has no slash. -/
theorem isSegment_firstSegment (name : String) : IsSegment (firstSegment name) := by
  intro h
  rw [toList_firstSegment] at h
  simpa using List.mem_takeWhile_imp h

theorem forall_ne_of_isSegment {name : String} (h : IsSegment name) :
    ∀ c ∈ name.toList, (c != '/') = true :=
  fun _ hc => bne_iff_ne.mpr fun e => h (e ▸ hc)

theorem firstSegment_of_isSegment {name : String} (h : IsSegment name) :
    firstSegment name = name := by
  apply String.ext
  rw [toList_firstSegment, List.takeWhile_eq_self_iff]
  exact forall_ne_of_isSegment h

/-- Behind a segment a slash begins what does not belong to it. -/
theorem firstSegment_child {name : String} (h : IsSegment name) (rest : String) :
    firstSegment (child name rest) = name := by
  apply String.ext
  rw [toList_firstSegment, toList_child,
    List.takeWhile_append_of_pos (forall_ne_of_isSegment h)]
  simp

/-- A name is its first segment, or continues it after a separator. -/
theorem eq_firstSegment_or (name : String) :
    name = firstSegment name ∨ ∃ rest, name = child (firstSegment name) rest := by
  have h := List.takeWhile_append_dropWhile (p := (· != '/')) (l := name.toList)
  cases hd : name.toList.dropWhile (· != '/') with
  | nil =>
    rw [hd, List.append_nil] at h
    exact Or.inl (String.ext (by rw [toList_firstSegment, h]))
  | cons c rest =>
    have hc := List.head?_dropWhile_not (· != '/') name.toList
    rw [hd] at hc
    obtain rfl : c = '/' := by simpa using hc
    rw [hd] at h
    refine Or.inr ⟨String.ofList rest, String.ext ?_⟩
    rw [toList_child, toList_firstSegment, String.toList_ofList, h]

/-- A path that lies within a child continues its parent with a text whose first segment is the
child's name. -/
theorem exists_firstSegment_of_isWithin {path parent name : String} (hn : IsSegment name)
    (h : isWithin path (child parent name) = true) :
    ∃ tail, path = child parent tail ∧ firstSegment tail = name := by
  rcases isWithin_iff.mp h with rfl | ⟨rest, rfl⟩
  · exact ⟨name, rfl, firstSegment_of_isSegment hn⟩
  · exact ⟨child name rest, child_assoc _ _ _, firstSegment_child hn rest⟩

/-- Two siblings whose names are segments have no path within both. -/
theorem eq_of_isWithin_children {path parent name name' : String} (hn : IsSegment name)
    (hn' : IsSegment name') (h : isWithin path (child parent name) = true)
    (h' : isWithin path (child parent name') = true) : name = name' := by
  obtain ⟨tail, rfl, rfl⟩ := exists_firstSegment_of_isWithin hn h
  obtain ⟨tail', e, rfl⟩ := exists_firstSegment_of_isWithin hn' h'
  rw [child_right_injective e]

theorem cutLast_eq_none {cs : List Char} (h : '/' ∉ cs) : cutLast cs = none := by
  induction cs with
  | nil => rfl
  | cons c cs ih =>
    obtain ⟨hc, hcs⟩ := not_or.mp (fun e => h (List.mem_cons.mpr e))
    simp [cutLast, ih hcs, Ne.symm hc]

/-- A text is cut at its last slash. -/
theorem cutLast_append {cs ds : List Char} (h : '/' ∉ ds) :
    cutLast (cs ++ '/' :: ds) = some (cs, ds) := by
  induction cs with
  | nil => simp [cutLast, cutLast_eq_none h]
  | cons c cs ih => simp [cutLast, ih]

/-- The parent of a child is its parent if the name is a segment. -/
theorem parent?_child (parent : String) {name : String} (h : IsSegment name) :
    parent? (child parent name) = some parent := by
  simp [parent?, cutLast_append h]

/-- The last segment of a child is its name if that is a segment. -/
theorem last_child (parent : String) {name : String} (h : IsSegment name) :
    last (child parent name) = name := by
  simp [last, cutLast_append h]

/-- A name is a segment, or continues another one by a segment. -/
theorem isSegment_or_exists_child (name : String) :
    IsSegment name ∨ ∃ parent last, IsSegment last ∧ name = child parent last := by
  by_cases h : IsSegment name
  · exact Or.inl h
  · rw [IsSegment, not_not, ← List.mem_reverse] at h
    obtain ⟨after, before, hsplit, hafter⟩ := List.eq_append_cons_of_mem h
    refine Or.inr ⟨String.ofList before.reverse, String.ofList after.reverse, ?_, String.ext ?_⟩
    · simpa [IsSegment] using hafter
    · simpa using congrArg List.reverse hsplit

/-- A path with a parent is the child of its parent by its last segment. -/
theorem eq_child_of_parent? {path parent : String} (h : parent? path = some parent) :
    path = child parent (last path) := by
  rcases isSegment_or_exists_child path with hsegment | ⟨above, name, hname, rfl⟩
  · rw [parent?, cutLast_eq_none hsegment] at h
    cases h
  · rw [parent?_child above hname, Option.some.injEq] at h
    rw [last_child above hname, h]

/-- What lies within a root is the root, or has a parent that lies within the root too. -/
theorem eq_or_isWithin_of_parent? {path parent root : String} (hw : isWithin path root = true)
    (hp : parent? path = some parent) : path = root ∨ isWithin parent root = true := by
  rcases isWithin_iff.mp hw with rfl | ⟨name, rfl⟩
  · exact Or.inl rfl
  right
  rcases isSegment_or_exists_child name with hn | ⟨above, last, hlast, rfl⟩
  · rw [parent?_child root hn, Option.some.injEq] at hp
    rw [← hp]
    exact isWithin_self root
  · rw [← child_assoc, parent?_child _ hlast, Option.some.injEq] at hp
    rw [← hp]
    exact isWithin_child root above

/-! ### Roots -/

/-- The path lies below the place of the component schemas. -/
def IsBelowBase (path : String) : Prop := ∃ name, path = child base name

theorem IsBelowBase.child {path : String} (h : IsBelowBase path) (name : String) :
    IsBelowBase (child path name) := by
  obtain ⟨rest, rfl⟩ := h
  exact ⟨_, child_assoc _ _ _⟩

theorem isBelowBase_child (name : String) : IsBelowBase (child base name) := ⟨name, rfl⟩

theorem IsBelowBase.ne_base {path : String} (h : IsBelowBase path) : path ≠ base := by
  obtain ⟨name, rfl⟩ := h
  exact child_ne_self base name

theorem root_of_isPrefixOf? {path : String} {rest : List Char}
    (h : (base.toList ++ ['/']).isPrefixOf? path.toList = some rest) :
    root path = child base (firstSegment (String.ofList rest)) := by
  apply String.ext
  rw [root, h, toList_child, toList_firstSegment, String.toList_ofList, String.toList_ofList]

/-- Below the component schemas, a path's root is given by the first segment. -/
theorem root_child_base (name : String) :
    root (child base name) = child base (firstSegment name) := by
  have h : (base.toList ++ ['/']).isPrefixOf? (child base name).toList = some name.toList := by
    rw [List.isPrefixOf?_eq_some_iff_append_eq, toList_child, List.append_assoc,
      List.singleton_append]
  rw [root_of_isPrefixOf? h, String.ofList_toList]

/-- The parent of a root is the place of the component schemas. -/
theorem parent?_root {path : String} (h : IsBelowBase path) : parent? (root path) = some base := by
  obtain ⟨name, rfl⟩ := h
  rw [root_child_base]
  exact parent?_child base (isSegment_firstSegment name)

/-- Every path lies within its root. -/
theorem isWithin_root (path : String) : isWithin path (root path) = true := by
  cases h : (base.toList ++ ['/']).isPrefixOf? path.toList with
  | none => simp [root, h]
  | some rest =>
    rw [root_of_isPrefixOf? h, isWithin_iff]
    rw [List.isPrefixOf?_eq_some_iff_append_eq] at h
    have e : path = Path.child base (String.ofList rest) := String.ext (by simp [← h])
    rcases eq_firstSegment_or (String.ofList rest) with h' | ⟨tail, h'⟩
    · exact Or.inl (by rw [e, ← h'])
    · exact Or.inr ⟨tail, by rw [child_assoc, ← h', e]⟩

/-- Below the component schemas, a path lies within a root exactly when that is its root. -/
theorem isWithin_root_iff {path path' : String} (h : IsBelowBase path) (h' : IsBelowBase path') :
    isWithin path' (root path) = true ↔ root path' = root path := by
  refine ⟨?_, ?_⟩
  · intro hw
    have hr := isWithin_root path'
    obtain ⟨name, rfl⟩ := h
    obtain ⟨name', rfl⟩ := h'
    rw [root_child_base] at hw hr ⊢
    rw [root_child_base, eq_of_isWithin_children (isSegment_firstSegment _)
      (isSegment_firstSegment _) hr hw]
  · intro e
    rw [← e]
    exact isWithin_root path'

end SchemaBeans.Schema.Path

/-!
# Order — Stable

Sorting a list by a text that each element has.  Elements with the same text keep their order: what
a relation says of elements in the list, it says after sorting of those with the same text
(`pairwise_sortBy`).

Sorting with this law leaves no choice: there is one list with the same elements, in the order of
the texts, in which those with the same text are in the order that they were in
(`isStableSort_iff`).
-/

namespace SchemaBeans.Order

variable {α : Type}

/-- Puts `x` in front of the first element whose key is not smaller. -/
def insertBy (key : α → String) (x : α) : List α → List α
  | [] => [x]
  | y :: ys => if key x ≤ key y then x :: y :: ys else y :: insertBy key x ys

/-- The elements in the order of their keys. -/
def sortBy (key : α → String) : List α → List α
  | [] => []
  | x :: xs => insertBy key x (sortBy key xs)

theorem insertBy_perm (key : α → String) (x : α) (l : List α) :
    (insertBy key x l).Perm (x :: l) := by
  induction l with
  | nil => exact List.Perm.refl _
  | cons y ys ih =>
    rw [insertBy]
    split
    · exact List.Perm.refl _
    · exact (ih.cons y).trans (List.Perm.swap x y ys)

/-- Sorting keeps every element as often as it is there. -/
theorem sortBy_perm (key : α → String) (l : List α) : (sortBy key l).Perm l := by
  induction l with
  | nil => exact List.Perm.refl _
  | cons x xs ih => exact (insertBy_perm key x _).trans (ih.cons x)

section Order

variable {key : α → String} {x : α} {l : List α}

/-- In the order of keys `a` comes before `b`: its key is smaller, or the keys are the same and `r`
has `a` before `b`. -/
def Before (key : α → String) (r : α → α → Prop) (a b : α) : Prop :=
  key a < key b ∨ key a = key b ∧ r a b

theorem Before.le {r : α → α → Prop} {a b : α} (h : Before key r a b) : key a ≤ key b := by
  rcases h with h | ⟨h, -⟩
  · exact Std.le_of_lt h
  · exact h ▸ String.le_refl (key a)

theorem before_of_le {r : α → α → Prop} {a b : α} (h : key a ≤ key b) (hr : r a b) :
    Before key r a b := by
  by_cases he : key a = key b
  · exact Or.inr ⟨he, hr⟩
  · exact Or.inl (Std.lt_of_le_of_ne h he)

theorem pairwise_insertBy {r : α → α → Prop} (hx : ∀ y ∈ l, r x y)
    (h : l.Pairwise (Before key r)) : (insertBy key x l).Pairwise (Before key r) := by
  induction l with
  | nil => exact List.pairwise_singleton _ _
  | cons y ys ih =>
    obtain ⟨hy, hys⟩ := List.pairwise_cons.mp h
    rw [insertBy]
    split
    · next hle =>
      refine List.pairwise_cons.mpr ⟨fun z hz => before_of_le ?_ (hx z hz), h⟩
      rcases List.mem_cons.mp hz with rfl | hz
      · exact hle
      · exact String.le_trans hle (hy z hz).le
    · next hle =>
      have hx' : ∀ z ∈ ys, r x z := fun z hz => hx z (List.mem_cons_of_mem _ hz)
      refine List.pairwise_cons.mpr ⟨fun z hz => ?_, ih hx' hys⟩
      rcases List.mem_cons.mp ((insertBy_perm key x ys).mem_iff.mp hz) with rfl | hz
      · exact Or.inl (String.not_le.mp hle)
      · exact hy z hz

/-- A list that is ordered by `r` is, when it has been sorted, in the order of keys, and by `r`
where they are the same. -/
theorem pairwise_sortBy {r : α → α → Prop} (h : l.Pairwise r) :
    (sortBy key l).Pairwise (Before key r) := by
  induction l with
  | nil => exact List.Pairwise.nil
  | cons x xs ih =>
    obtain ⟨hx, hxs⟩ := List.pairwise_cons.mp h
    exact pairwise_insertBy (fun y hy => hx y ((sortBy_perm key xs).mem_iff.mp hy)) (ih hxs)

theorem pairwise_le_sortBy (key : α → String) (l : List α) :
    (sortBy key l).Pairwise (key · ≤ key ·) :=
  (pairwise_sortBy (r := fun _ _ => True) (List.pairwise_of_forall fun _ _ => trivial)).imp
    Before.le

theorem insertBy_of_forall_le (h : ∀ y ∈ l, key x ≤ key y) : insertBy key x l = x :: l := by
  cases l with
  | nil => rfl
  | cons y ys => rw [insertBy, if_pos (h y List.mem_cons_self)]

theorem filter_insertBy (keep : α → Bool) (h : l.Pairwise (key · ≤ key ·)) :
    (insertBy key x l).filter keep =
      if keep x then insertBy key x (l.filter keep) else l.filter keep := by
  induction l with
  | nil => rw [insertBy, List.filter_cons]; rfl
  | cons y ys ih =>
    obtain ⟨hy, hys⟩ := List.pairwise_cons.mp h
    rw [insertBy]
    split
    · next hle =>
      -- no key is smaller, whatever is left of the list
      have hfront : ∀ z ∈ (y :: ys).filter keep, key x ≤ key z := by
        intro z hz
        rcases List.mem_cons.mp (List.mem_filter.mp hz).1 with rfl | hz
        · exact hle
        · exact String.le_trans hle (hy z hz)
      rw [insertBy_of_forall_le hfront, List.filter_cons]
    · next hle =>
      rw [List.filter_cons, ih hys, List.filter_cons]
      by_cases hkeep : keep y = true
      · rw [if_pos hkeep, if_pos hkeep, insertBy, if_neg hle]
        split <;> rfl
      · rw [if_neg hkeep, if_neg hkeep]

/-- A list that is in the order of keys stays as it is. -/
theorem sortBy_of_pairwise (h : l.Pairwise (key · ≤ key ·)) : sortBy key l = l := by
  induction l with
  | nil => rfl
  | cons x xs ih =>
    obtain ⟨hx, hxs⟩ := List.pairwise_cons.mp h
    rw [sortBy, ih hxs, insertBy_of_forall_le hx]

/-- Elements may be left out before or after sorting. -/
theorem filter_sortBy (keep : α → Bool) (l : List α) :
    (sortBy key l).filter keep = sortBy key (l.filter keep) := by
  induction l with
  | nil => rfl
  | cons x xs ih =>
    rw [sortBy, filter_insertBy keep (pairwise_le_sortBy key xs), ih, List.filter_cons]
    split <;> rfl

/-- Elements with the same key are in the order that they were in. -/
theorem filter_key_sortBy (k : String) (l : List α) :
    (sortBy key l).filter (key · = k) = l.filter (key · = k) := by
  rw [filter_sortBy]
  refine sortBy_of_pairwise (List.pairwise_filter.mpr (List.pairwise_of_forall fun x y hx hy => ?_))
  have hkeys : key x = key y := (of_decide_eq_true hx).trans (of_decide_eq_true hy).symm
  exact hkeys ▸ String.le_refl (key x)

end Order

/-- The second list is the first one in the order of keys, and elements with the same key are in the
order that they were in. -/
structure IsStableSort (key : α → String) (l l' : List α) : Prop where
  perm : l'.Perm l
  ordered : l'.Pairwise (key · ≤ key ·)
  stable (k : String) : l'.filter (key · = k) = l.filter (key · = k)

section Unique

variable {key : α → String} {l l' : List α} {x y : α}

theorem isStableSort_sortBy (key : α → String) (l : List α) :
    IsStableSort key l (sortBy key l) where
  perm := sortBy_perm key l
  ordered := pairwise_le_sortBy key l
  stable k := filter_key_sortBy k l

theorem mem_iff_of_filter_key (h : ∀ k, l.filter (key · = k) = l'.filter (key · = k)) :
    x ∈ l ↔ x ∈ l' := by
  have hx := congrArg (x ∈ ·) (h (key x))
  simpa using hx

theorem key_le_of_mem_cons (h : (x :: l).Pairwise (key · ≤ key ·)) (hy : y ∈ x :: l) :
    key x ≤ key y := by
  rcases List.mem_cons.mp hy with rfl | hy
  · exact String.le_refl _
  · exact (List.pairwise_cons.mp h).1 y hy

/-- Two lists in the order of keys are the same if they have the same elements in the same order
under each key. -/
theorem eq_of_filter_key (hl : l.Pairwise (key · ≤ key ·)) (hl' : l'.Pairwise (key · ≤ key ·))
    (h : ∀ k, l.filter (key · = k) = l'.filter (key · = k)) : l = l' := by
  induction l generalizing l' with
  | nil =>
    refine (List.eq_nil_iff_forall_not_mem.mpr fun x hx => ?_).symm
    exact List.not_mem_nil ((mem_iff_of_filter_key h).mpr hx)
  | cons x xs ih =>
    have hx := (mem_iff_of_filter_key h).mp List.mem_cons_self
    obtain ⟨y, ys, rfl⟩ := List.exists_cons_of_ne_nil (List.ne_nil_of_mem hx)
    -- no key is smaller than those of the first elements, so these come first under one key
    have hkey : key x = key y := String.le_antisymm
      (key_le_of_mem_cons hl ((mem_iff_of_filter_key h).mpr List.mem_cons_self))
      (key_le_of_mem_cons hl' hx)
    have hfirst := h (key x)
    rw [List.filter_cons_of_pos (by simp), List.filter_cons_of_pos (by simp [hkey])] at hfirst
    obtain rfl := (List.cons.inj hfirst).1
    refine congrArg (x :: ·) (ih (List.pairwise_cons.mp hl).2 (List.pairwise_cons.mp hl').2
      fun k => ?_)
    have hk := h k
    rw [List.filter_cons, List.filter_cons] at hk
    split at hk
    · exact (List.cons.inj hk).2
    · exact hk

/-- There is one such list only, which is what sorting makes. -/
theorem isStableSort_iff : IsStableSort key l l' ↔ l' = sortBy key l := by
  refine ⟨fun h => ?_, fun h => h ▸ isStableSort_sortBy key l⟩
  have hsort := isStableSort_sortBy key l
  exact eq_of_filter_key h.ordered hsort.ordered fun k => (h.stable k).trans (hsort.stable k).symm

end Unique

section Map

variable {β : Type} {key : α → String} {key' : β → String} {f : α → β}
  (hkey : ∀ a, key' (f a) = key a)

include hkey

theorem map_insertBy (x : α) (l : List α) :
    (insertBy key x l).map f = insertBy key' (f x) (l.map f) := by
  induction l with
  | nil => rfl
  | cons y ys ih =>
    rw [insertBy, List.map_cons, insertBy, hkey, hkey]
    split
    · rfl
    · rw [List.map_cons, ih]

/-- A change that leaves the keys alone may be made before or after sorting. -/
theorem map_sortBy (l : List α) : (sortBy key l).map f = sortBy key' (l.map f) := by
  induction l with
  | nil => rfl
  | cons x xs ih => rw [sortBy, map_insertBy hkey, ih, List.map_cons, sortBy]

end Map

end SchemaBeans.Order

import Mathlib.Logic.Relation
import SchemaBeans.Proofs.Yaml.Keys

/-!
# Documents — the same in another order

One rearrangement of a document (`Node.Rearranges`) changes one place of it, which may be anywhere:
it puts the entries of a mapping in another order, or the values of an enum, and scalars among these
it may repeat as well.  A document is *rearranged* if any number of such changes was made
(`Node.Rearranged`).

A rearrangement changes no text and no key, so mappings stay keyed (`Rearranges.keyed`), and what
stands at a key is the same as before or one rearrangement of it (`Rearranges.find?`).
-/

namespace SchemaBeans.Yaml.Node

variable {m n k l v w : Node} {es fs before after : List (Node × Node)} {s : String}

/-- The texts of the items of a sequence; an item that is no scalar has none. -/
def itemTexts (n : Node) : List (Option String) := (n.items?.getD []).map scalarText?

/-- The sequences have the same scalars, however often and in whatever order, and the same other
items in the same order. -/
inductive SameChoices : Node → Node → Prop where
  | sequence {xs ys : List Node}
      (hscalars : ∀ n : Node, n.scalarText?.isSome → (n ∈ xs ↔ n ∈ ys))
      (hothers : xs.filter (·.scalarText?.isNone) = ys.filter (·.scalarText?.isNone)) :
      SameChoices (.sequence xs) (.sequence ys)
  | tagged {v w : Node} (tag : String) (h : SameChoices v w) :
      SameChoices (.tagged tag v) (.tagged tag w)

/-- The second node is the first one with the entries of one mapping, or the values of one enum, in
another order. -/
inductive Rearranges : Node → Node → Prop where
  | entries {es fs : List (Node × Node)} (h : es.Perm fs) : Rearranges (.mapping es) (.mapping fs)
  | choices {v w : Node} (before after : List (Node × Node)) (h : SameChoices v w) :
      Rearranges (.mapping (before ++ (.string "enum", v) :: after))
        (.mapping (before ++ (.string "enum", w) :: after))
  | key {k l : Node} (v : Node) (before after : List (Node × Node)) (h : Rearranges k l) :
      Rearranges (.mapping (before ++ (k, v) :: after)) (.mapping (before ++ (l, v) :: after))
  | value {v w : Node} (k : Node) (before after : List (Node × Node)) (h : Rearranges v w) :
      Rearranges (.mapping (before ++ (k, v) :: after)) (.mapping (before ++ (k, w) :: after))
  | item {m n : Node} (before after : List Node) (h : Rearranges m n) :
      Rearranges (.sequence (before ++ m :: after)) (.sequence (before ++ n :: after))
  | tag {m n : Node} (tag : String) (h : Rearranges m n) :
      Rearranges (.tagged tag m) (.tagged tag n)

/-- The second node is the first one after any number of rearrangements. -/
def Rearranged : Node → Node → Prop := Relation.ReflTransGen Rearranges

/-- What may stand at a key before and after a rearrangement. -/
inductive Corresponds (key : String) : Node → Node → Prop where
  | same (v : Node) : Corresponds key v v
  | rearranges {v w : Node} (h : Rearranges v w) : Corresponds key v w
  | choices {v w : Node} (hkey : key = "enum") (h : SameChoices v w) : Corresponds key v w

/-! ### Keys and values -/

theorem rel_self {R : Node → Node → Prop} (hrefl : ∀ n, R n n) : ∀ o, Option.Rel R o o
  | none => .none
  | some n => .some (hrefl n)

theorem rel_imp_of_mem {R S : Node → Node → Prop} {o o' : Option Node} (h : Option.Rel R o o')
    (himp : ∀ v ∈ o, ∀ w, R v w → S v w) : Option.Rel S o o' := by
  cases h with
  | none => exact .none
  | some h => exact .some (himp _ rfl _ h)

/-- At every key the value stays or is replaced, if one value among the entries is. -/
theorem rel_find?_value {R : Node → Node → Prop} (hrefl : ∀ n, R n n) (h : k = .string s → R v w)
    (before after : List (Node × Node)) :
    Option.Rel R (find? s (before ++ (k, v) :: after)) (find? s (before ++ (k, w) :: after)) := by
  induction before with
  | nil =>
    simp only [List.nil_append, find?]
    split
    · next hk => exact .some (h (isString_iff.mp hk))
    · exact rel_self hrefl _
  | cons entry before ih =>
    obtain ⟨k', v'⟩ := entry
    simp only [List.cons_append, find?]
    split
    · exact rel_self hrefl _
    · exact ih

/-- A key that is no text is never found. -/
theorem find?_key (hk : k.textKey? = none) (v : Node) (before after : List (Node × Node)) :
    find? s (before ++ (k, v) :: after) = find? s (before ++ after) := by
  have hnot : ¬k.isString s = true := by
    intro h
    rw [isString_iff.mp h] at hk
    cases hk
  induction before with
  | nil => simp only [List.nil_append, find?, if_neg hnot]
  | cons entry before ih =>
    obtain ⟨k', v'⟩ := entry
    simp only [List.cons_append, find?, ih]

/-! ### Same choices -/

namespace SameChoices

theorem scalarText?_eq_none (h : SameChoices v w) :
    v.scalarText? = none ∧ w.scalarText? = none := by
  cases h <;> exact ⟨rfl, rfl⟩

theorem string?_eq_none (h : SameChoices v w) : v.string? = none ∧ w.string? = none := by
  induction h with
  | sequence => exact ⟨rfl, rfl⟩
  | tagged tag _ ih => exact ih

theorem entries?_eq_none (h : SameChoices v w) : v.entries? = none ∧ w.entries? = none := by
  induction h with
  | sequence => exact ⟨rfl, rfl⟩
  | tagged tag _ ih => exact ih

/-- The texts are the same, and as many items have none. -/
theorem itemTexts (h : SameChoices v w) :
    (∀ text, some text ∈ v.itemTexts ↔ some text ∈ w.itemTexts) ∧
      v.itemTexts.countP (·.isNone) = w.itemTexts.countP (·.isNone) := by
  induction h with
  | @sequence xs ys hscalars hothers =>
    change (∀ text, some text ∈ xs.map scalarText? ↔ some text ∈ ys.map scalarText?) ∧
      (xs.map scalarText?).countP (·.isNone) = (ys.map scalarText?).countP (·.isNone)
    refine ⟨fun text => ?_, ?_⟩
    · simp only [List.mem_map]
      refine exists_congr fun n => and_congr_left fun hn => hscalars n ?_
      rw [hn]
      rfl
    · rw [List.countP_map, List.countP_map, List.countP_eq_length_filter,
        List.countP_eq_length_filter]
      exact congrArg List.length hothers
  | tagged tag _ ih => exact ih

/-- There is no mapping in a scalar, and the other items are the same. -/
theorem keyed (h : SameChoices v w) (hv : v.Keyed) : w.Keyed := by
  induction h with
  | @sequence xs ys _ hothers =>
    rw [Keyed, allKeyed_iff] at hv ⊢
    intro n hn
    cases hs : n.scalarText? with
    | some text => cases n <;> trivial
    | none =>
      have hmem : n ∈ ys.filter (·.scalarText?.isNone) :=
        List.mem_filter.mpr ⟨hn, by rw [hs]; rfl⟩
      rw [← hothers] at hmem
      exact hv n (List.mem_filter.mp hmem).1
  | tagged tag _ ih =>
    rw [Keyed] at hv ⊢
    exact ih hv

end SameChoices

/-! ### One rearrangement -/

namespace Rearranges

theorem scalarText?_eq_none (h : Rearranges m n) : m.scalarText? = none ∧ n.scalarText? = none := by
  cases h <;> exact ⟨rfl, rfl⟩

theorem textKey?_eq_none (h : Rearranges m n) : m.textKey? = none ∧ n.textKey? = none := by
  cases h <;> exact ⟨rfl, rfl⟩

theorem string?_eq (h : Rearranges m n) : m.string? = n.string? := by
  induction h with
  | tag tag _ ih => exact ih
  | entries | choices | key | value | item => rfl

/-- The texts among the items of a sequence stay, each in its place. -/
theorem itemTexts_eq (h : Rearranges m n) : m.itemTexts = n.itemTexts := by
  induction h with
  | tag tag _ ih => exact ih
  | item before after h _ =>
    obtain ⟨hm, hn⟩ := h.scalarText?_eq_none
    simp [itemTexts, items?, untagged, hm, hn]
  | entries | choices | key | value => rfl

/-- A mapping, under its tags, is rearranged as a mapping. -/
theorem exists_entries? (h : Rearranges m n) : m.entries? = none ∧ n.entries? = none ∨
    ∃ es fs, m.entries? = some es ∧ n.entries? = some fs ∧
      Rearranges (.mapping es) (.mapping fs) := by
  induction h with
  | tag tag _ ih => exact ih
  | item => exact Or.inl ⟨rfl, rfl⟩
  | entries h => exact Or.inr ⟨_, _, rfl, rfl, .entries h⟩
  | choices before after h => exact Or.inr ⟨_, _, rfl, rfl, .choices before after h⟩
  | key v before after h => exact Or.inr ⟨_, _, rfl, rfl, .key v before after h⟩
  | value k before after h => exact Or.inr ⟨_, _, rfl, rfl, .value k before after h⟩

/-- No entry is added or lost. -/
theorem length_eq (h : Rearranges (.mapping es) (.mapping fs)) : es.length = fs.length := by
  cases h with
  | entries h => exact h.length_eq
  | choices | key | value => simp

/-- The keys that are texts stay, in some order. -/
theorem textKeys_perm (h : Rearranges (.mapping es) (.mapping fs)) :
    (textKeys es).Perm (textKeys fs) := by
  cases h with
  | entries h => exact h.filterMap _
  | choices before after h => exact .of_eq (textKeys_congr (by simp))
  | value k before after h => exact .of_eq (textKeys_congr (by simp))
  | key v before after h =>
    obtain ⟨hk, hl⟩ := h.textKey?_eq_none
    exact .of_eq (by simp [textKeys, hk, hl])

/-- **Keys.**  A rearrangement makes no text a key twice. -/
theorem keyed (h : Rearranges m n) (hm : m.Keyed) : n.Keyed := by
  induction h with
  | tag tag _ ih =>
    rw [Keyed] at hm ⊢
    exact ih hm
  | item before after _ ih =>
    simp only [Keyed, allKeyed_iff, List.forall_mem_append, List.forall_mem_cons] at hm ⊢
    exact ⟨hm.1, ih hm.2.1, hm.2.2⟩
  | entries h =>
    simp only [Keyed, valuesKeyed_iff] at hm ⊢
    exact ⟨(h.filterMap _).nodup_iff.mp hm.1, fun entry he => hm.2 entry (h.mem_iff.mpr he)⟩
  | choices before after h =>
    have hnodup := (textKeys_perm (.choices before after h)).nodup_iff.mp hm.1
    simp only [Keyed, valuesKeyed_iff, List.forall_mem_append, List.forall_mem_cons] at hm ⊢
    exact ⟨hnodup, hm.2.1, h.keyed hm.2.2.1, hm.2.2.2⟩
  | key v before after h =>
    have hnodup := (textKeys_perm (.key v before after h)).nodup_iff.mp hm.1
    simp only [Keyed, valuesKeyed_iff, List.forall_mem_append, List.forall_mem_cons] at hm ⊢
    exact ⟨hnodup, hm.2⟩
  | value k before after h ih =>
    have hnodup := (textKeys_perm (.value k before after h)).nodup_iff.mp hm.1
    simp only [Keyed, valuesKeyed_iff, List.forall_mem_append, List.forall_mem_cons] at hm ⊢
    exact ⟨hnodup, hm.2.1, ih hm.2.2.1, hm.2.2.2⟩

/-- **Values.**  What stands at a key of a keyed mapping corresponds to what stood there. -/
theorem find? (h : Rearranges (.mapping es) (.mapping fs)) (hm : (Node.mapping es).Keyed)
    (s : String) : Option.Rel (Corresponds s) (find? s es) (find? s fs) := by
  cases h with
  | entries h =>
    rw [find?_perm h hm.1]
    exact rel_self .same _
  | key v before after h =>
    obtain ⟨hk, hl⟩ := h.textKey?_eq_none
    rw [find?_key hk, find?_key hl]
    exact rel_self .same _
  | choices before after h =>
    refine rel_find?_value .same (fun hkey => .choices ?_ h) before after
    exact (Node.string.inj hkey).symm
  | value k before after h =>
    exact rel_find?_value .same (fun _ => .rearranges h) before after

/-- At a key other than that of an enum, the value stays or is rearranged itself. -/
theorem find?_of_ne (h : Rearranges (.mapping es) (.mapping fs)) (hm : (Node.mapping es).Keyed)
    (hs : s ≠ "enum") : Option.Rel (fun v w => v = w ∨ v.Keyed ∧ Rearranges v w)
      (Node.find? s es) (Node.find? s fs) := by
  refine rel_imp_of_mem (h.find? hm s) fun v hv w hvw => ?_
  cases hvw with
  | same => exact Or.inl rfl
  | choices h => exact absurd h hs
  | rearranges h =>
    exact Or.inr ⟨valuesKeyed_iff.mp hm.2 _ (mem_of_find? hv), h⟩

theorem get?_of_ne (h : Rearranges m n) (hm : m.Keyed) (hs : s ≠ "enum") :
    Option.Rel (fun v w => v = w ∨ v.Keyed ∧ Rearranges v w) (m.get? s) (n.get? s) := by
  rw [Node.get?, Node.get?]
  rcases h.exists_entries? with ⟨hes, hfs⟩ | ⟨es, fs, hes, hfs, h⟩
  · rw [hes, hfs]
    exact .none
  · rw [hes, hfs]
    exact h.find?_of_ne (keyed_of_entries? hm hes) hs

end Rearranges

theorem Rearranged.keyed (h : Rearranged m n) (hm : m.Keyed) : n.Keyed := by
  induction h with
  | refl => exact hm
  | tail _ h ih => exact h.keyed ih

end SchemaBeans.Yaml.Node

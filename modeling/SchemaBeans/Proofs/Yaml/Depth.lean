import Mathlib.Order.MinMax
import SchemaBeans.Proofs.Yaml.Merge
import SchemaBeans.Yaml.Document

/-!
# Documents — how deeply collections are nested

The depth of a node counts the collections on the longest way into it; tags do not count, and an
alias counts with what it stands for.  Merge keys lift entries into the mapping around them, which
never makes a document deeper (`Node.merges_depth`).

What composing a document keeps is said once, for any property of data within a depth (`Composes`).
That the data is no deeper is such a property (`composes_depth`), so a document that was read is no
deeper than the limit (`depth_le_of_read`).
-/

namespace SchemaBeans.Yaml

namespace Node

mutual

/-- How deeply collections are nested in a node. -/
def depth : Node → Nat
  | .sequence items => depthOfItems items + 1
  | .mapping entries => depthOfEntries entries + 1
  | .tagged _ n => n.depth
  | .null | .bool _ | .number _ | .string _ => 0

/-- The depth of the deepest item. -/
def depthOfItems : List Node → Nat
  | [] => 0
  | n :: ns => max n.depth (depthOfItems ns)

/-- The depth of the deepest key or value. -/
def depthOfEntries : List (Node × Node) → Nat
  | [] => 0
  | (k, v) :: es => max (max k.depth v.depth) (depthOfEntries es)

end

theorem depthOfItems_le_iff {d : Nat} {ns : List Node} :
    depthOfItems ns ≤ d ↔ ∀ n ∈ ns, n.depth ≤ d := by
  induction ns with
  | nil => simp [depthOfItems]
  | cons n ns ih => simp [depthOfItems, ih]

/-- A mapping is limited in depth by its keys and values. -/
theorem depthOfEntries_le_iff {d : Nat} {es : List (Node × Node)} :
    depthOfEntries es ≤ d ↔ ∀ entry ∈ es, entry.1.depth ≤ d ∧ entry.2.depth ≤ d := by
  induction es with
  | nil => simp [depthOfEntries]
  | cons entry es ih => simp [depthOfEntries, ih, and_assoc]

/-! ### Merge keys -/

/-- What is lifted comes from further down. -/
theorem Lifted.depth_le {es : List (Node × Node)} {e : Node × Node} (h : Lifted es e) :
    e.1.depth ≤ depthOfEntries es ∧ e.2.depth ≤ depthOfEntries es := by
  have hes := depthOfEntries_le_iff.mp (Nat.le_refl (depthOfEntries es))
  cases h with
  | own he => exact hes _ he
  | mapping hv he =>
    have hfs := (hes _ hv).2
    exact depthOfEntries_le_iff.mp (Nat.le_of_succ_le hfs) _ he
  | item hv hm he =>
    have hitems := (hes _ hv).2
    have hfs := depthOfItems_le_iff.mp (Nat.le_of_succ_le hitems) _ hm
    exact depthOfEntries_le_iff.mp (Nat.le_of_succ_le hfs) _ he

/-- Merging never makes a node deeper. -/
theorem merges_depth : Merges fun n m => m.depth ≤ n.depth where
  same n := Nat.le_refl _
  sequence h := by
    refine Nat.succ_le_succ (depthOfItems_le_iff.mpr fun m hm => ?_)
    obtain ⟨n, hn, hle⟩ := h m hm
    exact hle.trans (depthOfItems_le_iff.mp (Nat.le_refl _) n hn)
  tagged tag n m h := by
    rw [depth, depth]
    exact h
  mapping _ _ h := by
    refine Nat.succ_le_succ (depthOfEntries_le_iff.mpr fun f hf => ?_)
    obtain ⟨e, he, hk, hle⟩ := h f hf
    exact ⟨hk ▸ he.depth_le.1, hle.trans he.depth_le.2⟩

end Node

/-! ### Composition -/

namespace Following

variable {α β : Type} {x : Following α} {f : α → Following β} {count : Nat} {r : β × Nat}

/-- Steps one after the other succeed if each does, with the count that the one before leaves. -/
theorem bind_eq_ok_iff :
    (x >>= f) count = .ok r ↔ ∃ a count', x count = .ok (a, count') ∧ f a count' = .ok r := by
  have h : (x >>= f) count = x count >>= fun p => f p.1 p.2 := rfl
  rw [h]
  cases x count with
  | error e => simp [bind, Except.bind]
  | ok p =>
    obtain ⟨a, c⟩ := p
    refine ⟨?_, ?_⟩
    · exact fun h => ⟨a, c, rfl, h⟩
    · rintro ⟨a', c', e, h⟩
      cases e
      exact h

theorem lift_eq_ok_iff {result : Except Fault β} :
    lift result count = .ok r ↔ result = .ok r.1 ∧ r.2 = count := by
  obtain ⟨b, count'⟩ := r
  cases result with
  | error e => simp [lift, Except.map]
  | ok b' => simp [lift, Except.map, eq_comm]

theorem pure_eq_ok_iff {a : β} : (pure a : Following β) count = .ok r ↔ r = (a, count) := by
  show Except.ok (a, count) = .ok r ↔ _
  rw [Except.ok.injEq, eq_comm]

/-- What holds of each result of `f` holds of all results of a run over a list. -/
theorem forall_of_mapM {P : β → Prop} {g : α → Following β}
    (hg : ∀ a count b count', g a count = .ok (b, count') → P b) {as : List α} {bs : List β}
    {count' : Nat} (h : as.mapM g count = .ok (bs, count')) : ∀ b ∈ bs, P b := by
  induction as generalizing count bs count' with
  | nil =>
    rw [List.mapM_nil, pure_eq_ok_iff] at h
    cases h
    simp
  | cons a as ih =>
    rw [List.mapM_cons, bind_eq_ok_iff] at h
    obtain ⟨b, c, hb, h⟩ := h
    rw [bind_eq_ok_iff] at h
    obtain ⟨rest, c', hrest, h⟩ := h
    rw [pure_eq_ok_iff] at h
    cases h
    exact List.forall_mem_cons.mpr ⟨hg _ _ _ _ hb, ih hrest⟩

end Following

/-- Tags do not count. -/
@[simp] theorem depth_withTag (tag : Option TagText) (n : Node) :
    (withTag tag n).depth = n.depth := by
  rw [withTag]
  split
  · rw [Node.depth]
  · rfl

/-! ### Scalars -/

theorem depth_of_integerNode? {cs : List Char} {n : Node}
    (h : Scalar.integerNode? cs = some (.ok n)) : n.depth = 0 := by
  rw [Scalar.integerNode?] at h
  split at h
  · cases h
  · split at h
    · cases h
      rfl
    · split at h <;> cases h

/-- Whatever a plain scalar is taken for, it has no depth. -/
theorem depth_of_plain {text : String} {n : Node} (h : Scalar.plain text = .ok n) :
    n.depth = 0 := by
  simp only [Scalar.plain] at h
  split at h
  · cases h
    rfl
  · split at h
    · cases h
      rfl
    · split at h
      · next hi => exact depth_of_integerNode? (hi.trans (congrArg some h))
      · split at h <;> cases h <;> rfl

theorem depth_of_required {result : Option Node} (hd : ∀ m ∈ result, m.depth = 0) {n : Node}
    (h : Scalar.required result = .ok n) : n.depth = 0 := by
  cases result with
  | none => cases h
  | some m =>
    cases h
    exact hd _ rfl

theorem depth_of_forced {tag : TagText} {text : String} {n : Node}
    (h : Scalar.forced tag text = .ok n) : n.depth = 0 := by
  simp only [Scalar.forced] at h
  split at h
  · refine depth_of_required (fun m hm => ?_) h
    obtain ⟨b, -, rfl⟩ := Option.map_eq_some_iff.mp hm
    rfl
  · split at h
    · cases hi : Scalar.integerNode? text.toList with
      | none => simp [hi] at h
      | some result =>
        rw [hi, Option.getD_some] at h
        exact depth_of_integerNode? (hi.trans (congrArg some h))
    · split at h
      · refine depth_of_required (fun m hm => ?_) h
        obtain ⟨b, -, rfl⟩ := Option.map_eq_some_iff.mp hm
        rfl
      · split at h
        · refine depth_of_required (fun m hm => ?_) h
          split at hm
          · cases hm
            rfl
          · cases hm
        · cases h
          rfl

/-- A scalar has no depth, whatever its tag. -/
theorem depth_of_ofScalar {tag : Option TagText} {plain : Bool} {text : String} {n : Node}
    (h : Node.ofScalar tag plain text = .ok n) : n.depth = 0 := by
  have hu : ∀ m, (if plain then Scalar.plain text else .ok (.string text)) = .ok m →
      m.depth = 0 := by
    intro m hm
    split at hm
    · exact depth_of_plain hm
    · cases hm
      rfl
  simp only [Node.ofScalar] at h
  split at h
  · next name _ =>
    obtain ⟨m, hm, rfl⟩ : ∃ m, (if plain then Scalar.plain text else .ok (.string text)) = .ok m ∧
        Node.tagged name m = n := by
      cases hr : (if plain then Scalar.plain text else .ok (.string text)) with
      | error e => simp [hr, Except.map] at h
      | ok m => exact ⟨m, rfl, by simpa [hr, Except.map] using h⟩
    rw [Node.depth]
    exact hu m hm
  · exact hu n h
  · exact depth_of_forced h
  · exact hu n h

/-! ### Documents -/

/-- What composing keeps: `P` holds of scalars within any depth, and of a collection within one more
if it does of its parts. -/
structure Composes (P : Nat → Node → Prop) : Prop where
  scalar {depth : Nat} {n : Node} : n.depth = 0 → P depth n
  sequence {depth : Nat} {tag : Option TagText} {items : List Node} :
    (∀ n ∈ items, P depth n) → P (depth + 1) (withTag tag (.sequence items))
  mapping {depth : Nat} {tag : Option TagText} {entries : List (Node × Node)} :
    Node.hasDuplicates entries = false → (∀ entry ∈ entries, P depth entry.1 ∧ P depth entry.2) →
      P (depth + 1) (withTag tag (.mapping entries))

namespace Composes

variable {P : Nat → Node → Prop} (hP : Composes P)

include hP

/-- **Composition.**  The data of a tree composed within a depth has what composing keeps. -/
theorem compose {a : Aliases} {depth : Nat} {t : Tree} {n : Node} {count count' : Nat}
    (h : Yaml.compose a depth t count = .ok (n, count')) : P depth n := by
  induction depth generalizing t n count count' with
  | zero =>
    rw [Yaml.compose, Following.bind_eq_ok_iff] at h
    obtain ⟨t', c, -, h⟩ := h
    split at h
    · exact hP.scalar (depth_of_ofScalar (Following.lift_eq_ok_iff.mp h).1)
    · cases h
  | succ depth ih =>
    rw [Yaml.compose, Following.bind_eq_ok_iff] at h
    obtain ⟨t', c, -, h⟩ := h
    split at h
    · exact hP.scalar (depth_of_ofScalar (Following.lift_eq_ok_iff.mp h).1)
    · rw [Following.bind_eq_ok_iff] at h
      obtain ⟨items, c', hitems, h⟩ := h
      rw [Following.pure_eq_ok_iff] at h
      cases h
      exact hP.sequence (Following.forall_of_mapM (fun t c n c' ht => ih ht) hitems)
    · rw [Following.bind_eq_ok_iff] at h
      obtain ⟨entries, c', hentries, h⟩ := h
      rw [Following.bind_eq_ok_iff] at h
      obtain ⟨m, c'', hm, h⟩ := h
      rw [Following.pure_eq_ok_iff] at h
      cases h
      rw [mappingNode] at hm
      split at hm
      · cases hm
      · next hdup =>
        rw [Following.pure_eq_ok_iff] at hm
        cases hm
        refine hP.mapping (Bool.eq_false_iff.mpr hdup) (Following.forall_of_mapM ?_ hentries)
        rintro ⟨k, v⟩ c ⟨k', v'⟩ c' he
        simp only [Following.bind_eq_ok_iff, Following.pure_eq_ok_iff] at he
        obtain ⟨key, c₁, hk, value, c₂, hv, he⟩ := he
        cases he
        exact ⟨ih hk, ih hv⟩
    · cases h

/-- What holds of nodes of limited depth holds of the node of a tree. -/
theorem ofTree {t : Tree} {n : Node} (h : Node.ofTree t = .ok n) : P depthLimit n := by
  rw [Node.ofTree] at h
  cases hc : Yaml.compose { document := t, limit := 100 * t.size } depthLimit t 0 with
  | error e => simp [hc, Except.map] at h
  | ok p =>
    obtain ⟨n', count⟩ := p
    simp only [hc, Except.map, Except.ok.injEq] at h
    rw [← h]
    exact hP.compose hc

/-- What holds of nodes of limited depth holds of the node of a text. -/
theorem parse {text : String} {n : Node} (h : Yaml.parse text = .ok n) : P depthLimit n := by
  simp only [Yaml.parse, bind, Except.bind] at h
  split at h
  · cases h
  · split at h
    · cases h
    · split at h
      · cases h
        exact hP.scalar rfl
      · exact hP.ofTree h

/-- What composing keeps, and carrying out merge keys too, every document that was read has. -/
theorem read (hmerged : ∀ {n m : Node}, n.merged? = some m → P depthLimit n → P depthLimit m)
    {text : String} {document : Node} (h : Yaml.read text = .ok document) :
    P depthLimit document := by
  rw [Yaml.read] at h
  cases hp : Yaml.parse text with
  | error e => simp [hp, bind, Except.bind] at h
  | ok n =>
    simp only [hp, bind, Except.bind] at h
    split at h
    · next m hm =>
      cases h
      exact hmerged hm (hP.parse hp)
    · cases h

end Composes

/-- Composition keeps within the limit. -/
theorem composes_depth : Composes fun depth n => n.depth ≤ depth where
  scalar hn := hn ▸ Nat.zero_le _
  sequence h := by
    rw [depth_withTag, Node.depth]
    exact Nat.succ_le_succ (Node.depthOfItems_le_iff.mpr h)
  mapping _ h := by
    rw [depth_withTag, Node.depth]
    exact Nat.succ_le_succ (Node.depthOfEntries_le_iff.mpr h)

/-- **A document that was read is no deeper than the limit.** -/
theorem depth_le_of_read {text : String} {document : Node} (h : read text = .ok document) :
    document.depth ≤ depthLimit :=
  composes_depth.read (fun hm hn => (Node.merges_depth.merged? _ hm).trans hn) h

end SchemaBeans.Yaml

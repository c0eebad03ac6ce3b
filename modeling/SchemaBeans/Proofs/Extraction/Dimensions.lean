import SchemaBeans.Proofs.Yaml.Depth
import SchemaBeans.Schema.Extraction

/-!
# Shapes — how many dimensions an array can have

Each dimension of an array is a mapping within the one around it.  So no shape in a document has
more dimensions than the document is deep (`Shape.within_ofNode`, `depth_le_of_components`).
-/

namespace SchemaBeans.Schema

open Yaml (Node)

namespace Shape

mutual

/-- The element of the shape, and those of all members below it, have no more dimensions. -/
def Within (limit : Nat) : Shape → Prop
  | .faulty _ => True
  | .valid _ dimensions _ members => dimensions ≤ limit ∧ AllWithin limit members

/-- `Within` for each of some members. -/
def AllWithin (limit : Nat) : List (String × Shape) → Prop
  | [] => True
  | (_, s) :: rest => s.Within limit ∧ AllWithin limit rest

end

mutual

theorem Within.mono {limit limit' : Nat} (hl : limit ≤ limit') :
    ∀ {s : Shape}, s.Within limit → s.Within limit'
  | .faulty _, _ => trivial
  | .valid _ _ _ _, h => ⟨h.1.trans hl, AllWithin.mono hl h.2⟩

theorem AllWithin.mono {limit limit' : Nat} (hl : limit ≤ limit') :
    ∀ {members : List (String × Shape)}, AllWithin limit members → AllWithin limit' members
  | [], _ => trivial
  | (_, _) :: _, h => ⟨Within.mono hl h.1, AllWithin.mono hl h.2⟩

end

/-- An array has one dimension more than its items. -/
theorem within_inArray {limit : Nat} {description : Option String} {s : Shape}
    (h : s.Within limit) : (inArray description s).Within (limit + 1) := by
  cases s with
  | faulty fault => trivial
  | valid _ dimensions element members =>
    exact ⟨Nat.succ_le_succ h.1, AllWithin.mono (Nat.le_succ limit) h.2⟩

mutual

/-- **Dimensions.**  A node of limited depth has a shape of limited dimensions. -/
theorem within_ofNode {limit : Nat} : ∀ (n : Node), n.depth ≤ limit → (ofNode n).Within limit
  | .null, _ | .bool _, _ | .number _, _ | .string _, _ | .sequence _, _ => trivial
  | .tagged _ n, h => within_ofNode n h
  | .mapping entries, h => by
    obtain ⟨limit, rfl⟩ : ∃ l, limit = l + 1 :=
      Nat.exists_eq_succ_of_ne_zero fun e => by simp [e, Node.depth] at h
    have he : Node.depthOfEntries entries ≤ limit := Nat.succ_le_succ_iff.mp h
    rw [ofNode]
    split
    · trivial
    · exact ⟨Nat.zero_le _, (allWithin_propertiesOf entries he).mono (Nat.le_succ _)⟩
    · split
      · trivial
      · next items hi => exact within_inArray (within_of_itemsOf? entries he hi)

/-- The items of an array lie below its node, so they have no more dimensions than the
entries are deep. -/
theorem within_of_itemsOf? {limit : Nat} : ∀ (es : List (Node × Node)),
    Node.depthOfEntries es ≤ limit → ∀ {s : Shape}, itemsOf? es = some s → s.Within limit
  | [], _, _, hs => by cases hs
  | (k, v) :: es, h, s, hs => by
    obtain ⟨hkv, hes⟩ := max_le_iff.mp h
    rw [itemsOf?] at hs
    split at hs
    · cases hs
      exact within_ofNode v (max_le_iff.mp hkv).2
    · exact within_of_itemsOf? es hes hs

theorem allWithin_propertiesOf {limit : Nat} : ∀ (es : List (Node × Node)),
    Node.depthOfEntries es ≤ limit → AllWithin limit (propertiesOf es)
  | [], _ => trivial
  | (k, v) :: es, h => by
    obtain ⟨hkv, hes⟩ := max_le_iff.mp h
    rw [propertiesOf]
    split
    · exact allWithin_membersOf v (max_le_iff.mp hkv).2
    · exact allWithin_propertiesOf es hes

theorem allWithin_membersOf {limit : Nat} : ∀ (n : Node), n.depth ≤ limit →
    AllWithin limit (membersOf n)
  | .null, _ | .bool _, _ | .number _, _ | .string _, _ | .sequence _, _ => trivial
  | .tagged _ n, h => allWithin_membersOf n h
  | .mapping entries, h => allWithin_ofEntries entries ((Nat.le_succ _).trans h)

/-- The shapes of some entries have no more dimensions than the entries are deep. -/
theorem allWithin_ofEntries {limit : Nat} : ∀ (es : List (Node × Node)),
    Node.depthOfEntries es ≤ limit → AllWithin limit (ofEntries es)
  | [], _ => trivial
  | (k, v) :: es, h => by
    obtain ⟨hkv, hes⟩ := max_le_iff.mp h
    rw [ofEntries]
    split
    · exact ⟨within_ofNode v (max_le_iff.mp hkv).2, allWithin_ofEntries es hes⟩
    · exact allWithin_ofEntries es hes

end

end Shape

/-! ### The sections of a document -/

/-- A computation whose value passes a test has a value. -/
theorem exists_of_toOption_any {ε α : Type} {result : Except ε α} {P : α → Bool}
    (h : result.toOption.any P = true) : ∃ a, result = .ok a ∧ P a = true := by
  cases result with
  | error e => cases h
  | ok a => exact ⟨a, rfl, h⟩

@[simp] theorem depth_untagged : ∀ n : Node, n.untagged.depth = n.depth
  | .tagged _ n => depth_untagged n
  | .null | .bool _ | .number _ | .string _ | .sequence _ | .mapping _ => rfl

/-- A mapping is one deeper than its entries, whatever tags it has. -/
theorem depth_of_entries? {n : Node} {entries : List (Node × Node)}
    (h : n.entries? = some entries) : Node.depthOfEntries entries + 1 = n.depth := by
  rw [← depth_untagged n]
  rw [Node.entries?] at h
  split at h
  · next es he =>
    cases h
    rw [he, Node.depth]
  · cases h

/-- A value of a mapping is no deeper than the entries. -/
theorem depth_le_of_find? {key : String} {entries : List (Node × Node)} {n : Node}
    (h : Node.find? key entries = some n) : n.depth ≤ Node.depthOfEntries entries := by
  induction entries with
  | nil => cases h
  | cons entry entries ih =>
    obtain ⟨k, v⟩ := entry
    rw [Node.find?] at h
    split at h
    · cases h
      exact (le_max_right _ _).trans (le_max_left _ _)
    · exact (ih h).trans (le_max_right _ _)

/-- The component schemas are no deeper than the document. -/
theorem depth_le_of_components {document : Node} {entries : List (Node × Node)}
    (h : components document = .ok entries) : Node.depthOfEntries entries ≤ document.depth := by
  rw [components] at h
  split at h
  · cases h
  · next section_ hget =>
    split at h
    · cases h
    · next es hes =>
      obtain ⟨top, htop, hfind⟩ := Option.bind_eq_some_iff.mp hget
      have h₁ := depth_of_entries? htop
      have h₂ := depth_le_of_find? hfind
      have h₃ := depth_of_entries? hes
      split at h
      · cases h
      · cases h
        exact Nat.zero_le _
      · next schemas hs =>
        cases h
        have h₄ := depth_le_of_find? hs
        rw [Node.depth] at h₄
        omega
      · cases h

end SchemaBeans.Schema

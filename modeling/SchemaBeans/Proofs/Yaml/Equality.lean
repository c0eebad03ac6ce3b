import SchemaBeans.Yaml.Document

/-!
# Nodes — equality

Whether two nodes are equal can be decided, so what a text is read as can be computed.  Unlike
`Node.isSame`, which compares keys, equality minds the order of entries and the spelling of tags.
-/

namespace SchemaBeans.Yaml

namespace Node

mutual

/-- The two nodes are equal. -/
def isEqual : Node → Node → Bool
  | .null, .null => true
  | .bool a, .bool b => a == b
  | .number a, .number b => a == b
  | .string s, .string t => s == t
  | .sequence xs, .sequence ys => areEqual xs ys
  | .mapping es, .mapping fs => haveEqual es fs
  | .tagged s m, .tagged t n => s == t && m.isEqual n
  | _, _ => false

/-- The items of the two sequences are equal one by one. -/
def areEqual : List Node → List Node → Bool
  | [], [] => true
  | x :: xs, y :: ys => x.isEqual y && areEqual xs ys
  | _, _ => false

/-- The entries of the two mappings are equal one by one. -/
def haveEqual : List (Node × Node) → List (Node × Node) → Bool
  | [], [] => true
  | (k, v) :: es, (l, w) :: fs => k.isEqual l && v.isEqual w && haveEqual es fs
  | _, _ => false

end

mutual

theorem isEqual_iff : ∀ {m n : Node}, m.isEqual n = true ↔ m = n
  | .null, n => by cases n <;> simp [isEqual]
  | .bool _, n => by cases n <;> simp [isEqual]
  | .number _, n => by cases n <;> simp [isEqual]
  | .string _, n => by cases n <;> simp [isEqual]
  | .sequence _, n => by cases n <;> simp [isEqual, areEqual_iff]
  | .mapping _, n => by cases n <;> simp [isEqual, haveEqual_iff]
  | .tagged _ m, n => by cases n <;> simp [isEqual, isEqual_iff (m := m)]

theorem areEqual_iff : ∀ {l k : List Node}, areEqual l k = true ↔ l = k
  | [], ys => by cases ys <;> simp [areEqual]
  | x :: xs, ys => by cases ys <;> simp [areEqual, isEqual_iff (m := x), areEqual_iff (l := xs)]

theorem haveEqual_iff : ∀ {l k : List (Node × Node)}, haveEqual l k = true ↔ l = k
  | [], fs => by cases fs <;> simp [haveEqual]
  | (k, v) :: es, fs => by
    cases fs <;>
      simp [haveEqual, isEqual_iff (m := k), isEqual_iff (m := v), haveEqual_iff (l := es),
        Prod.ext_iff, and_assoc]

end

instance : DecidableEq Node := fun m n => decidable_of_iff (m.isEqual n = true) isEqual_iff

end Node

end SchemaBeans.Yaml

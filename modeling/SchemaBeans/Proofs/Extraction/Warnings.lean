import SchemaBeans.Proofs.Extraction.Lookups

/-!
# Extraction — the warnings of a document

An extraction warns of a shape in the order in which it goes through it: first of what its element
says, then of each visited member, and last of the names that it requires in vain
(`Shape.warnings`).  A name is required in vain if nothing that a member keeps lies at its path, and
what is kept is known from the shape alone (`Shape.keptPaths`).

So the warnings of a shape do not depend on what was put in before it (`warnings_addShape`), and
those of a document are those of its component schemas, one after another (`warnings_ofEntries`).
-/

namespace SchemaBeans.Schema

open Yaml (Node)
open Shape (memberPaths places placesBelow)

/-- The path of the schema that a warning is about. -/
def Warning.path : Warning → String
  | .anyType path | .unknownRequired path _ | .enumEntry path | .duplicateName path _ => path

namespace Shape

variable {path parent q : String} {s : Shape} {members : List (String × Shape)}

/-! ### What is kept -/

/-- The paths of the places that a shape keeps. -/
def keptPaths (path : String) (s : Shape) : List String :=
  if s.IsSound path then (places path s).map Prod.fst else []

/-- The paths of the places that members keep. -/
def keptBelow (parent : String) (members : List (String × Shape)) : List String :=
  members.flatMap fun m => m.2.keptPaths (Path.child parent m.1)

theorem mem_keptPaths_iff : q ∈ s.keptPaths path ↔ ∃ t, s.Keeps path q t := by
  rw [keptPaths]
  split
  · next hsound =>
    simp only [List.mem_map, Prod.exists, exists_and_right, exists_eq_right]
    exact exists_congr fun t => ⟨fun ht => ⟨hsound, ht⟩, Keeps.mem⟩
  · next hsound =>
    simp only [List.not_mem_nil, false_iff, not_exists]
    exact fun t ht => hsound ht.isSound

theorem mem_keptBelow_iff : q ∈ keptBelow parent members ↔
    ∃ m ∈ members, ∃ t, m.2.Keeps (Path.child parent m.1) q t := by
  simp only [keptBelow, List.mem_flatMap, mem_keptPaths_iff]

/-! ### Warnings -/

/-- The warnings about the element of a shape. -/
def openingWarnings (path : String) : Shape → List Warning
  | .faulty _ => []
  | .valid _ _ element _ => Extraction.elementWarnings path element

/-- The warnings about names that a shape requires and no member has. -/
def closingWarnings (path : String) (s : Shape) : List Warning :=
  (s.requiredNames.filter fun name => Path.child path name ∉ keptBelow path s.visited).map
    (.unknownRequired path)

mutual

/-- The warnings about a shape and all that is visited below it. -/
def warnings (path : String) : Shape → List Warning
  | .faulty _ => []
  | .valid description dimensions element members =>
    let s := Shape.valid description dimensions element members
    s.openingWarnings path ++
      (if element.declaration.typeName = objectType then warningsBelow path members else []) ++
      s.closingWarnings path

/-- The warnings about members, one after another. -/
def warningsBelow (parent : String) : List (String × Shape) → List Warning
  | [] => []
  | (name, s) :: rest => warnings (Path.child parent name) s ++ warningsBelow parent rest

end

theorem warnings_eq (path : String) (s : Shape) :
    s.warnings path =
      s.openingWarnings path ++ warningsBelow path s.visited ++ s.closingWarnings path := by
  cases s with
  | faulty fault => rfl
  | valid description dimensions element members =>
    rw [warnings, visited]
    split <;> rfl

theorem warningsBelow_eq (parent : String) (members : List (String × Shape)) :
    warningsBelow parent members =
      members.flatMap fun m => m.2.warnings (Path.child parent m.1) := by
  induction members with
  | nil => rfl
  | cons m members ih => rw [warningsBelow, ih, List.flatMap_cons]

theorem path_of_mem_openingWarnings {w : Warning} (h : w ∈ s.openingWarnings path) :
    w.path = path := by
  cases s with
  | faulty fault => cases h
  | valid description dimensions element members =>
    rw [openingWarnings, Extraction.elementWarnings, List.mem_append] at h
    rcases h with h | h
    · split at h
      · rw [List.mem_singleton.mp h, Warning.path]
      · cases h
    · rw [(List.mem_replicate.mp h).2, Warning.path]

/-- A shape warns of paths within its own only. -/
theorem isWithin_of_mem_warnings {w : Warning} (h : w ∈ s.warnings path) :
    Path.isWithin w.path path = true := by
  induction s using visitedInduction generalizing path with
  | step s ih =>
    rw [warnings_eq, List.mem_append, List.mem_append, warningsBelow_eq, List.mem_flatMap] at h
    rcases h with (h | ⟨m, hm, h⟩) | h
    · rw [path_of_mem_openingWarnings h]
      exact Path.isWithin_self path
    · exact Path.isWithin_trans (ih m hm h) (Path.isWithin_child path m.1)
    · obtain ⟨name, -, rfl⟩ := List.mem_map.mp h
      exact Path.isWithin_self path

end Shape

namespace Extraction

variable {x : Extraction} {parent path name : String} {members : List (String × Shape)}

/-! ### The steps -/

theorem warnings_enter {description : Option String} {dimensions : Nat} {element : Element} :
    (x.enter path description dimensions element).warnings =
      x.warnings ++ elementWarnings path element := by
  simp only [enter]
  split <;> rfl

theorem warnings_pruneFaulty : (x.pruneFaulty path).warnings = x.warnings := by
  rw [pruneFaulty]
  split <;> rfl

/-- Requiring names warns of those without a property, which requiring others does not change. -/
theorem warnings_requireAll (names : List String) :
    (names.foldl (require path) x).warnings =
      x.warnings ++ (names.filter fun name =>
        x.model.property? (Path.child path name) = none).map (.unknownRequired path) := by
  induction names generalizing x with
  | nil => simp
  | cons name names ih =>
    have hsame : ∀ other, (x.require path name).model.property? (Path.child path other) = none ↔
        x.model.property? (Path.child path other) = none := by
      intro other
      rw [property?_require, Option.map_eq_none_iff]
    have hstep : (x.require path name).warnings = x.warnings ++
        ([name].filter fun name => x.model.property? (Path.child path name) = none).map
          (.unknownRequired path) := by
      rw [require]
      cases h : x.model.property? (Path.child path name) <;> simp [warn, h]
    simp only [List.foldl_cons, ih, hsame, hstep, List.append_assoc, ← List.map_append,
      ← List.filter_append, List.singleton_append]

/-! ### Shapes -/

/-- Before members are gone through, a name is known below a path if a member keeps its place. -/
theorem Fills.property?_eq_none_iff {s : Shape} {description : Option String} {dimensions : Nat}
    {element : Element} {y : Extraction} (hm : Shape.SafeMembers s.visited)
    (hx : Fresh [path] x)
    (inner : Fills path (memberPaths path s.visited) (placesBelow path s.visited)
      (x.enter path description dimensions element) y) (name : String) :
    y.model.property? (Path.child path name) = none ↔
      Path.child path name ∉ Shape.keptBelow path s.visited := by
  have hnone : (x.enter path description dimensions element).model.property?
      (Path.child path name) = none := by
    rw [property?_enter, if_neg (Path.child_ne_self path name)]
    exact hx.property (covered_singleton.mpr (Path.isWithin_child path name))
  rw [Shape.mem_keptBelow_iff, ← inner.isSome_property?_iff hm fun _ => hnone,
    Option.not_isSome_iff_eq_none]

/-- Members that are gone through warn one after another, if each warns as its shape says. -/
theorem warnings_addShapes (h : Shape.AllSafe members) (hx : Fresh (memberPaths parent members) x)
    (hwarn : ∀ m ∈ members, ∀ x, Fresh [Path.child parent m.1] x →
      (addShape (Path.child parent m.1) m.2 x).warnings =
        x.warnings ++ m.2.warnings (Path.child parent m.1)) :
    (addShapes parent members x).warnings = x.warnings ++ Shape.warningsBelow parent members := by
  induction members generalizing x with
  | nil => exact (List.append_nil _).symm
  | cons m members ih =>
    obtain ⟨name, s⟩ := m
    have hfill := fills_addShape (h.safe _ List.mem_cons_self) (h.isSegment _ List.mem_cons_self)
      hx.head
    have hrest := ih h.tail (hfill.fresh_siblings h.toSafeMembers hx)
      fun m hm => hwarn m (List.mem_cons_of_mem _ hm)
    rw [addShapes, hrest, hwarn _ List.mem_cons_self x hx.head, Shape.warningsBelow,
      List.append_assoc]

/-- **Warnings.**  A shape with safe names adds the warnings that it has by itself. -/
theorem warnings_addShape {s : Shape} (hs : s.Safe) (hn : Path.IsSegment name)
    (hx : Fresh [Path.child parent name] x) :
    (addShape (Path.child parent name) s x).warnings =
      x.warnings ++ s.warnings (Path.child parent name) := by
  induction hs generalizing parent name x with
  | @intro s hm hsafe ih =>
    cases s with
    | faulty fault => exact (List.append_nil _).symm
    | valid description dimensions element members =>
      have hentered : Fresh (memberPaths (Path.child parent name)
          (Shape.valid description dimensions element members).visited)
          (x.enter (Path.child parent name) description dimensions element) :=
        fresh_enter description dimensions element hn hx
      have inner := fills_members ⟨hm, hsafe⟩ hentered
      have hbelow := warnings_addShapes ⟨hm, hsafe⟩ hentered fun m hmem x hx =>
        ih m hmem (hm.isSegment m hmem) hx
      rw [addShape_valid fun q c => hx.isWithin_eq_false, warnings_pruneFaulty,
        warnings_requireAll, hbelow, warnings_enter, Shape.warnings_eq, Shape.closingWarnings]
      simp only [inner.property?_eq_none_iff hm hx, Shape.openingWarnings, List.append_assoc]

/-! ### Documents -/

/-- The warnings of a path-safe document are those of its component schemas, in order. -/
theorem warnings_ofEntries {schemas : List (Node × Node)} (hsafe : PathSafe schemas) :
    (ofEntries schemas).warnings = Shape.warningsBelow Path.base (Shape.ofEntries schemas) := by
  have hall := hsafe.allSafe
  refine (warnings_addShapes hall (fresh_empty _) fun m hm _ hx => ?_).trans (List.nil_append _)
  exact warnings_addShape (hall.safe m hm) (hall.isSegment m hm) hx

end Extraction

end SchemaBeans.Schema

import SchemaBeans.Generation.Translate
import SchemaBeans.Proofs.Extraction.Steps

/-!
# Generation — what the journal says of a translation

Up to the package a run works on no files, and its journal says so: no entry is about a file that
was written (`writesNothing_translate`).  Each phase only adds entries at the end, so it is enough
that the entries of each step are about schemas and types.
-/

namespace SchemaBeans.Journal

/-- No entry says that a file was written. -/
def WritesNothing (events : List Event) : Prop := ∀ path, Event.wrote path ∉ events

@[simp] theorem writesNothing_nil : WritesNothing [] := fun _ => List.not_mem_nil

/-- Entries that follow one another write nothing if neither list does. -/
@[simp] theorem writesNothing_append {events events' : List Event} :
    WritesNothing (events ++ events') ↔ WritesNothing events ∧ WritesNothing events' := by
  simp only [WritesNothing, List.mem_append, not_or, forall_and]

/-- An entry and the ones after it write nothing if neither it nor any of these is about a file. -/
@[simp] theorem writesNothing_cons {e : Event} {events : List Event} :
    WritesNothing (e :: events) ↔ (∀ path, e ≠ .wrote path) ∧ WritesNothing events := by
  simp only [WritesNothing, List.mem_cons, not_or, forall_and, ne_eq, eq_comm]

/-- Entries made one for each thing are about no written file, if none of them is. -/
theorem writesNothing_map {α : Type} {entry : α → Event} (h : ∀ a path, entry a ≠ .wrote path)
    (l : List α) : WritesNothing (l.map entry) := by
  intro path hmem
  obtain ⟨a, -, ha⟩ := List.mem_map.mp hmem
  exact h a path ha

end SchemaBeans.Journal

namespace SchemaBeans.Schema

open Journal (WritesNothing)

namespace Extraction

variable {x : Extraction} {path : String}

/-- Of a schema that is put in, its type may be noted. -/
theorem writesNothing_enter {description : Option String} {dimensions : Nat} {element : Element}
    (hx : WritesNothing x.events) :
    WritesNothing (x.enter path description dimensions element).events := by
  rw [enter]
  dsimp only
  split
  · simpa [addType, warn] using hx
  · exact hx

/-- Requiring properties is not noted. -/
theorem events_requireAll (names : List String) :
    (names.foldl (require path) x).events = x.events := by
  induction names generalizing x with
  | nil => rfl
  | cons name names ih =>
    rw [List.foldl_cons, ih, require]
    split <;> rfl

/-- To take out a faulty schema is noted by its path and by how much is taken out. -/
theorem writesNothing_pruneFaulty (hx : WritesNothing x.events) :
    WritesNothing (x.pruneFaulty path).events := by
  rw [pruneFaulty]
  split
  · simpa using hx
  · exact hx

/-- The members of an object write nothing if no member does. -/
theorem writesNothing_addShapes {members : List (String × Shape)} {parent : String}
    (hx : WritesNothing x.events)
    (hm : ∀ m ∈ members, ∀ {x : Extraction} {path : String}, WritesNothing x.events →
      WritesNothing (addShape path m.2 x).events) :
    WritesNothing (addShapes parent members x).events := by
  induction members generalizing x with
  | nil => exact hx
  | cons m members ih =>
    obtain ⟨name, s⟩ := m
    rw [addShapes]
    exact ih (hm _ List.mem_cons_self hx) fun m hmem => hm m (List.mem_cons_of_mem _ hmem)

/-- **A shape writes nothing.**  The induction is on the members that are visited. -/
theorem writesNothing_addShape {s : Shape} (hx : WritesNothing x.events) :
    WritesNothing (addShape path s x).events := by
  induction s using Shape.visitedInduction generalizing path x with
  | step s ih =>
    cases s with
    | faulty fault => simpa [addShape, fail] using hx
    | valid description dimensions element members =>
      rw [addShape_eq_enter]
      split
      · refine writesNothing_pruneFaulty ?_
        rw [events_requireAll]
        exact writesNothing_addShapes (writesNothing_enter hx) ih
      · exact writesNothing_enter hx

/-- **An extraction writes nothing.**  Its entries are those of its schemas and a summary. -/
theorem writesNothing_extract {document : Yaml.Node} (hx : extract document = .ok x) :
    WritesNothing x.events := by
  rw [extract] at hx
  cases hc : components document with
  | error absence => simp [hc, Except.map] at hx
  | ok schemas =>
    simp only [hc, Except.map, Except.ok.injEq] at hx
    rw [← hx, ofEntries]
    have hshapes : WritesNothing (addShapes Path.base (Shape.ofEntries schemas) {}).events :=
      writesNothing_addShapes Journal.writesNothing_nil fun _ _ => writesNothing_addShape
    simpa [summary] using hshapes

end Extraction

namespace Resolution

variable {x : Resolution}

/-- A round of dropping references notes the schemas that are lost, no file. -/
theorem writesNothing_foldl_drop {errors : List SchemaError} (hx : WritesNothing x.events) :
    WritesNothing (errors.foldl drop x).events := by
  induction errors generalizing x with
  | nil => exact hx
  | cons error errors ih => exact ih (by simpa [drop] using hx)

/-- However many rounds there are, none of them notes a file. -/
theorem writesNothing_settleWithin (rounds : Nat) (hx : WritesNothing x.events) :
    WritesNothing (settleWithin rounds x).events := by
  induction rounds generalizing x with
  | zero => exact hx
  | succ rounds ih =>
    rw [settleWithin]
    split
    · exact hx
    · exact ih (writesNothing_foldl_drop hx)

/-- A resolved reference is noted by its path and its target. -/
theorem writesNothing_foldl_resolveOne {entries : List (String × String)}
    (hx : WritesNothing x.events) : WritesNothing (entries.foldl resolveOne x).events := by
  induction entries generalizing x with
  | nil => exact hx
  | cons entry entries ih =>
    refine ih ?_
    rw [resolveOne, Journal.writesNothing_append]
    refine ⟨hx, ?_⟩
    split <;> simp

end Resolution

/-- **A resolution writes nothing.**  It drops what is broken and resolves the rest. -/
theorem writesNothing_resolve (m : Model) (errors : Errors) :
    WritesNothing (resolve m errors).events :=
  Resolution.writesNothing_foldl_resolveOne
    (Resolution.writesNothing_settleWithin _ Journal.writesNothing_nil)

end SchemaBeans.Schema

namespace SchemaBeans.Java

open Journal (WritesNothing)
open Schema (Model SchemaType)

/-- **A package writes nothing** while its types are put in: an entry is about a type or a renamed
member. -/
theorem writesNothing_foldl_add {m : Model} {entries : List (String × SchemaType)}
    {x : Translation} (hx : WritesNothing x.events) :
    WritesNothing (entries.foldl (Translation.add m) x).events := by
  induction entries generalizing x with
  | nil => exact hx
  | cons entry entries ih =>
    have hrenaming : WritesNothing (renamingEvents m entry.2) :=
      Journal.writesNothing_map (fun _ _ h => by cases h) _
    refine ih ?_
    rw [Translation.add]
    split <;> simp [hx, hrenaming]

end SchemaBeans.Java

namespace SchemaBeans.Generation

open Journal (WritesNothing)

/-- The entries about a finished translation are those of its types, its warnings and its counts. -/
theorem writesNothing_translationEvents (package : String) (x : Schema.Extraction)
    (r : Schema.Resolution) {t : Java.Translation} (ht : WritesNothing t.events) :
    WritesNothing (translationEvents package x r t) := by
  have hwarnings : ∀ warnings : List Schema.Warning,
      WritesNothing (warnings.map Journal.Event.warning) :=
    Journal.writesNothing_map fun _ _ h => by cases h
  rw [translationEvents]
  split <;> simp [ht, hwarnings]

/-- What comes after an extraction writes nothing, whether it ends in errors or in a package. -/
theorem writesNothing_translateExtraction (package : String) {x : Schema.Extraction}
    (hx : WritesNothing x.events) : WritesNothing (translateExtraction package x).events := by
  rw [translateExtraction]
  split
  · exact hx
  · next r hr =>
    have hr : WritesNothing r.events := by
      rw [← Schema.resolve_of_resolve? hr]
      exact Schema.writesNothing_resolve _ _
    dsimp only
    split
    · split
      · simp [hx, hr]
      · next t ht =>
        have ht : WritesNothing t.events := by
          rw [← Java.translate_of_translate? ht]
          exact Java.writesNothing_foldl_add Journal.writesNothing_nil
        simp [hx, hr, writesNothing_translationEvents package x r ht]
    · simp [hx, hr]

/-- **A translation writes nothing.**  Whatever comes of a text, no entry up to there is about a
file that was written. -/
theorem writesNothing_translate (package text : String) :
    WritesNothing (translate package text).events := by
  rw [translate]
  split
  · exact Journal.writesNothing_nil
  rw [translateDocument]
  split
  · exact Journal.writesNothing_nil
  · next x hx =>
    exact writesNothing_translateExtraction package (Schema.Extraction.writesNothing_extract hx)

end SchemaBeans.Generation

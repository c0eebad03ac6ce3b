import SchemaBeans.Proofs.Extraction.Rearrangement
import SchemaBeans.Proofs.Generation.Members

/-!
# Generation — documents in another order

The order of entries, and that of the values of an enum, says nothing: a path-safe document and a
rearranged one come to the same package with the same counts, or to the same errors, and to the same
warnings up to order (`translate_of_rearranged`).

The order in which schemas are read does show in what is recorded on the way.  It is gone in the
end, for properties, types, errors and values are kept in order of their own, and an extraction is
the same for all documents whose places have the same views.
-/

namespace SchemaBeans.Generation

open Schema
open Yaml (Node)
open Yaml.Node (Rearranged Rearranges)

namespace Stats

/-- What was counted, without the warnings. -/
def counts (s : Stats) : Stats := { s with warnings := [] }

theorem counts_foldl {α : Type} (record : Stats → α → Stats)
    (h : ∀ s a, (record s a).counts = (record s.counts a).counts) (l : List α) {s s' : Stats}
    (hs : s.counts = s'.counts) : (l.foldl record s).counts = (l.foldl record s').counts := by
  induction l generalizing s s' with
  | nil => exact hs
  | cons a l ih => exact ih (by rw [h, hs, ← h])

/-- Counting the types of a package adds to the counts, whatever the warnings. -/
theorem counts_recordPackage {s s' : Stats} (h : s.counts = s'.counts) (p : Java.Package) :
    (s.recordPackage p).counts = (s'.recordPackage p).counts :=
  counts_foldl _ (fun _ _ => rfl) _ (counts_foldl _ (fun _ _ => rfl) _ h)

end Stats

/-- The same error, or the same package with the same counts and, up to order, the same warnings. -/
inductive SameResult : Except Error Product → Except Error Product → Prop where
  | error (error : Error) : SameResult (.error error) (.error error)
  | product (package : Java.Package) {stats stats' : Stats} (hcounts : stats.counts = stats'.counts)
      (hwarnings : stats.warnings.Perm stats'.warnings) :
      SameResult (.ok ⟨package, stats⟩) (.ok ⟨package, stats'⟩)

variable {package text text' : String} {document document' : Node}

/-- Extractions that differ in the order of warnings come to the same. -/
theorem translate_of_extracted {x x' : Extraction} (hread : Yaml.read text = .ok document)
    (hread' : Yaml.read text' = .ok document') (hx : extract document = .ok x)
    (hx' : extract document' = .ok x') (hmodel : x.model = x'.model)
    (herrors : x.errors = x'.errors) (hwarnings : x.warnings.Perm x'.warnings)
    (hcount : x.count = x'.count) :
    SameResult (translate package text).result (translate package text').result := by
  rw [translate_of_read hread hx, translate_of_read hread' hx', hmodel, herrors]
  split
  · refine .product _ ?_ ?_
    · refine Stats.counts_recordPackage ?_ _
      simp only [Stats.counts, Stats.recordWarnings, Stats.recordSchemas, hcount]
    · rw [warnings_statsOf, warnings_statsOf]
      exact hwarnings.append_right _
  · exact .error _

/-- **Order says nothing.**  Two texts that are read as path-safe documents, of which one is the
other rearranged, are translated to the same package, the same counts and, up to order, the same
warnings, or they fail with the same error. -/
theorem translate_of_rearranged (package : String) (hread : Yaml.read text = .ok document)
    (hread' : Yaml.read text' = .ok document') (h : Rearranged document document')
    (hsafe : ∀ schemas, components document = .ok schemas → PathSafe schemas)
    (hsafe' : ∀ schemas, components document' = .ok schemas → PathSafe schemas) :
    SameResult (translate package text).result (translate package text').result := by
  have halike := components_of_rearranged h (Yaml.keyed_of_read hread)
  generalize hc : components document = r at halike
  generalize hc' : components document' = r' at halike
  cases halike with
  | absent absence =>
    simp only [translate, hread, hread', translateDocument, extract, hc, hc', Except.map]
    exact .error _
  | schemas halike hlength =>
    obtain ⟨hmodel, herrors, hwarnings⟩ := Extraction.ofEntries_congr (hsafe _ hc) (hsafe' _ hc')
      (halike.below Path.base)
    exact translate_of_extracted hread hread' (Extraction.extract_of_components hc)
      (Extraction.extract_of_components hc') hmodel herrors hwarnings hlength

/-- Rearranged component schemas make a rearranged document. -/
theorem rearranges_documentOf {es fs : List (Node × Node)}
    (h : Rearranges (.mapping es) (.mapping fs)) : Rearranges (documentOf es) (documentOf fs) :=
  .value _ [] [] (.value _ [] [] h)

/-- A schema of any type. -/
def openEntries : List (Node × Node) :=
  [(.string "anyOf", .sequence []), (.string "description", .string "any")]

/-- A choice of values. -/
def choiceEntries (values : List Node) : List (Node × Node) :=
  [(.string "type", .string "string"), (.string "enum", .sequence values)]

/-- Two schemas of any type around a choice. -/
def aroundChoice : String :=
  "components:\n  schemas:\n" ++
  "    a: \x7banyOf: [], description: any\x7d\n" ++
  "    b: \x7btype: string, enum: [x, y]\x7d\n" ++
  "    c: \x7banyOf: [], description: any\x7d\n"

/-- The same the other way round, with a value of the choice repeated. -/
def aroundChoiceReversed : String :=
  "components:\n  schemas:\n" ++
  "    c: \x7bdescription: any, anyOf: []\x7d\n" ++
  "    b: \x7benum: [y, x, y], type: string\x7d\n" ++
  "    a: \x7banyOf: [], description: any\x7d\n"

/-- The package is the same, with an enum, and so are the warnings about the schemas of any type,
which are given in the other order. -/
theorem aroundChoice_reversed :
    SameResult (translate "pets" aroundChoice).result
        (translate "pets" aroundChoiceReversed).result ∧
      (translate "pets" aroundChoice).result.toOption.any (fun product =>
        product.package.enums.size = 1 ∧ product.stats.warnings =
          [.anyType "#/components/schemas/a", .anyType "#/components/schemas/c"]) ∧
      (translate "pets" aroundChoiceReversed).result.toOption.any fun product =>
        product.stats.warnings =
          [.anyType "#/components/schemas/c", .anyType "#/components/schemas/a"] := by
  have hread : Yaml.read aroundChoice = .ok (documentOf
      [(.string "a", .mapping openEntries),
        (.string "b", .mapping (choiceEntries [.string "x", .string "y"])),
        (.string "c", .mapping openEntries)]) := by decide +kernel
  have hread' : Yaml.read aroundChoiceReversed = .ok (documentOf
      [(.string "c", .mapping openEntries.reverse),
        (.string "b", .mapping (choiceEntries [.string "y", .string "x", .string "y"]).reverse),
        (.string "a", .mapping openEntries)]) := by decide +kernel
  have hchoices : Node.SameChoices (.sequence [.string "x", .string "y"])
      (.sequence [.string "y", .string "x", .string "y"]) := by
    refine .sequence (fun n _ => ?_) rfl
    simp only [List.mem_cons, List.not_mem_nil, or_false]
    exact ⟨Or.inr, fun h => h.elim Or.inr id⟩
  have h : Rearranged
      (documentOf
        [(.string "a", .mapping openEntries),
          (.string "b", .mapping (choiceEntries [.string "x", .string "y"])),
          (.string "c", .mapping openEntries)])
      (documentOf
        [(.string "c", .mapping openEntries.reverse),
          (.string "b", .mapping (choiceEntries [.string "y", .string "x", .string "y"]).reverse),
          (.string "a", .mapping openEntries)]) := by
    -- the schemas, the entries of the first one, the values of the choice, its entries
    refine .trans (.single (rearranges_documentOf (.entries (List.reverse_perm _).symm))) ?_
    refine .trans (.single (rearranges_documentOf (.value _ [] _
      (.entries (List.reverse_perm _).symm)))) ?_
    refine .trans (.single (rearranges_documentOf (.value _ [_] [_]
      (.choices [_] [] hchoices)))) ?_
    exact .single (rearranges_documentOf (.value _ [_] [_] (.entries (List.reverse_perm _).symm)))
  refine ⟨translate_of_rearranged "pets" hread hread' h ?_ ?_, by decide +kernel, by decide +kernel⟩
  · rintro schemas ⟨⟩
    decide +kernel
  · rintro schemas ⟨⟩
    decide +kernel

end SchemaBeans.Generation

import SchemaBeans.Generation.Translate
import SchemaBeans.Proofs.Resolution.Bounds
import SchemaBeans.Proofs.Resolution.Order
import SchemaBeans.Proofs.Resolution.Targets

/-!
# Generation — which documents are accepted

A document is *accepted* if each of its sites is that of a schema, and each schema that refers to a
path names a site with a type of its own (`Accepted`).  This says nothing of models, of the order
in which schemas are read, or of what is taken out again.

A text that can be read, and has component schemas, always comes to a package or to schema errors:
no bound ever leaves its word (`translate_of_read`).  It comes to a package exactly if the document
is accepted (`translate_eq_ok_iff_accepted`): an error, once it is recorded, is never lost.
-/

namespace SchemaBeans.Generation

open Schema
open Yaml (Node)

/-- Every site is that of a schema, and every reference names a site with a type of its own. -/
structure Accepted (schemas : List (Node × Node)) : Prop where
  isSchema {c : Site} : IsSite schemas c → IsSchema c.node
  target {c : Site} {path : String} : IsSite schemas c → RefersTo c.node path →
    ∃ d, IsSite schemas d ∧ d.path = path ∧ HasOwnType d.node

/-! ### Bounds of members -/

theorem mem_members {m : Model} {t : SchemaType} {p : Property} (h : p ∈ m.members t) :
    ∃ path, m.property? path = some p := by
  obtain ⟨path, -, hp⟩ := List.mem_filterMap.mp h
  exact ⟨path, hp⟩

/-- A property with few dimensions occurs no more often than a word can say. -/
theorem max_lt_wordLimit {c : Cardinality} (h : c.dimensions ≤ 2 * Yaml.depthLimit) :
    c.max < wordLimit := by
  have hw : Cardinality.perDimension * (2 * Yaml.depthLimit) < wordLimit := by decide
  have hone : 1 < wordLimit := by decide
  rw [Cardinality.max]
  split
  · exact hone
  · exact (Nat.mul_le_mul_left _ h).trans_lt hw

section Limited

variable {document : Node} {x : Extraction} (hdepth : document.depth ≤ Yaml.depthLimit)
  (hx : extract document = .ok x)

include hdepth hx

/-- The properties of a document within the limit have bounds that are words. -/
theorem max_lt_wordLimit_of_depth {path : String} {p : Property}
    (hp : (resolve x.model x.errors).model.property? path = some p) :
    p.cardinality.max < wordLimit := by
  have hdim := (resolve_bounds hx hp).2
  exact max_lt_wordLimit (by omega)

/-- The members of the classes of a document within the limit have bounds that are words. -/
theorem membersFit_of_depth : Java.MembersFit (resolve x.model x.errors).model := by
  intro entry _ _ p hp
  obtain ⟨path, hp⟩ := mem_members hp
  exact max_lt_wordLimit_of_depth hdepth hx hp

/-- **Translation of a document.**  What was extracted from a document within the limit comes to a
package, unless there are errors of schemas. -/
theorem translateDocument_of_depth (package : String) :
    (translateDocument package document).result =
      if (resolve x.model x.errors).errors.isEmpty then
        .ok {
          package := (Java.translate (resolve x.model x.errors).model package).package
          stats := statsOf x (Java.translate (resolve x.model x.errors).model package) }
      else .error (.schemas (resolve x.model x.errors).errors) := by
  have hfit : Java.translate? (resolve x.model x.errors).model package =
      .ok (Java.translate (resolve x.model x.errors).model package) :=
    if_pos (membersFit_of_depth hdepth hx)
  simp only [translateDocument, hx, translateExtraction, resolve?_of_depth hdepth hx, hfit]
  split <;> rfl

end Limited

section Read

variable {package text : String} {document : Node} {x : Extraction}

/-- **Translation of a text.**  What was extracted from a text comes to a package, unless there are
errors of schemas. -/
theorem translate_of_read (hread : Yaml.read text = .ok document) (hx : extract document = .ok x) :
    (translate package text).result =
      if (resolve x.model x.errors).errors.isEmpty then
        .ok {
          package := (Java.translate (resolve x.model x.errors).model package).package
          stats := statsOf x (Java.translate (resolve x.model x.errors).model package) }
      else .error (.schemas (resolve x.model x.errors).errors) := by
  rw [translate, hread]
  exact translateDocument_of_depth (Yaml.depth_le_of_read hread) hx package

/-- A package comes of a text that could be read, and whose schemas left no errors. -/
theorem exists_extract_of_translate {product : Product}
    (h : (translate package text).result = .ok product) :
    ∃ document schemas x, Yaml.read text = .ok document ∧ components document = .ok schemas ∧
      extract document = .ok x ∧ (resolve x.model x.errors).errors.isEmpty = true ∧
      product = {
        package := (Java.translate (resolve x.model x.errors).model package).package
        stats := statsOf x (Java.translate (resolve x.model x.errors).model package) } := by
  obtain ⟨document, hread⟩ : ∃ document, Yaml.read text = .ok document := by
    cases hread : Yaml.read text with
    | error fault => simp [translate, hread] at h
    | ok document => exact ⟨document, rfl⟩
  obtain ⟨schemas, hc⟩ : ∃ schemas, components document = .ok schemas := by
    cases hc : components document with
    | error absence => simp [translate, hread, translateDocument, extract, hc, Except.map] at h
    | ok schemas => exact ⟨schemas, rfl⟩
  obtain ⟨x, hx⟩ : ∃ x, extract document = .ok x := ⟨_, by rw [extract, hc]; rfl⟩
  rw [translate_of_read hread hx] at h
  split at h
  · next hempty =>
    cases h
    exact ⟨document, schemas, x, hread, hc, hx, hempty, rfl⟩
  · cases h

end Read

/-! ### Acceptance -/

variable {schemas : List (Node × Node)} {x : Extraction}

/-- No error is left after resolution exactly if the document is accepted. -/
theorem isEmpty_errors_iff_accepted (h : x.IsFilled schemas) (hsafe : PathSafe schemas)
    (hm : x.model.Indexed) :
    (resolve x.model x.errors).errors.isEmpty = true ↔ Accepted schemas := by
  rw [isEmpty_errors_resolve_iff hm]
  -- the first half of acceptance is that extraction records no error
  have hnone : x.errors.isEmpty = true ↔ ∀ c, IsSite schemas c → IsSchema c.node := by
    rw [Errors.isEmpty_iff]
    refine ⟨?_, ?_⟩
    · intro hpaths c hc
      by_contra hfault
      exact hpaths c.path (h.mem_paths_iff.mpr ⟨c, hc, rfl, hfault⟩)
    · intro hall path hpath
      obtain ⟨c, hc, -, hfault⟩ := h.mem_paths_iff.mp hpath
      exact hfault (hall c hc)
  refine ⟨?_, ?_⟩
  · rintro ⟨herrors, hrefs⟩
    have hall := hnone.mp herrors
    exact ⟨fun {c} => hall c,
      fun {c path} => (h.brokenReferences_eq_nil_iff hsafe hm hall).mp hrefs c path⟩
  · intro ha
    have hall : ∀ c, IsSite schemas c → IsSchema c.node := fun c hc => ha.isSchema hc
    exact ⟨hnone.mpr hall, (h.brokenReferences_eq_nil_iff hsafe hm hall).mpr
      fun c path hc hto => ha.target hc hto⟩

/-- **The accepted documents.**  A text that is read as a path-safe document with component schemas
is translated exactly if the document is accepted, whatever the name of the package; otherwise the
translation fails with errors of schemas, of which there is one at least. -/
theorem translate_eq_ok_iff_accepted {text : String} {document : Node}
    (hread : Yaml.read text = .ok document) (hc : components document = .ok schemas)
    (hsafe : PathSafe schemas) (package : String) :
    ((∃ product, (translate package text).result = .ok product) ↔ Accepted schemas) ∧
      (¬Accepted schemas → ∃ errors, errors.isEmpty = false ∧
        (translate package text).result = .error (.schemas errors)) := by
  obtain ⟨x, hx, hfilled⟩ := Extraction.exists_isFilled hc hsafe
  rw [← isEmpty_errors_iff_accepted hfilled hsafe (extract_wellPlaced hx).indexed,
    translate_of_read hread hx]
  cases hempty : (resolve x.model x.errors).errors.isEmpty with
  | true => simp
  | false => simpa using hempty

/-- An object that refers to an array. -/
def referringObject : String :=
  "components:\n  schemas:\n" ++
  "    a: \x7btype: object, properties: \x7bb: \x7b$ref: '#/components/schemas/c'\x7d\x7d\x7d\n" ++
  "    c: \x7btype: array, items: \x7btype: string\x7d\x7d\n"

/-- It is translated, so it is accepted. -/
theorem referringObject_accepted :
    ∃ document schemas product, Yaml.read referringObject = .ok document ∧
      components document = .ok schemas ∧ PathSafe schemas ∧
        (translate "pets" referringObject).result = .ok product ∧ Accepted schemas := by
  have hrun : (Yaml.read referringObject).toOption.any (fun document =>
      (components document).toOption.any fun schemas =>
        decide (PathSafe schemas) &&
          (translateDocument "pets" document).result.toOption.any fun _ => true) = true := by
    decide +kernel
  obtain ⟨document, hread, hrun⟩ := exists_of_toOption_any hrun
  obtain ⟨schemas, hc, hrun⟩ := exists_of_toOption_any hrun
  obtain ⟨hsafe, hrun⟩ := (Bool.and_eq_true _ _).mp hrun
  obtain ⟨product, hproduct, -⟩ := exists_of_toOption_any hrun
  have hresult : (translate "pets" referringObject).result = .ok product := by
    rw [translate, hread]
    exact hproduct
  have haccepted := translate_eq_ok_iff_accepted hread hc (of_decide_eq_true hsafe) "pets"
  exact ⟨document, schemas, product, hread, hc, of_decide_eq_true hsafe, hresult,
    haccepted.1.mp ⟨product, hresult⟩⟩

end SchemaBeans.Generation

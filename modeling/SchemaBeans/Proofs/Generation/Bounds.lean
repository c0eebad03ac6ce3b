import SchemaBeans.Proofs.Generation.Accepted

/-!
# Generation — no bound leaves its word

An extracted property has to occur once at most, and an array has no more dimensions than its
document is deep.  Resolution adds two such bounds at most, so it doubles them
(`bounds_of_depth`).  A document within the limit of nesting is far too shallow for sums of
bounds, or for the products that dimensions count for, to leave their words, and every text is read
as such a document or not at all: a run never ends with an overflow.
-/

namespace SchemaBeans.Generation

open Schema
open Yaml (Node)

/-- The largest number of occurrences of each property is a word. -/
def MaximaFit (m : Model) : Prop :=
  ∀ path p, m.property? path = some p → p.cardinality.max? = .ok p.cardinality.max

theorem maximaFit_of_depth {document : Node} {x : Extraction}
    (hdepth : document.depth ≤ Yaml.depthLimit) (hx : extract document = .ok x) :
    MaximaFit (resolve x.model x.errors).model :=
  fun _ _ hp => if_pos (max_lt_wordLimit_of_depth hdepth hx hp)

theorem translateDocument_ne_overflow {document : Node} (hdepth : document.depth ≤ Yaml.depthLimit)
    (package : String) (overflow : Overflow) :
    (translateDocument package document).result ≠ .error (.overflow overflow) := by
  cases hx : extract document with
  | error absence =>
    rw [translateDocument, hx]
    rintro ⟨⟩
  | ok x =>
    rw [translateDocument_of_depth hdepth hx]
    split <;> rintro ⟨⟩

theorem translate_ne_overflow (package text : String) (overflow : Overflow) :
    (translate package text).result ≠ .error (.overflow overflow) := by
  cases hread : Yaml.read text with
  | error fault =>
    rw [translate, hread]
    rintro ⟨⟩
  | ok document =>
    rw [translate, hread]
    exact translateDocument_ne_overflow (Yaml.depth_le_of_read hread) package overflow

/-- **Bounds.**  Let a document be no deeper than `limit`.  After extraction each lower bound is at
most one, and the dimensions are at most `limit`; after resolution they are at most twice as much.
If `limit` is that of nesting, the references are resolved without a sum that leaves its word,
whatever the order of the visits, and no product of dimensions leaves its word either.  So no
translation of such a document, or of any text, ends with an overflow. -/
theorem bounds_of_depth {document : Node} {x : Extraction} {limit : Nat}
    (hdepth : document.depth ≤ limit) (hx : extract document = .ok x) :
    (∀ path p, x.model.property? path = some p →
        p.cardinality.min ≤ 1 ∧ p.cardinality.dimensions ≤ limit) ∧
      (∀ r, resolve? x.model x.errors = .ok r → ∀ path p, r.model.property? path = some p →
        p.cardinality.min ≤ 2 ∧ p.cardinality.dimensions ≤ 2 * limit) ∧
      (limit ≤ Yaml.depthLimit →
        (Resolution.settle { model := x.model, errors := x.errors }).AddsWords ∧
          (∃ r, resolve? x.model x.errors = .ok r ∧ MaximaFit r.model) ∧
          ∀ package overflow,
            (translateDocument package document).result ≠ .error (.overflow overflow)) ∧
      ∀ package text overflow, (translate package text).result ≠ .error (.overflow overflow) := by
  refine ⟨fun path p hp => ?_, fun r hr path p hp => ?_, fun hlimit => ?_, translate_ne_overflow⟩
  · obtain ⟨hmin, hdim⟩ := extract_boundsWithin hx path p hp
    exact ⟨hmin, hdim.trans hdepth⟩
  · obtain rfl := resolve_of_resolve? hr
    obtain ⟨hmin, hdim⟩ := resolve_bounds hx hp
    exact ⟨hmin, hdim.trans (Nat.mul_le_mul_left 2 hdepth)⟩
  · have hm := (extract_wellPlaced hx).indexed
    have hshallow := hdepth.trans hlimit
    exact ⟨Resolution.addsWords_of_referencesFit (hm.settled x.errors)
        (hm.brokenReferences_settled x.errors) (referencesFit_settled_of_depth hshallow hx),
      ⟨_, resolve?_of_depth hshallow hx, maximaFit_of_depth hshallow hx⟩,
      translateDocument_ne_overflow hshallow⟩

/-- An object that requires an array of references to an array, which another object requires. -/
def requiredArrays : List (Node × Node) :=
  let array (items : Node) := Node.mapping [(.string "type", .string "array"),
    (.string "items", items)]
  let object (name : String) (n : Node) := Node.mapping [(.string "type", .string "object"),
    (.string "required", .sequence [.string name]), (.string "properties", .mapping
      [(.string name, n)])]
  [(.string "a", object "list" (array (.mapping
      [(.string "$ref", .string "#/components/schemas/b/rows")]))),
    (.string "b", object "rows" (array (.mapping [(.string "type", .string "string")])))]

/-- The array of references has the lower bounds and the dimensions of both arrays. -/
theorem requiredArrays_bounds : ∃ x r p,
    (documentOf requiredArrays).depth = 7 ∧ extract (documentOf requiredArrays) = .ok x ∧
      (x.model.property? "#/components/schemas/a/list").any (fun p => p.cardinality = ⟨1, 1⟩) ∧
      resolve? x.model x.errors = .ok r ∧
      r.model.property? "#/components/schemas/a/list" = some p ∧ p.cardinality = ⟨2, 2⟩ ∧
      (∀ path p, r.model.property? path = some p →
        p.cardinality.min ≤ 2 ∧ p.cardinality.dimensions ≤ 2 * 7) ∧
      MaximaFit r.model ∧ ∀ package overflow,
        (translateDocument package (documentOf requiredArrays)).result ≠
          .error (.overflow overflow) := by
  have hdepth : (documentOf requiredArrays).depth = 7 := by decide +kernel
  have hrun : (extract (documentOf requiredArrays)).toOption.any (fun x =>
      (x.model.property? "#/components/schemas/a/list").any (fun p => p.cardinality = ⟨1, 1⟩) ∧
        (resolve? x.model x.errors).toOption.any fun r =>
          (r.model.property? "#/components/schemas/a/list").any fun p =>
            p.cardinality = ⟨2, 2⟩) = true := by
    decide +kernel
  obtain ⟨x, hx, hrun⟩ := exists_of_toOption_any hrun
  obtain ⟨hextracted, hrun⟩ := of_decide_eq_true hrun
  obtain ⟨r, hr, hrun⟩ := exists_of_toOption_any hrun
  obtain ⟨p, hp, hcardinality⟩ := (Option.any_eq_true _ _).mp hrun
  obtain ⟨-, hbounds, hfits, -⟩ := bounds_of_depth hdepth.le hx
  obtain ⟨-, ⟨r', hr', hmaxima⟩, hno⟩ := hfits (by decide)
  rw [hr, Except.ok.injEq] at hr'
  exact ⟨x, r, p, hdepth, hx, hextracted, hr, hp, of_decide_eq_true hcardinality, hbounds r hr,
    hr' ▸ hmaxima, hno⟩

end SchemaBeans.Generation

import SchemaBeans.Proofs.Generation.Descriptions
import SchemaBeans.Proofs.Generation.Names
import SchemaBeans.Proofs.Java.Comments

/-!
# Generation — descriptions stay in their comments

Each line of a description is a comment of its own in the sources: it stands behind two slashes, and
no line feed is in it.  But a carriage return also ends a line for those who read the source, and so
does a Unicode escape that stands for a line end; a description is cut at neither.  What is behind
the first of these in a comment is read as code, and nothing else of the comments is
(`comments_of_translate`).
-/

namespace SchemaBeans.Generation

open Java (isContained)
open Schema (documentOf)

variable {package text : String} {product : Product}

/-- **Descriptions stay in their comments.**  Each comment of a package is one in the source,
without a line feed in it, and of its line nothing is read as code but what is behind the first line
end in the comment, Unicode escapes being read.  If there is none in any comment, the sources have
the code of the sources without comments; and there is none in a comment without escapes exactly if
it has no carriage return. -/
theorem comments_of_translate (h : (translate package text).result = .ok product) :
    product.package.KeepsComments :=
  (commented_of_translate h).keepsComments

/-- An object and a member of it with descriptions of several lines, with code in them. -/
def codeInDescriptions : String :=
  "components:\n  schemas:\n    A: \x7btype: object, description: \"\x7d\\n*/ int i;\\n\\n\", " ++
  "properties: \x7bb: \x7btype: string, description: \"\\\\\\\"\"\x7d\x7d\x7d\n"

/-- Nothing of the descriptions is read as code. -/
theorem codeInDescriptions_notRead : ∃ product,
    (translate "pets" codeInDescriptions).result = .ok product ∧
      product.package.commentTexts = ["\x7d", "*/ int i;", "\\\""] ∧
      product.package.readCode = product.package.undescribed.readCode := by
  have hread : Yaml.read codeInDescriptions = .ok (documentOf [(.string "A", .mapping
      [(.string "type", .string "object"), (.string "description", .string "\x7d\n*/ int i;\n\n"),
        (.string "properties", .mapping [(.string "b", .mapping
          [(.string "type", .string "string"), (.string "description", .string "\\\"")])])])]) := by
    decide +kernel
  obtain ⟨product, p, hproduct, -, hp, htexts⟩ :=
    exists_of_run some (fun p => p.commentTexts = ["\x7d", "*/ int i;", "\\\""]) hread
      (by decide +kernel)
  obtain rfl := Option.some.inj hp
  have hcontained : ∀ text ∈ product.package.commentTexts, isContained text = true := by
    rw [htexts]
    decide
  exact ⟨product, hproduct, htexts, (comments_of_translate hproduct).code hcontained⟩

/-- An object with a description that has a carriage return in it. -/
def carriageReturn : String :=
  "components:\n  schemas:\n    A: \x7btype: object, description: \"x\\ry\\nz\\n\"\x7d\n"

/-- The line behind the carriage return is read as code. -/
theorem carriageReturn_read : ∃ product,
    (translate "pets" carriageReturn).result = .ok product ∧ product.stats.warnings = [] ∧
      product.package.sources = [("A",
        "package pets;\n\n// x\ry\n" ++
          "public class A \x7b\n    public A() \x7b\n    \x7d\n\n\x7d\n")] ∧
      (∃ text ∈ product.package.commentTexts, '\r' ∈ text.toList) ∧
      product.package.readCode = [("A",
        some (["package pets;", "y", "public class A \x7b", "    public A() \x7b", "    \x7d",
          "\x7d"].map fun line => line.toList.map Char.toNat))] ∧
      product.package.readCode ≠ product.package.undescribed.readCode := by
  have hread : Yaml.read carriageReturn = .ok (documentOf [(.string "A", .mapping
      [(.string "type", .string "object"), (.string "description", .string "x\ry\nz\n")])]) := by
    decide +kernel
  obtain ⟨product, p, hproduct, hwarnings, hp, hholds⟩ :=
    exists_of_run some
      (fun p => p.sources = [("A",
          "package pets;\n\n// x\ry\n" ++
            "public class A \x7b\n    public A() \x7b\n    \x7d\n\n\x7d\n")] ∧
        (∃ text ∈ p.commentTexts, '\r' ∈ text.toList) ∧
        p.readCode = [("A",
          some (["package pets;", "y", "public class A \x7b", "    public A() \x7b", "    \x7d",
            "\x7d"].map fun line => line.toList.map Char.toNat))] ∧
        p.readCode ≠ p.undescribed.readCode) hread (by decide +kernel)
  obtain rfl := Option.some.inj hp
  exact ⟨product, hproduct, hwarnings, hholds⟩

end SchemaBeans.Generation

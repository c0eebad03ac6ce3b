import SchemaBeans.Proofs.Generation.Accepted
import SchemaBeans.Proofs.Java.Names
import SchemaBeans.Proofs.Java.Sources
import SchemaBeans.Proofs.Yaml.Equality

/-!
# Generation — the names in a package

The members of a class have different names in serialized form, and the constants of an enum have
different values.  Their own names are made of these one by one.  Two types of one name are warned
of; two members of a class, or two constants of an enum, are not, and the type that has them is put
into the package.

Members have the same name, or the same accessors, only if their names in serialized form are alike
(`memberNames_of_translate`).  Constants have the same name exactly if their values have the same
words, and none exactly if their value is empty (`constantNames_of_translate`).
-/

namespace SchemaBeans.Generation

open Java (Enum EnumConstant Member)
open Naming (Alike snakeWords)
open Schema (documentOf exists_of_toOption_any)

variable {package text name : String} {product : Product}

/-- A run on a text that is read as a document, without a warning, and what is found in the
package. -/
theorem exists_of_run {β : Type} {document : Yaml.Node} (find : Java.Package → Option β)
    (Holds : β → Prop) [DecidablePred Holds] (hread : Yaml.read text = .ok document)
    (hrun : (translateDocument "pets" document).result.toOption.any (fun product =>
      product.stats.warnings = [] ∧ (find product.package).any (Holds ·)) = true) :
    ∃ product b, (translate "pets" text).result = .ok product ∧ product.stats.warnings = [] ∧
      find product.package = some b ∧ Holds b := by
  obtain ⟨product, hproduct, hrun⟩ := exists_of_toOption_any hrun
  obtain ⟨hwarnings, hrun⟩ := of_decide_eq_true hrun
  obtain ⟨b, hb, hholds⟩ := (Option.any_eq_true _ _).mp hrun
  refine ⟨product, b, ?_, hwarnings, hb, of_decide_eq_true hholds⟩
  rw [translate, hread]
  exact hproduct

/-! ### Members -/

/-- The class declares no field and no accessor twice. -/
structure DeclaresOnce (c : Java.Class) : Prop where
  fields : (c.members.map Member.name).Nodup
  accessors : (c.members.map Member.pascalName).Nodup

/-- **Names of members.**  The members of a class in a package have different names in serialized
form.  Two of them have the same name or the same accessors only if they are alike there; so if no
two are, nothing is declared twice. -/
theorem memberNames_of_translate {c : Java.Class}
    (h : (translate package text).result = .ok product)
    (hc : product.package.classes[name]? = some c) :
    (c.members.map Member.wireName).Nodup ∧
      (∀ a ∈ c.members, ∀ b ∈ c.members,
        a.name = b.name ∨ a.pascalName = b.pascalName → Alike a.wireName b.wireName) ∧
      ((c.members.map Member.wireName).Pairwise (¬Alike · ·) → DeclaresOnce c) := by
  obtain ⟨document, schemas, x, -, -, hx, -, rfl⟩ := exists_extract_of_translate h
  obtain ⟨path, t, ht, hclass, -⟩ := Java.exists_class?_of_getElem? hc
  obtain ⟨-, rfl⟩ := Java.class?_eq_some_iff.mp hclass
  refine ⟨?_, fun a ha b hb => Java.alike_of_mem_members ha hb, fun hapart => ?_⟩
  · exact Java.nodup_wireNames ((Schema.reachable_of_extract hx).2 x.errors) ht
  · obtain ⟨hfields, haccessors⟩ := Java.nodup_of_not_alike hapart
    exact ⟨hfields, haccessors⟩

/-- An object with two names that differ in the case of a letter inside, and one with a hyphen. -/
def distinctMembers : String :=
  "components:\n  schemas:\n    A: \x7btype: object, properties: " ++
  "\x7bab: \x7btype: string\x7d, aB: \x7btype: string\x7d, a-c: \x7btype: string\x7d\x7d\x7d\n"

/-- The members have three names, and three pairs of accessors. -/
theorem distinctMembers_names : ∃ product c,
    (translate "pets" distinctMembers).result = .ok product ∧
      product.package.classes["A"]? = some c ∧
      c.members.map Member.wireName = ["aB", "a-c", "ab"] ∧
      c.members.map Member.name = ["aB", "aC", "ab"] ∧
      c.members.map Member.pascalName = ["AB", "AC", "Ab"] ∧ DeclaresOnce c := by
  have hread : Yaml.read distinctMembers = .ok (documentOf [(.string "A", .mapping
      [(.string "type", .string "object"), (.string "properties", .mapping
        [(.string "ab", .mapping [(.string "type", .string "string")]),
          (.string "aB", .mapping [(.string "type", .string "string")]),
          (.string "a-c", .mapping [(.string "type", .string "string")])])])]) := by
    decide +kernel
  obtain ⟨product, c, hproduct, -, hc, hwire, hnames, haccessors⟩ :=
    exists_of_run (·.classes["A"]?)
      (fun c => c.members.map Member.wireName = ["aB", "a-c", "ab"] ∧
        c.members.map Member.name = ["aB", "aC", "ab"] ∧
        c.members.map Member.pascalName = ["AB", "AC", "Ab"]) hread (by decide +kernel)
  have hapart : (c.members.map Member.wireName).Pairwise (¬Alike · ·) := by
    rw [hwire]
    decide +kernel
  exact ⟨product, c, hproduct, hc, hwire, hnames, haccessors,
    (memberNames_of_translate hproduct hc).2.2 hapart⟩

/-- An object with two names that become the same. -/
def doubledMember : String :=
  "components:\n  schemas:\n    A: \x7btype: object, properties: " ++
  "\x7baB: \x7btype: string\x7d, a_b: \x7btype: string\x7d\x7d\x7d\n"

/-- There are two members of one name in the class, with the same accessors, and no warning. -/
theorem doubledMember_sameName : ∃ product c,
    (translate "pets" doubledMember).result = .ok product ∧ product.stats.warnings = [] ∧
      product.package.classes["A"]? = some c ∧
      c.members.map Member.wireName = ["aB", "a_b"] ∧
      c.members.map Member.name = ["aB", "aB"] ∧
      c.members.map Member.pascalName = ["AB", "AB"] ∧ ¬DeclaresOnce c := by
  have hread : Yaml.read doubledMember = .ok (documentOf [(.string "A", .mapping
      [(.string "type", .string "object"), (.string "properties", .mapping
        [(.string "aB", .mapping [(.string "type", .string "string")]),
          (.string "a_b", .mapping [(.string "type", .string "string")])])])]) := by
    decide +kernel
  obtain ⟨product, c, hproduct, hwarnings, hc, hwire, hnames, haccessors⟩ :=
    exists_of_run (·.classes["A"]?)
      (fun c => c.members.map Member.wireName = ["aB", "a_b"] ∧
        c.members.map Member.name = ["aB", "aB"] ∧
        c.members.map Member.pascalName = ["AB", "AB"]) hread (by decide +kernel)
  refine ⟨product, c, hproduct, hwarnings, hc, hwire, hnames, haccessors, fun honce => ?_⟩
  have hfields := honce.fields
  rw [hnames] at hfields
  exact absurd hfields (by decide)

/-! ### Constants of an enum -/

/-- The enum declares no constant twice, and none without a name. -/
structure DeclaresNamed (e : Enum) : Prop where
  constants : (e.constants.map EnumConstant.name).Nodup
  named : "" ∉ e.constants.map EnumConstant.name

/-- **Names of constants.**  The constants of an enum in a package have different values.  A
constant has no name exactly if its value is empty, and two have the same name exactly if their
values have the same words.  So the names are different, and there is one for each constant, exactly
if the words of the values are different and no value is empty. -/
theorem constantNames_of_translate {e : Enum} (h : (translate package text).result = .ok product)
    (he : product.package.enums[name]? = some e) :
    (e.constants.map EnumConstant.value).Nodup ∧
      (∀ k ∈ e.constants, k.name = "" ↔ k.value = "") ∧
      (∀ k ∈ e.constants, ∀ l ∈ e.constants,
        k.name = l.name ↔ snakeWords k.value = snakeWords l.value) ∧
      (DeclaresNamed e ↔ (e.constants.map fun k => snakeWords k.value).Nodup ∧
        "" ∉ e.constants.map EnumConstant.value) := by
  obtain ⟨document, schemas, x, -, -, hx, -, rfl⟩ := exists_extract_of_translate h
  obtain ⟨path, t, -, rfl⟩ := Java.getElem?_enums_eq_some_iff.mp he
  obtain ⟨values, hvalues, hconstants⟩ := Java.exists_values_of_translateEnum
    (Schema.resolve x.model x.errors).model t
  rw [hconstants]
  exact ⟨Java.nodup_values hvalues, fun k hk => Java.name_eq_empty_iff_of_mem_constants hk,
    fun k hk l hl => Java.name_eq_iff_of_mem_constants hk hl,
    fun h => ⟨Java.nodup_names_iff.mp h.constants, Java.empty_not_mem_names_iff.mp h.named⟩,
    fun h => ⟨Java.nodup_names_iff.mpr h.1, Java.empty_not_mem_names_iff.mpr h.2⟩⟩

/-- A choice of three values, two of them with the same letters, and of none. -/
def distinctConstants : String :=
  "components:\n  schemas:\n    A: \x7btype: string, enum: [a-bc, a_-bc, aB1, nil]\x7d\n"

/-- The constants have three names. -/
theorem distinctConstants_names : ∃ product e,
    (translate "pets" distinctConstants).result = .ok product ∧
      product.package.enums["A"]? = some e ∧
      e.constants.map EnumConstant.value = ["a-bc", "aB1", "a_-bc"] ∧
      e.constants.map EnumConstant.name = ["A_BC", "A_B_1", "A__BC"] ∧
      (e.constants.map fun k => snakeWords k.value) =
        [[['A'], ['B', 'C']], [['A'], ['B'], ['1']], [['A'], [], ['B', 'C']]] ∧
      DeclaresNamed e := by
  have hread : Yaml.read distinctConstants = .ok (documentOf [(.string "A", .mapping
      [(.string "type", .string "string"), (.string "enum", .sequence
        [.string "a-bc", .string "a_-bc", .string "aB1", .string "nil"])])]) := by
    decide +kernel
  obtain ⟨product, e, hproduct, -, he, hvalues, hnames, hwords⟩ :=
    exists_of_run (·.enums["A"]?)
      (fun e => e.constants.map EnumConstant.value = ["a-bc", "aB1", "a_-bc"] ∧
        e.constants.map EnumConstant.name = ["A_BC", "A_B_1", "A__BC"] ∧
        (e.constants.map fun k => snakeWords k.value) =
          [[['A'], ['B', 'C']], [['A'], ['B'], ['1']], [['A'], [], ['B', 'C']]]) hread
      (by decide +kernel)
  have hapart : (e.constants.map fun k => snakeWords k.value).Nodup ∧
      "" ∉ e.constants.map EnumConstant.value := by
    rw [hwords, hvalues]
    decide
  exact ⟨product, e, hproduct, he, hvalues, hnames, hwords,
    (constantNames_of_translate hproduct he).2.2.2.mpr hapart⟩

/-- A choice of two values with the same words and of the empty text. -/
def doubledConstant : String :=
  "components:\n  schemas:\n    A: \x7btype: string, enum: ['', a-b, a_b]\x7d\n"

/-- There are two constants of one name in the enum, and one without a name, and no warning. -/
theorem doubledConstant_sameName : ∃ product e,
    (translate "pets" doubledConstant).result = .ok product ∧ product.stats.warnings = [] ∧
      product.package.enums["A"]? = some e ∧
      e.constants.map EnumConstant.value = ["", "a-b", "a_b"] ∧
      e.constants.map EnumConstant.name = ["", "A_B", "A_B"] ∧ ¬DeclaresNamed e := by
  have hread : Yaml.read doubledConstant = .ok (documentOf [(.string "A", .mapping
      [(.string "type", .string "string"), (.string "enum", .sequence
        [.string "", .string "a-b", .string "a_b"])])]) := by
    decide +kernel
  obtain ⟨product, e, hproduct, hwarnings, he, hvalues, hnames⟩ :=
    exists_of_run (·.enums["A"]?)
      (fun e => e.constants.map EnumConstant.value = ["", "a-b", "a_b"] ∧
        e.constants.map EnumConstant.name = ["", "A_B", "A_B"]) hread (by decide +kernel)
  refine ⟨product, e, hproduct, hwarnings, he, hvalues, hnames, fun hnamed => ?_⟩
  have hconstants := hnamed.constants
  rw [hnames] at hconstants
  exact absurd hconstants (by decide)

end SchemaBeans.Generation

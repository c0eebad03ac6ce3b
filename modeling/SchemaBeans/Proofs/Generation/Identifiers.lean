import SchemaBeans.Proofs.Generation.Names
import SchemaBeans.Proofs.Naming.Identifiers

/-!
# Generation — identifiers

The field of a member goes by the member's name, and its getter and setter by the same name with
its first letter raised.  They are identifiers that match if the name is made of letters and
numbers, begins with a small letter, and is the one in the accessors when that letter is raised
(`WellNamed`).

Whether they are depends on the name in serialized form alone (`wellNamed_of_translate`), and
nothing looks at it: a name that begins with a digit, or has neither letters nor digits, is taken as
it comes, without a warning.
-/

namespace SchemaBeans.Generation

open Java (Member)
open Naming (IsIdentifier IsNameable)
open Schema (documentOf)
open Text (isLetter isWordChar upperFirst)

/-- The member's name is an identifier, and the name in its accessors is the same with its first
letter raised. -/
structure WellNamed (member : Member) : Prop where
  field : IsIdentifier member.name.toList
  accessors : member.pascalName.toList = upperFirst member.name.toList

variable {package text name : String} {product : Product}

/-- **Identifiers.**  A member of a class in a package is well named exactly if its name in
serialized form is nameable; if that is in ASCII, exactly if the first of its letters and digits is
a letter. -/
theorem wellNamed_of_translate {c : Java.Class} {member : Member}
    (h : (translate package text).result = .ok product)
    (hc : product.package.classes[name]? = some c) (hmember : member ∈ c.members) :
    (WellNamed member ↔ IsNameable member.wireName.toList) ∧
      ((∀ d ∈ member.wireName.toList, d.toNat < 128) →
        (WellNamed member ↔
          ∃ d ∈ member.wireName.toList.find? isWordChar, isLetter d = true)) := by
  obtain ⟨document, schemas, x, -, -, -, -, rfl⟩ := exists_extract_of_translate h
  obtain ⟨path, t, -, hclass, -⟩ := Java.exists_class?_of_getElem? hc
  obtain ⟨-, rfl⟩ := Java.class?_eq_some_iff.mp hclass
  have hnameable : WellNamed member ↔ IsNameable member.wireName.toList := by
    obtain ⟨hname, hpascal⟩ := Java.names_of_mem_members hmember
    rw [Naming.isNameable_iff]
    refine ⟨fun hwell => ?_, ?_⟩
    · have hfield := hwell.field
      have haccessors := hwell.accessors
      rw [hname, Naming.camel, String.toList_ofList] at hfield
      rw [hname, hpascal, Naming.camel, Naming.pascal, String.toList_ofList,
        String.toList_ofList] at haccessors
      exact ⟨hfield, haccessors⟩
    · rintro ⟨hfield, haccessors⟩
      refine ⟨?_, ?_⟩
      · rwa [hname, Naming.camel, String.toList_ofList]
      · rwa [hname, hpascal, Naming.camel, Naming.pascal, String.toList_ofList,
          String.toList_ofList]
  exact ⟨hnameable, fun hascii => hnameable.trans (Naming.isNameable_iff_of_ascii hascii)⟩

/-- An object with a name that begins with a capital letter, and two with separators, of which one
begins with a letter outside of ASCII. -/
def nameableMembers : String :=
  "components:\n  schemas:\n    A: \x7btype: object, properties: " ++
  "\x7bAb: \x7btype: string\x7d, c-1: \x7btype: string\x7d, É_b: \x7btype: string\x7d\x7d\x7d\n"

/-- The members are well named. -/
theorem nameableMembers_wellNamed : ∃ product c,
    (translate "pets" nameableMembers).result = .ok product ∧
      product.package.classes["A"]? = some c ∧
      c.members.map Member.wireName = ["Ab", "c-1", "É_b"] ∧
      c.members.map Member.name = ["ab", "c1", "éB"] ∧
      c.members.map Member.pascalName = ["Ab", "C1", "ÉB"] ∧
      ∀ member ∈ c.members, IsNameable member.wireName.toList ∧ WellNamed member := by
  have hread : Yaml.read nameableMembers = .ok (documentOf [(.string "A", .mapping
      [(.string "type", .string "object"), (.string "properties", .mapping
        [(.string "Ab", .mapping [(.string "type", .string "string")]),
          (.string "c-1", .mapping [(.string "type", .string "string")]),
          (.string "É_b", .mapping [(.string "type", .string "string")])])])]) := by
    decide +kernel
  obtain ⟨product, c, hproduct, -, hc, hwire, hnames, haccessors⟩ :=
    exists_of_run (·.classes["A"]?)
      (fun c => c.members.map Member.wireName = ["Ab", "c-1", "É_b"] ∧
        c.members.map Member.name = ["ab", "c1", "éB"] ∧
        c.members.map Member.pascalName = ["Ab", "C1", "ÉB"]) hread (by decide +kernel)
  have hsmall : ∀ d ∈ ['A', 'c', 'É'], Naming.HasSmallForm d := by
    simp only [List.forall_mem_cons]
    exact ⟨⟨'a', by decide +kernel⟩, ⟨'c', by decide +kernel⟩, ⟨'é', by decide +kernel⟩, by simp⟩
  have hdigits : Naming.words ['c', '-', '1'] = [['c'], ['1']] := by decide +kernel
  have hwords : Naming.words ['É', '_', 'b'] = [['É'], ['b']] := by decide +kernel
  have hwhole : IsNameable ['A', 'b'] := .whole (by decide +kernel) rfl (hsmall 'A' (by decide))
    (by decide) (by decide +kernel)
  have hdigit : IsNameable ['c', '-', '1'] := .ofWords (by decide +kernel) hdigits
    (hsmall 'c' (by decide)) (by decide) (by decide +kernel)
  have hword : IsNameable ['É', '_', 'b'] := .ofWords (by decide +kernel) hwords
    (hsmall 'É' (by decide)) (by decide) (by decide +kernel)
  have hall : ∀ wire ∈ c.members.map Member.wireName, IsNameable wire.toList := by
    rw [hwire]
    simp [hwhole, hdigit, hword]
  refine ⟨product, c, hproduct, hc, hwire, hnames, haccessors, fun member hmember => ?_⟩
  have hnameable := hall _ (List.mem_map_of_mem hmember)
  exact ⟨hnameable, (wellNamed_of_translate hproduct hc hmember).1.mpr hnameable⟩

/-- An object with a name that begins with a digit. -/
def numberedMember : String :=
  "components:\n  schemas:\n    A: " ++
  "\x7btype: object, properties: \x7b1st: \x7btype: string\x7d\x7d\x7d\n"

/-- The field begins with a digit, without a warning. -/
theorem numberedMember_notWellNamed : ∃ product c,
    (translate "pets" numberedMember).result = .ok product ∧ product.stats.warnings = [] ∧
      product.package.classes["A"]? = some c ∧
      c.members.map (fun member => (member.name, member.pascalName)) = [("1st", "1st")] ∧
      ∀ member ∈ c.members, ¬WellNamed member := by
  have hread : Yaml.read numberedMember = .ok (documentOf [(.string "A", .mapping
      [(.string "type", .string "object"), (.string "properties", .mapping
        [(.string "1st", .mapping [(.string "type", .string "string")])])])]) := by
    decide +kernel
  obtain ⟨product, c, hproduct, hwarnings, hc, hnames⟩ :=
    exists_of_run (·.classes["A"]?)
      (fun c => c.members.map (fun member => (member.name, member.pascalName)) = [("1st", "1st")])
      hread (by decide +kernel)
  refine ⟨product, c, hproduct, hwarnings, hc, hnames, fun member hmember hwell => ?_⟩
  have hin := List.mem_map_of_mem (f := fun member => (member.name, member.pascalName)) hmember
  rw [hnames, List.mem_singleton, Prod.mk.injEq] at hin
  obtain ⟨first, rest, hcons, hletter, -⟩ := hwell.field.small
  rw [hin.1] at hcons
  cases hcons
  exact absurd hletter (by decide +kernel)

end SchemaBeans.Generation

import SchemaBeans.Proofs.Descriptions
import SchemaBeans.Proofs.Java.Sources

/-!
# Packages — descriptions aside

The description of a type or a property becomes comment lines of a class, an enum, a member or a
constant.  Translation leaves of a model without descriptions what it leaves of the model, without
its comment lines (`translate?_undescribed`).

A comment line has no line feed in it, so it is a line of the source too, and begins with two
slashes there.  The other lines of a source (`codeLines`), blank ones aside, are therefore those of
the source without its comment lines (`Package.Commented.code_undescribed`).
-/

namespace SchemaBeans.Java

open Schema (Model Overflow Property SchemaType)
open Std (ExtTreeMap)

/-- The member without its comment lines. -/
def Member.undescribed (member : Member) : Member := { member with description := [] }

/-- The class without its comment lines and those of its members and constants. -/
def Class.undescribed (c : Class) : Class :=
  { c with
    description := []
    members := c.members.map Member.undescribed
    constants := c.constants.map Member.undescribed }

/-- The enum without its comment lines. -/
def Enum.undescribed (e : Enum) : Enum := { e with description := [] }

/-- The package without comment lines. -/
def Package.undescribed (p : Package) : Package :=
  { p with
    classes := p.classes.map fun _ c => c.undescribed
    enums := p.enums.map fun _ e => e.undescribed }

/-- The translation with its package without comment lines. -/
def Translation.undescribed (x : Translation) : Translation :=
  { x with package := x.package.undescribed }

/-! ### Types -/

section Types

variable {m : Model} {t : SchemaType} {p : Property}

@[simp] theorem any_isEnum_own?_undescribed :
    (m.undescribed.own? t.undescribed).any Property.isEnum = (m.own? t).any Property.isEnum := by
  rw [Model.own?_undescribed, Option.any_map]
  rfl

/-- The name of a type is made of its own name and its kind. -/
@[simp] theorem typeName_undescribed :
    typeName m.undescribed t.undescribed = typeName m t := by
  rw [typeName, typeName, any_isEnum_own?_undescribed]
  rfl

/-- The type of a member is made of the property's type and its dimensions. -/
@[simp] theorem memberType_undescribed :
    memberType m.undescribed p.undescribed = memberType m p := by
  have helement : elementType m.undescribed p.undescribed = elementType m p := by
    have hresolved : p.undescribed.resolvedType = p.resolvedType := rfl
    rw [elementType, elementType, hresolved]
    cases p.resolvedType with
    | none => rfl
    | some path =>
      simp only [Model.type?_undescribed]
      cases m.type? path with
      | none => rfl
      | some t => exact typeName_undescribed
  rw [memberType, memberType, helement]
  rfl

@[simp] theorem commentLines_undescribed : commentLines p.undescribed.description = [] := rfl

theorem undescribed_constantMember :
    (constantMember m p).undescribed = constantMember m.undescribed p.undescribed := by
  rw [constantMember, constantMember, memberType_undescribed, commentLines_undescribed]
  rfl

@[simp] theorem fieldName_undescribed : fieldName p.undescribed = fieldName p := rfl

/-- The member of a property loses its comment lines with the description. -/
theorem undescribed_dataMember :
    (dataMember m p).undescribed = dataMember m.undescribed p.undescribed := by
  have hname : p.undescribed.name = p.name := rfl
  have hset : p.undescribed.isSetInConstructor = p.isSetInConstructor := rfl
  simp only [dataMember, Member.undescribed, memberType_undescribed, commentLines_undescribed,
    fieldName_undescribed, hname, hset]

/-- The same properties become constants, in the same order. -/
theorem constantProperties_undescribed :
    constantProperties m.undescribed t.undescribed =
      (constantProperties m t).map Property.undescribed := by
  rw [constantProperties, constantProperties, Model.members_undescribed, List.filter_map]
  rfl

/-- The same properties become members, in the same order. -/
theorem dataProperties_undescribed :
    dataProperties m.undescribed t.undescribed =
      (dataProperties m t).map Property.undescribed := by
  rw [dataProperties, dataProperties, Model.members_undescribed, List.filter_map]
  rfl

/-- A class is put together by names, so its members may lose their comment lines before. -/
theorem undescribed_ofMembers (name description : String) (members constants : List Member) :
    (Class.ofMembers name description members constants).undescribed =
      Class.ofMembers name "" (members.map Member.undescribed)
        (constants.map Member.undescribed) := by
  have hname : ∀ member : Member, member.undescribed.name = member.name := fun _ => rfl
  simp only [Class.ofMembers, Class.undescribed, Order.map_sortBy hname]
  rfl

/-- **Classes.**  The class of a type without descriptions is the class, without comment lines. -/
theorem undescribed_translateClass :
    (translateClass m t).undescribed = translateClass m.undescribed t.undescribed := by
  rw [translateClass, translateClass, undescribed_ofMembers, typeName_undescribed,
    dataProperties_undescribed, constantProperties_undescribed]
  simp only [List.map_map, Function.comp_def, undescribed_dataMember, undescribed_constantMember]
  rfl

/-- **Enums.**  The enum of a type without descriptions is the enum, without comment lines. -/
theorem undescribed_translateEnum :
    (translateEnum m t).undescribed = translateEnum m.undescribed t.undescribed := by
  rw [translateEnum, translateEnum, typeName_undescribed, Model.own?_undescribed]
  cases m.own? t <;> rfl

/-- The same members are renamed, and it is noted in the same words. -/
theorem renamingEvents_undescribed :
    renamingEvents m.undescribed t.undescribed = renamingEvents m t := by
  have hname : ∀ p : Property, p.undescribed.name = p.name := fun _ => rfl
  simp only [renamingEvents, dataProperties_undescribed, List.filter_map, List.map_map,
    Function.comp_def, fieldName_undescribed, hname]

end Types

/-! ### Packages -/

/-- An entry may be changed before or after it is inserted. -/
theorem map_insert {β γ : Type} (table : ExtTreeMap String β) (f : β → γ) (name : String) (b : β) :
    (table.insert name b).map (fun _ b => f b) = (table.map fun _ b => f b).insert name (f b) := by
  refine ExtTreeMap.ext_getElem? fun {k} => ?_
  simp only [ExtTreeMap.getElem?_map, ExtTreeMap.getElem?_insert]
  split <;> rfl

namespace Package

variable {p : Package}

theorem undescribed_addClass (c : Class) :
    (p.addClass c).undescribed = p.undescribed.addClass c.undescribed := by
  rw [undescribed, addClass, map_insert p.classes Class.undescribed]
  rfl

theorem undescribed_addEnum (e : Enum) :
    (p.addEnum e).undescribed = p.undescribed.addEnum e.undescribed := by
  rw [undescribed, addEnum, map_insert p.enums Enum.undescribed]
  rfl

@[simp] theorem contains_undescribed (name : String) :
    p.undescribed.contains name = p.contains name := by
  simp [contains, undescribed]

end Package

namespace Translation

variable {m : Model}

/-- One type is put in the package alike, under a name that is taken or not. -/
theorem undescribed_add (x : Translation) (entry : String × SchemaType) :
    (x.add m entry).undescribed =
      x.undescribed.add m.undescribed (entry.1, entry.2.undescribed) := by
  have hcontains : x.undescribed.package.contains (typeName m entry.2) =
      x.package.contains (typeName m entry.2) := Package.contains_undescribed _
  simp only [add, typeName_undescribed, any_isEnum_own?_undescribed, hcontains,
    renamingEvents_undescribed, ← undescribed_translateClass, ← undescribed_translateEnum]
  split
  · simp only [undescribed, Package.undescribed_addEnum]
    rfl
  · simp only [undescribed, Package.undescribed_addClass, Class.undescribed, List.length_map]

end Translation

section Model

variable {m : Model} {package : String}

/-- **Packages.**  The package of a model without descriptions is the package, without comment
lines; warnings and events are the same. -/
theorem undescribed_translate :
    (translate m package).undescribed = translate m.undescribed package := by
  have hfold : ∀ (entries : List (String × SchemaType)) (x : Translation),
      (entries.foldl (Translation.add m) x).undescribed =
        (entries.map fun entry => (entry.1, entry.2.undescribed)).foldl
          (Translation.add m.undescribed) x.undescribed := by
    intro entries
    induction entries with
    | nil => exact fun _ => rfl
    | cons entry entries ih =>
      intro x
      rw [List.foldl_cons, ih, Translation.undescribed_add, List.map_cons, List.foldl_cons]
  have hempty : Package.undescribed { name := package } = { name := package } := rfl
  rw [translate, translate, hfold, Model.toList_types_undescribed, Translation.undescribed, hempty]

/-- No upper bound depends on a description. -/
theorem membersFit_undescribed_iff : MembersFit m.undescribed ↔ MembersFit m := by
  have hmax : ∀ p : Property, p.undescribed.cardinality.max = p.cardinality.max := fun _ => rfl
  simp only [MembersFit, Model.toList_types_undescribed, List.forall_mem_map,
    any_isEnum_own?_undescribed, Model.members_undescribed, hmax]

/-- **Descriptions in a translation.**  The package of a model without descriptions is that of the
model, without comment lines. -/
theorem translate?_undescribed (m : Model) (package : String) :
    translate? m.undescribed package = (translate? m package).map Translation.undescribed := by
  rw [translate?, translate?, ← undescribed_translate]
  simp only [membersFit_undescribed_iff]
  split <;> rfl

end Model

/-! ### Comments -/

/-- The line is neither blank nor a comment: there is something in it that is not blank, and that
does not begin with two slashes. -/
def isCodeLine (blank : Char → Bool) (line : List Char) : Bool :=
  !(line.dropWhile blank).isEmpty && !(['/', '/'].isPrefixOf (line.dropWhile blank))

/-- The lines of a text, as they stand between its line feeds, without blank lines and comments. -/
def codeLines (blank : Char → Bool) (text : String) : List (List Char) :=
  (Text.splitOn '\n' text.toList).filter (isCodeLine blank)

/-- The lines of a description have no line feeds in them. -/
def IsComment (description : List String) : Prop := ∀ line ∈ description, '\n' ∉ line.toList

instance (description : List String) : Decidable (IsComment description) :=
  inferInstanceAs (Decidable (∀ line ∈ description, '\n' ∉ line.toList))

/-- A description is cut at its line feeds, so the lines that come of it have none. -/
theorem isComment_commentLines (description : String) : IsComment (commentLines description) := by
  have hpieces : commentPieces description.toList ⊆ Text.splitOn '\n' description.toList := by
    rw [commentPieces]
    split
    · exact List.nil_subset _
    · next h => rw [h]; exact List.Subset.refl _
    · exact List.take_subset _ _
  intro line hline hfeed
  obtain ⟨piece, hpiece, rfl⟩ := List.mem_map.mp hline
  rw [String.toList_ofList] at hfeed
  have hsplit := Text.eq_false_of_mem_split (hpieces hpiece) hfeed
  exact Bool.noConfusion hsplit

section Code

variable {blank : Char → Bool}

/-- The code of lines is that of one line after the other, even if there are line feeds in them. -/
theorem codeLines_unlines (lines : List String) :
    codeLines blank (unlines lines) = lines.flatMap (codeLines blank) := by
  induction lines with
  | nil => rfl
  | cons line lines ih =>
    have hsplit : (unlines (line :: lines)).toList =
        line.toList ++ '\n' :: (unlines lines).toList := by
      simp [unlines, String.toList_join]
    rw [List.flatMap_cons, ← ih, codeLines, hsplit, Text.splitOn_append, List.filter_append]
    rfl

/-- There is no code in a comment. -/
theorem codeLines_comment (hslash : blank '/' = false) {indent : String}
    (hindent : ∀ c ∈ indent.toList, blank c = true) (hfeed : '\n' ∉ indent.toList) {line : String}
    (h : '\n' ∉ line.toList) : codeLines blank (indent ++ "// " ++ line) = [] := by
  have htext : (indent ++ "// " ++ line).toList =
      indent.toList ++ '/' :: '/' :: ' ' :: line.toList := by simp
  have honly : '\n' ∉ indent.toList ++ '/' :: '/' :: ' ' :: line.toList := by
    simp [hfeed, h]
  rw [codeLines, htext, Text.splitOn_of_not_mem honly, List.filter_singleton, isCodeLine,
    List.dropWhile_append_of_pos hindent, List.dropWhile_cons_of_neg (by simp [hslash])]
  rfl

end Code

/-! ### Sources -/

section Sources

variable {β : Type} {read : String → List β} {blank : Char → Bool}

/-- Nothing is read in comments if nothing is read in any of them. -/
theorem flatMap_comments {indent : String} {description : List String}
    (h : ∀ line ∈ description, read (indent ++ "// " ++ line) = []) :
    (comments indent description).flatMap read = [] := by
  rw [List.flatMap_eq_nil_iff, comments, List.forall_mem_map]
  exact h

theorem Member.flatMap_constantLines {member : Member}
    (h : ∀ line ∈ member.description, read ("    " ++ "// " ++ line) = []) :
    member.constantLines.flatMap read = member.undescribed.constantLines.flatMap read := by
  rw [constantLines, List.flatMap_append, flatMap_comments h]
  rfl

theorem Member.flatMap_fieldLines {member : Member}
    (h : ∀ line ∈ member.description, read ("    " ++ "// " ++ line) = []) :
    member.fieldLines.flatMap read = member.undescribed.fieldLines.flatMap read := by
  rw [fieldLines, List.append_assoc, List.flatMap_append, flatMap_comments h]
  rfl

namespace Class

/-- A reader of lines reads nothing in the comments of the class. -/
structure IsSilent (read : String → List β) (c : Class) : Prop where
  own : ∀ line ∈ c.description, read ("" ++ "// " ++ line) = []
  members : ∀ member ∈ c.members, ∀ line ∈ member.description,
    read ("    " ++ "// " ++ line) = []
  constants : ∀ member ∈ c.constants, ∀ line ∈ member.description,
    read ("    " ++ "// " ++ line) = []

/-- The descriptions in a class are lines. -/
structure Commented (c : Class) : Prop where
  own : IsComment c.description
  members : ∀ member ∈ c.members, IsComment member.description
  constants : ∀ member ∈ c.constants, IsComment member.description

/-- The classes of a translation have lines for their descriptions. -/
theorem commented_translateClass (m : Model) (t : SchemaType) :
    (translateClass m t).Commented where
  own := isComment_commentLines _
  members := fun member h => by
    obtain ⟨p, -, rfl⟩ := List.mem_map.mp ((members_translateClass m t).mem_iff.mp h)
    exact isComment_commentLines _
  constants := fun member h => by
    obtain ⟨p, -, rfl⟩ := List.mem_map.mp ((constants_translateClass m t).mem_iff.mp h)
    exact isComment_commentLines _

variable {c : Class}

theorem importLines_undescribed : c.undescribed.importLines = c.importLines := by
  have h : c.undescribed.hasRenamed = c.hasRenamed := by
    rw [hasRenamed, hasRenamed, undescribed, List.any_map]
    rfl
  rw [importLines, importLines, h]

theorem requiredFrom_undescribed (start : Nat) (members : List Member) :
    requiredFrom start (members.map Member.undescribed) = requiredFrom start members := by
  induction members generalizing start with
  | nil => rfl
  | cons member members ih =>
    rw [List.map_cons, requiredFrom, requiredFrom, ih]
    rfl

theorem parameters_undescribed : c.undescribed.parameters = c.parameters := by
  have h : requiredFrom 0 c.undescribed.members = requiredFrom 0 c.members :=
    requiredFrom_undescribed 0 c.members
  rw [parameters, parameters, h]

theorem required_undescribed :
    c.undescribed.required = c.required.map Member.undescribed := by
  rw [required, required, parameters_undescribed, List.map_filterMap]
  exact List.filterMap_congr fun _ _ => List.getElem?_map

/-- A constructor has no comments. -/
theorem constructorLines_undescribed : c.undescribed.constructorLines = c.constructorLines := by
  have hlist : c.undescribed.parameterList = c.parameterList := by
    rw [parameterList, parameterList, parameters_undescribed, required_undescribed,
      List.zip_map_right, List.map_map]
    rfl
  rw [constructorLines, constructorLines, hlist, required_undescribed, List.map_map]
  rfl

/-- Getters and setters have no comments. -/
theorem accessorSection_undescribed : c.undescribed.accessorSection = c.accessorSection := by
  simp only [accessorSection, undescribed, List.isEmpty_map, List.flatMap_map]
  rfl

/-- What reads the same in every member without its comment lines reads the same in them all. -/
theorem flatMap_members {members : List Member} (lines : Member → List String)
    (h : ∀ member ∈ members,
      (lines member).flatMap read = (lines member.undescribed).flatMap read) :
    (members.flatMap lines).flatMap read =
      ((members.map Member.undescribed).flatMap lines).flatMap read := by
  rw [List.flatMap_assoc, List.flatMap_map, List.flatMap_assoc]
  exact List.flatMap_congr h

/-- What reads nothing in the comments of a class reads the same in the class without them. -/
theorem IsSilent.flatMap_sourceLines (h : c.IsSilent read) (package : String) :
    (c.sourceLines package).flatMap read = (c.undescribed.sourceLines package).flatMap read := by
  have hconstants : c.constantSection.flatMap read =
      c.undescribed.constantSection.flatMap read := by
    simp only [constantSection, undescribed, List.isEmpty_map]
    split
    · rfl
    · rw [List.flatMap_cons, List.flatMap_cons, List.flatMap_append, List.flatMap_append,
        flatMap_members Member.constantLines fun member hmember =>
          Member.flatMap_constantLines (h.constants member hmember)]
  have hfields : c.fieldSection.flatMap read = c.undescribed.fieldSection.flatMap read := by
    simp only [fieldSection, undescribed, List.isEmpty_map]
    split
    · rfl
    · simp only [List.flatMap_append]
      rw [flatMap_members Member.fieldLines fun member hmember =>
        Member.flatMap_fieldLines (h.members member hmember)]
  have hown : (comments "" c.description).flatMap read = [] := flatMap_comments h.own
  simp only [sourceLines, List.flatMap_append, hconstants, hfields, hown,
    importLines_undescribed, constructorLines_undescribed, accessorSection_undescribed]
  rfl

/-- The code of a class is that of the class without its comment lines. -/
theorem Commented.codeLines_source (h : c.Commented) (hspace : blank ' ' = true)
    (hslash : blank '/' = false) (package : String) :
    codeLines blank (c.source package) = codeLines blank (c.undescribed.source package) := by
  have hindent : ∀ c ∈ "    ".toList, blank c = true := by simp [hspace]
  have hsilent : c.IsSilent (codeLines blank) :=
    { own := fun line hline => codeLines_comment hslash (by simp) (by decide) (h.own line hline)
      members := fun member hmember line hline =>
        codeLines_comment hslash hindent (by decide) (h.members member hmember line hline)
      constants := fun member hmember line hline =>
        codeLines_comment hslash hindent (by decide) (h.constants member hmember line hline) }
  rw [source, source, codeLines_unlines, codeLines_unlines, hsilent.flatMap_sourceLines]

end Class

/-- What reads nothing in the comments of an enum reads the same in the enum without them. -/
theorem Enum.flatMap_sourceLines {e : Enum}
    (h : ∀ line ∈ e.description, read ("" ++ "// " ++ line) = []) (package : String) :
    (e.sourceLines package).flatMap read = (e.undescribed.sourceLines package).flatMap read := by
  have hown : (comments "" e.description).flatMap read = [] := flatMap_comments h
  simp only [sourceLines, List.flatMap_append, hown]
  rfl

/-- The code of an enum is that of the enum without its comment lines. -/
theorem Enum.codeLines_source {e : Enum} (h : IsComment e.description)
    (hslash : blank '/' = false) (package : String) :
    codeLines blank (e.source package) = codeLines blank (e.undescribed.source package) := by
  have hsilent : ∀ line ∈ e.description, codeLines blank ("" ++ "// " ++ line) = [] :=
    fun line hline => codeLines_comment hslash (by simp) (by decide) (h line hline)
  rw [source, source, codeLines_unlines, codeLines_unlines, flatMap_sourceLines hsilent]

end Sources

namespace Package

/-- The sources of a package without blank lines and comments, each with the name of its type. -/
def code (blank : Char → Bool) (p : Package) : List (String × List (List Char)) :=
  p.sources.map fun entry => (entry.1, codeLines blank entry.2)

/-- The descriptions in a package are lines. -/
structure Commented (p : Package) : Prop where
  classes : ∀ entry ∈ p.classes.toList, entry.2.Commented
  enums : ∀ entry ∈ p.enums.toList, IsComment entry.2.description

variable {p : Package} {blank : Char → Bool}

/-- What reads the same in every source without comment lines reads the same in the sources of the
package without comment lines. -/
theorem map_sources_undescribed {γ : Type} {read : String → γ}
    (hclasses : ∀ entry ∈ p.classes.toList,
      read (entry.2.source p.name) = read (entry.2.undescribed.source p.name))
    (henums : ∀ entry ∈ p.enums.toList,
      read (entry.2.source p.name) = read (entry.2.undescribed.source p.name)) :
    p.undescribed.sources.map (fun entry => (entry.1, read entry.2)) =
      p.sources.map fun entry => (entry.1, read entry.2) := by
  have hclasses' : (p.classes.toList.map fun entry =>
      (entry.2.name, read (entry.2.undescribed.source p.name))) =
      p.classes.toList.map fun entry => (entry.2.name, read (entry.2.source p.name)) :=
    List.map_congr_left fun entry hentry => by rw [hclasses entry hentry]
  have henums' : (p.enums.toList.map fun entry =>
      (entry.2.name, read (entry.2.undescribed.source p.name))) =
      p.enums.toList.map fun entry => (entry.2.name, read (entry.2.source p.name)) :=
    List.map_congr_left fun entry hentry => by rw [henums entry hentry]
  simp only [sources, List.map_append, List.map_map, Function.comp_def, ← hclasses', ← henums']
  simp only [undescribed, ExtTreeMap.toList_map, List.map_map]
  rfl

/-- **Code.**  Where blanks are blank and slashes are not, the code of a package is that of the
package without comment lines. -/
theorem Commented.code_undescribed (h : p.Commented) (hspace : blank ' ' = true)
    (hslash : blank '/' = false) : p.undescribed.code blank = p.code blank :=
  map_sources_undescribed
    (fun entry hentry => (h.classes entry hentry).codeLines_source hspace hslash p.name)
    fun entry hentry => Enum.codeLines_source (h.enums entry hentry) hslash p.name

/-- A translation gives packages whose descriptions are lines. -/
theorem commented_translate (m : Model) (package : String) :
    (translate m package).package.Commented where
  classes := fun entry hentry => by
    obtain ⟨_, t, -, ht⟩ := getElem?_classes_eq_some_iff.mp
      (ExtTreeMap.mem_toList_iff_getElem?_eq_some.mp hentry)
    rw [← ht]
    exact Class.commented_translateClass m t
  enums := fun entry hentry => by
    obtain ⟨_, t, -, ht⟩ := getElem?_enums_eq_some_iff.mp
      (ExtTreeMap.mem_toList_iff_getElem?_eq_some.mp hentry)
    rw [← ht]
    exact isComment_commentLines _

/-- **Descriptions in sources.**  If packages are the same without comment lines, so are their
sources without blank lines and comments, whichever characters are blank beside the space, as long
as the slash is not. -/
theorem Commented.code_eq {p' : Package} (h : p.Commented) (h' : p'.Commented)
    (heq : p.undescribed = p'.undescribed) (hspace : blank ' ' = true)
    (hslash : blank '/' = false) : p.code blank = p'.code blank := by
  rw [← h.code_undescribed hspace hslash, heq, h'.code_undescribed hspace hslash]

end Package

end SchemaBeans.Java

import SchemaBeans.Proofs.Java.Descriptions
import SchemaBeans.Proofs.Java.Literals
import SchemaBeans.Proofs.Java.Rendering

/-!
# Sources — the lines of a class

The source of a class, which is what its template renders, has these lines, blank ones aside
(`Class.outline`): the package, the import if a member is renamed, the description, and then, in
braces, the constants and the members with their descriptions, the constructor, the getters and the
setters (`lines_of_class`).  Whether there are lines for constants, members and parameters, and
which parameter has no comma before it, is said by flags of the view; in the outline it is said by
the lists themselves.

Each section of a source shows its part of the outline (`Shows`): its lines are lines, since no text
in it has a line feed, and the part is what is left of them without the blank ones.  Sections one
after the other show their parts one after the other.
-/

namespace SchemaBeans.Java

/-! ### Lines of a text -/

/-- There is no line feed in the text. -/
abbrev Unbroken (text : String) : Prop := '\n' ∉ text.toList

/-- There is something in the line that is not blank. -/
def isShown (line : String) : Bool := line.toList.any (!·.isWhitespace)

/-- The lines of a text, as they stand between its line feeds, without blank lines. -/
def shownLines (text : String) : List String :=
  ((Text.splitOn '\n' text.toList).map String.ofList).filter isShown

/-- The first list has lines only, and the second is what is shown of it. -/
structure Shows (lines shown : List String) : Prop where
  unbroken : ∀ line ∈ lines, Unbroken line
  filter : lines.filter isShown = shown

namespace Shows

variable {α : Type} {line : String} {lines lines' shown shown' : List String}

theorem nil : Shows [] [] := ⟨by simp, rfl⟩

theorem blank : Shows [""] [] := ⟨by simp [Unbroken], rfl⟩

/-- Lines that are not blank are shown. -/
theorem all (hlines : ∀ line ∈ lines, Unbroken line)
    (hshown : ∀ line ∈ lines, isShown line = true) : Shows lines lines :=
  ⟨hlines, List.filter_eq_self.mpr hshown⟩

theorem append (h : Shows lines shown) (h' : Shows lines' shown') :
    Shows (lines ++ lines') (shown ++ shown') where
  unbroken line hline := (List.mem_append.mp hline).elim (h.unbroken line) (h'.unbroken line)
  filter := by rw [List.filter_append, h.filter, h'.filter]

theorem flatMap {f g : α → List String} {l : List α} (h : ∀ a ∈ l, Shows (f a) (g a)) :
    Shows (l.flatMap f) (l.flatMap g) := by
  induction l with
  | nil => exact nil
  | cons a l ih =>
    rw [List.flatMap_cons, List.flatMap_cons]
    exact (h a List.mem_cons_self).append (ih fun b hb => h b (List.mem_cons_of_mem _ hb))

/-- The lines of a text that is made of lines. -/
theorem splitOn_unlines (h : ∀ line ∈ lines, Unbroken line) :
    Text.splitOn '\n' (unlines lines).toList = lines.map String.toList ++ [[]] := by
  induction lines with
  | nil => rfl
  | cons line lines ih =>
    obtain ⟨hline, hlines⟩ := List.forall_mem_cons.mp h
    have htext : (unlines (line :: lines)).toList =
        line.toList ++ '\n' :: (unlines lines).toList := by simp
    rw [htext, Text.splitOn_append, ih hlines, Text.splitOn_of_not_mem hline]
    rfl

/-- What is shown of lines is shown of the text that is made of them. -/
theorem shownLines_unlines (h : Shows lines shown) : shownLines (unlines lines) = shown := by
  have htexts : (lines.map String.toList).map String.ofList = lines := by
    simp [Function.comp_def]
  rw [shownLines, splitOn_unlines h.unbroken, List.map_append, htexts, List.filter_append, h.filter]
  exact List.append_nil shown

end Shows

/-! ### Comments, annotations and parameters -/

/-- In a literal a line feed is written as an escape. -/
theorem unbroken_escape (text : String) : Unbroken (escape text) := by
  simpa [Unbroken, escape] using (isSpelling_escapeChars text.toList).feed

theorem shows_annotationLine (serializedName : String) :
    Shows [annotationLine serializedName]
      ["    @SerializedName(\"" ++ escape serializedName ++ "\")"] := by
  refine Shows.all ?_ ?_
  · simp [annotationLine_eq, Unbroken, unbroken_escape serializedName]
  · simp [annotationLine_eq, isShown]

/-- Comment lines are shown as they are: two slashes are not blank. -/
theorem shows_comments {indent : String} (hindent : Unbroken indent) {description : List String}
    (h : IsComment description) :
    Shows (comments indent description) (description.map (indent ++ "// " ++ ·)) := by
  refine Shows.all (List.forall_mem_map.mpr fun line hline => ?_)
    (List.forall_mem_map.mpr fun line _ => ?_)
  · simp [Unbroken, hindent, h line hline]
  · simp [isShown]

theorem shows_packageLine {package : String} (h : Unbroken package) :
    Shows [packageLine package] ["package " ++ package ++ ";"] := by
  refine Shows.all ?_ ?_
  · simp [packageLine_eq, Unbroken, h]
  · simp [packageLine_eq, isShown]

/-- A line that opens a body. -/
theorem shows_opening {text space opening : String} (h : space ++ openBrace = opening)
    (htext : Unbroken text) (hspace : Unbroken space) :
    Shows [text ++ space ++ openBrace] [text ++ opening] := by
  rw [String.append_assoc, h]
  refine Shows.all ?_ ?_
  · simp [← h, Unbroken, htext, hspace, openBrace]
  · simpa [← h, isShown, openBrace] using ⟨'\x7b', by simp, by decide⟩

/-- A text with others behind it, each after a separator. -/
theorem intercalate_cons (separator text : String) (texts : List String) :
    separator.intercalate (text :: texts) = text ++ String.join (texts.map (separator ++ ·)) := by
  induction texts generalizing text with
  | nil => simp
  | cons next texts ih =>
    rw [String.intercalate_cons_cons, ih, List.map_cons, String.join_cons]
    simp [String.append_assoc]

theorem unbroken_intercalate {separator : String} (hseparator : Unbroken separator)
    {texts : List String} (h : ∀ text ∈ texts, Unbroken text) :
    Unbroken (separator.intercalate texts) := by
  cases texts with
  | nil => simp [Unbroken]
  | cons text texts =>
    obtain ⟨htext, htexts⟩ := List.forall_mem_cons.mp h
    simpa [Unbroken, intercalate_cons, String.toList_join, htext, hseparator] using htexts

namespace Class

/-- The first parameter comes first, and no other. -/
theorem isFirst_of_parameters {c : Class} {p : Parameter} {ps : List Parameter}
    (h : c.parameters = p :: ps) : p.isFirst = true ∧ ∀ q ∈ ps, q.isFirst = false := by
  rw [parameters] at h
  cases hpositions : requiredFrom 0 c.members with
  | nil => simp [hpositions] at h
  | cons i is =>
    rw [hpositions] at h
    obtain ⟨rfl, rfl⟩ := List.cons.inj h
    simp

/-- The parameters of the constructor stand with commas between them. -/
theorem parameterList_eq (c : Class) :
    c.parameterList = ", ".intercalate (c.required.map Member.parameterText) := by
  have hlist : c.parameterList = String.join ((c.parameters.zip c.required).map fun pm =>
      (if pm.1.isFirst then "" else ", ") ++ pm.2.parameterText) := rfl
  rw [hlist]
  cases hparameters : c.parameters with
  | nil =>
    have hrequired : c.required = [] := by rw [required, hparameters]; rfl
    simp [hrequired]
  | cons p ps =>
    have hzip := c.map_snd_zip_required
    cases hrequired : c.required with
    | nil => simp
    | cons m ms =>
      rw [hparameters, hrequired, List.zip_cons_cons, List.map_cons] at hzip
      obtain ⟨hfirst, hothers⟩ := isFirst_of_parameters hparameters
      have htexts : (ps.zip ms).map (fun pm =>
            (if pm.1.isFirst then "" else ", ") ++ pm.2.parameterText) =
          (ms.map Member.parameterText).map (", " ++ ·) := by
        conv => rhs; rw [← (List.cons.inj hzip).2, List.map_map, List.map_map]
        refine List.map_congr_left fun pm hmem => ?_
        simp [hothers pm.1 (List.of_mem_zip hmem).1]
      rw [List.zip_cons_cons, List.map_cons, String.join_cons, htexts, List.map_cons,
        intercalate_cons]
      simp [hfirst]

end Class

/-! ### Members -/

namespace Member

variable {m : Member}

/-- No text of the member that is written as it is has a line feed in it. -/
structure IsUnbroken (m : Member) : Prop where
  name : Unbroken m.name
  pascalName : Unbroken m.pascalName
  type : Unbroken m.type
  value : Unbroken m.value
  description : IsComment m.description

instance (m : Member) : Decidable m.IsUnbroken :=
  decidable_of_iff
    (Unbroken m.name ∧ Unbroken m.pascalName ∧ Unbroken m.type ∧ Unbroken m.value ∧
      IsComment m.description)
    ⟨fun ⟨hname, hpascalName, htype, hvalue, hdescription⟩ =>
      ⟨hname, hpascalName, htype, hvalue, hdescription⟩,
      fun h => ⟨h.name, h.pascalName, h.type, h.value, h.description⟩⟩

/-- The lines that declare a constant. -/
def constantOutline (m : Member) : List String :=
  m.description.map ("    // " ++ ·) ++
    ["    public final " ++ m.type ++ " " ++ m.name ++ " = " ++ m.value ++ ";"]

/-- The lines that declare a member. -/
def fieldOutline (m : Member) : List String :=
  m.description.map ("    // " ++ ·) ++
    (if m.serializedName = "" then []
      else ["    @SerializedName(\"" ++ escape m.serializedName ++ "\")"]) ++
    ["    private " ++ m.type ++ " " ++ m.name ++ ";"]

/-- The lines of a getter. -/
def getterOutline (m : Member) : List String :=
  ["    public " ++ m.type ++ " get" ++ m.pascalName ++ "() \x7b",
    "        return this." ++ m.name ++ ";",
    "    \x7d"]

/-- The lines of a setter. -/
def setterOutline (m : Member) : List String :=
  ["    public void set" ++ m.pascalName ++ "(" ++ m.type ++ " " ++ m.name ++ ") \x7b",
    "        this." ++ m.name ++ " = " ++ m.name ++ ";",
    "    \x7d"]

/-- A constant shows its comments and its line. -/
theorem shows_constantLines (h : m.IsUnbroken) : Shows m.constantLines m.constantOutline := by
  refine (shows_comments (by decide) h.description).append (Shows.all ?_ ?_)
  · simp [Unbroken, h.type, h.name, h.value]
  · simp [isShown]

/-- A member shows its comments, its annotation if it is renamed, and its line. -/
theorem shows_fieldLines (h : m.IsUnbroken) : Shows m.fieldLines m.fieldOutline := by
  refine ((shows_comments (by decide) h.description).append ?_).append (Shows.all ?_ ?_)
  · by_cases hname : m.serializedName = ""
    · simpa [isRenamed, hname] using Shows.nil
    · simpa [isRenamed, hname] using Shows.blank.append (shows_annotationLine m.serializedName)
  · simp [Unbroken, h.type, h.name]
  · simp [isShown]

theorem shows_getterLines (h : m.IsUnbroken) : Shows m.getterLines m.getterOutline := by
  have hlines : m.getterLines = m.getterOutline := by
    simp [getterLines, getterOutline, openBrace, closeBrace, String.append_assoc]
  rw [hlines]
  refine Shows.all ?_ ?_
  · simp [getterOutline, Unbroken, h.type, h.name, h.pascalName]
  · simp [getterOutline, isShown]

theorem shows_setterLines (h : m.IsUnbroken) : Shows m.setterLines m.setterOutline := by
  have hlines : m.setterLines = m.setterOutline := by
    simp [setterLines, setterOutline, parameterText, assignmentLine_eq, openBrace, closeBrace,
      String.append_assoc]
  rw [hlines]
  refine Shows.all ?_ ?_
  · simp [setterOutline, Unbroken, h.type, h.name, h.pascalName]
  · simp [setterOutline, isShown]

end Member

/-! ### Classes -/

namespace Class

/-- No text of the class that is written as it is has a line feed in it. -/
structure IsUnbroken (c : Class) : Prop where
  name : Unbroken c.name
  description : IsComment c.description
  members : ∀ m ∈ c.members, m.IsUnbroken
  constants : ∀ m ∈ c.constants, m.IsUnbroken

/-- The lines in the source of a class that are not blank. -/
def outline (package : String) (c : Class) : List String :=
  let required := c.members.filter Member.isRequired
  ["package " ++ package ++ ";"] ++
    (if c.members.any (·.serializedName ≠ "") then
      ["import com.google.gson.annotations.SerializedName;"] else []) ++
    c.description.map ("// " ++ ·) ++
    ["public class " ++ c.name ++ " \x7b"] ++
    (if c.constants = [] then []
      else "    // Constants //" :: c.constants.flatMap Member.constantOutline) ++
    (if c.members = [] then []
      else "    // Class Variables //" :: c.members.flatMap Member.fieldOutline) ++
    ["    public " ++ c.name ++ "(" ++
      ", ".intercalate (required.map fun m => m.type ++ " " ++ m.name) ++ ") \x7b"] ++
    required.map (fun m => "        this." ++ m.name ++ " = " ++ m.name ++ ";") ++
    ["    \x7d"] ++
    (if c.members = [] then []
      else "    // Getters //" :: c.members.flatMap Member.getterOutline ++
        "    // Setters //" :: c.members.flatMap Member.setterOutline) ++
    ["\x7d"]

section Sections

variable {c : Class} {package : String} (h : c.IsUnbroken)

/-- The import is shown if some member has another name than its property. -/
theorem shows_importLines (c : Class) :
    Shows c.importLines
      (if c.members.any (·.serializedName ≠ "") then
        ["import com.google.gson.annotations.SerializedName;"] else []) := by
  have hrenamed : c.hasRenamed = c.members.any (·.serializedName ≠ "") := rfl
  rw [importLines, hrenamed]
  split
  · exact Shows.blank.append (Shows.all (by decide) (by decide))
  · exact Shows.nil

include h

/-- The constants are shown below their heading, if there are any. -/
theorem shows_constantSection :
    Shows c.constantSection
      (if c.constants = [] then []
        else "    // Constants //" :: c.constants.flatMap Member.constantOutline) := by
  have hconstants : Shows (c.constants.flatMap Member.constantLines)
      (c.constants.flatMap Member.constantOutline) :=
    Shows.flatMap fun m hm => Member.shows_constantLines (h.constants m hm)
  have hheading : Shows ["    // Constants //"] ["    // Constants //"] :=
    Shows.all (by decide) (by decide)
  simp only [constantSection, List.isEmpty_iff]
  split
  · exact Shows.nil
  · simpa using hheading.append (hconstants.append Shows.blank)

theorem shows_fieldSection :
    Shows c.fieldSection
      (if c.members = [] then []
        else "    // Class Variables //" :: c.members.flatMap Member.fieldOutline) := by
  have hfields : Shows (c.members.flatMap Member.fieldLines)
      (c.members.flatMap Member.fieldOutline) :=
    Shows.flatMap fun m hm => Member.shows_fieldLines (h.members m hm)
  have hheading : Shows ["    // Class Variables //"] ["    // Class Variables //"] :=
    Shows.all (by decide) (by decide)
  simp only [fieldSection, List.isEmpty_iff]
  split
  · exact Shows.nil
  · simpa using Shows.blank.append (hheading.append (hfields.append Shows.blank))

/-- The getters and then the setters are shown, each below its heading, if there are members. -/
theorem shows_accessorSection :
    Shows c.accessorSection
      (if c.members = [] then []
        else "    // Getters //" :: c.members.flatMap Member.getterOutline ++
          "    // Setters //" :: c.members.flatMap Member.setterOutline) := by
  have hgetters : Shows (c.members.flatMap Member.getterLines)
      (c.members.flatMap Member.getterOutline) :=
    Shows.flatMap fun m hm => Member.shows_getterLines (h.members m hm)
  have hsetters : Shows (c.members.flatMap Member.setterLines)
      (c.members.flatMap Member.setterOutline) :=
    Shows.flatMap fun m hm => Member.shows_setterLines (h.members m hm)
  have hget : Shows ["    // Getters //"] ["    // Getters //"] :=
    Shows.all (by decide) (by decide)
  have hset : Shows ["    // Setters //"] ["    // Setters //"] :=
    Shows.all (by decide) (by decide)
  simp only [accessorSection, List.isEmpty_iff]
  split
  · exact Shows.nil
  · simpa using Shows.blank.append (hget.append (hgetters.append
      (Shows.blank.append (hset.append hsetters))))

/-- The constructor has a parameter and an assignment for each required member, in their order. -/
theorem shows_constructorLines :
    Shows c.constructorLines
      (["    public " ++ c.name ++ "(" ++ ", ".intercalate
          ((c.members.filter Member.isRequired).map fun m => m.type ++ " " ++ m.name) ++
          ") \x7b"] ++
        (c.members.filter Member.isRequired).map
          (fun m => "        this." ++ m.name ++ " = " ++ m.name ++ ";") ++
        ["    \x7d"]) := by
  have hrequired : ∀ m ∈ c.members.filter Member.isRequired, m.IsUnbroken :=
    fun m hm => h.members m (List.mem_filter.mp hm).1
  have hparameters : Unbroken (", ".intercalate
      ((c.members.filter Member.isRequired).map Member.parameterText)) := by
    refine unbroken_intercalate (by decide) (List.forall_mem_map.mpr fun m hm => ?_)
    simp [Unbroken, Member.parameterText, (hrequired m hm).type, (hrequired m hm).name]
  have hassignments : Shows ((c.members.filter Member.isRequired).map Member.assignmentLine)
      ((c.members.filter Member.isRequired).map
        fun m => "        this." ++ m.name ++ " = " ++ m.name ++ ";") := by
    refine Shows.all (List.forall_mem_map.mpr fun m hm => ?_)
      (List.forall_mem_map.mpr fun m _ => ?_)
    · simp [Unbroken, Member.assignmentLine_eq, (hrequired m hm).name]
    · simp [isShown, Member.assignmentLine_eq]
  rw [constructorLines, parameterList_eq, required_eq]
  refine ((shows_opening (by decide) ?_ (by decide)).append hassignments).append
    (Shows.all (by decide) (by decide))
  simp [Unbroken, h.name, hparameters, -String.toList_intercalate]

end Sections

/-- **The outline.**  Section by section the lines of a class show its outline. -/
theorem shows_sourceLines {c : Class} {package : String} (hpackage : Unbroken package)
    (h : c.IsUnbroken) : Shows (c.sourceLines package) (c.outline package) := by
  have hheader : Shows ["public class " ++ c.name ++ " " ++ openBrace]
      ["public class " ++ c.name ++ " \x7b"] :=
    shows_opening (by decide) (by simp [Unbroken, h.name]) (by decide)
  have hlast : Shows ["", closeBrace] ["\x7d"] :=
    Shows.blank.append (Shows.all (by decide) (by decide))
  have hcomments := shows_comments (by decide : Unbroken "") h.description
  have htop := ((((shows_packageLine hpackage).append (shows_importLines c)).append
    Shows.blank).append hcomments).append hheader
  have hbody := (((htop.append (shows_constantSection h)).append (shows_fieldSection h)).append
    (shows_constructorLines h)).append (shows_accessorSection h)
  simpa [sourceLines, outline] using hbody.append hlast

/-- **The lines of a class.**  The source of a class of members and constants, whatever the
description, is what the template renders for it, and its lines are those of the outline.  No other
text that is written as it is may have a line feed in it. -/
theorem lines_of_class (package name description : String) (members constants : List Member)
    (hpackage : Unbroken package) (hname : Unbroken name) (hmembers : ∀ m ∈ members, m.IsUnbroken)
    (hconstants : ∀ m ∈ constants, m.IsUnbroken) :
    let c := Class.ofMembers name description members constants
    c.source package = classTemplate.render (c.view package) ∧
      shownLines (c.source package) = c.outline package := by
  intro c
  have hc : c.IsUnbroken :=
    { name := hname
      description := isComment_commentLines description
      members := fun m hm => hmembers m ((Order.sortBy_perm Member.name members).mem_iff.mp hm)
      constants := fun m hm =>
        hconstants m ((Order.sortBy_perm Member.name constants).mem_iff.mp hm) }
  exact ⟨(render_classTemplate package c).symm, (shows_sourceLines hpackage hc).shownLines_unlines⟩

/-- A class with a description of several lines, a constant and three members, one of them renamed
and two of them required. -/
theorem lines_of_pet :
    let kind : Member :=
      { name := "KIND", type := "String", value := "\"pet\"", description := ["A kind"] }
    let owner : Member := { name := "owner", pascalName := "Owner", type := "Person" }
    let age : Member :=
      { name := "age", pascalName := "Age", type := "Integer", isRequired := true }
    let petName : Member :=
      { name := "petName", pascalName := "PetName", type := "String",
        serializedName := "pet \"name\"", description := ["The name", "of the pet"],
        isRequired := true }
    let c := ofMembers "Pet" "A pet.\nIt has a name.\n\n" [petName, owner, age] [kind]
    c.source "generated" = classTemplate.render (c.view "generated") ∧
      shownLines (c.source "generated") =
        ["package generated;",
          "import com.google.gson.annotations.SerializedName;",
          "// A pet.",
          "// It has a name.",
          "public class Pet \x7b",
          "    // Constants //",
          "    // A kind",
          "    public final String KIND = \"pet\";",
          "    // Class Variables //",
          "    private Integer age;",
          "    private Person owner;",
          "    // The name",
          "    // of the pet",
          "    @SerializedName(\"pet \\\"name\\\"\")",
          "    private String petName;",
          "    public Pet(Integer age, String petName) \x7b",
          "        this.age = age;",
          "        this.petName = petName;",
          "    \x7d",
          "    // Getters //",
          "    public Integer getAge() \x7b",
          "        return this.age;",
          "    \x7d",
          "    public Person getOwner() \x7b",
          "        return this.owner;",
          "    \x7d",
          "    public String getPetName() \x7b",
          "        return this.petName;",
          "    \x7d",
          "    // Setters //",
          "    public void setAge(Integer age) \x7b",
          "        this.age = age;",
          "    \x7d",
          "    public void setOwner(Person owner) \x7b",
          "        this.owner = owner;",
          "    \x7d",
          "    public void setPetName(String petName) \x7b",
          "        this.petName = petName;",
          "    \x7d",
          "\x7d"] := by
  intro kind owner age petName c
  have hlines := lines_of_class "generated" "Pet" "A pet.\nIt has a name.\n\n"
    [petName, owner, age] [kind] (by decide) (by decide) (by decide) (by decide)
  have houtline : shownLines (c.source "generated") = c.outline "generated" := hlines.2
  refine ⟨hlines.1, houtline.trans ?_⟩
  decide +kernel

end Class

end SchemaBeans.Java

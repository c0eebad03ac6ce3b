import SchemaBeans.Java.Literal
import SchemaBeans.Java.Package

/-!
# Java — Source

The source text of classes and enums, line by line.  The text of a type is the lines of its
sections, each ended by a line feed; names, types and comments stand in them as they are, and
serialized names and values are escaped.
-/

namespace SchemaBeans.Java

/-- The lines of a text, each ended by a line feed. -/
def unlines (lines : List String) : String := String.join (lines.map (· ++ "\n"))

/-- The opening brace of a body. -/
def openBrace : String := "\x7b"

/-- The closing brace of a body. -/
def closeBrace : String := "\x7d"

/-- The comment lines of a description, indented. -/
def comments (indent : String) (description : List String) : List String :=
  description.map (indent ++ "// " ++ ·)

/-- The line that names the package. -/
def packageLine (package : String) : String := "package " ++ package ++ ";"

/-- The line that imports the annotation of serialized names. -/
def importLine : String := "import com.google.gson.annotations.SerializedName;"

/-- The annotation that gives a serialized name. -/
def annotationLine (serializedName : String) : String :=
  "    @SerializedName(\"" ++ escape serializedName ++ "\")"

namespace Member

/-- The lines that declare a constant. -/
def constantLines (m : Member) : List String :=
  comments "    " m.description ++
    ["    public final " ++ m.type ++ " " ++ m.name ++ " = " ++ m.value ++ ";"]

/-- The lines that declare a member. -/
def fieldLines (m : Member) : List String :=
  comments "    " m.description ++
    (if m.isRenamed then ["", annotationLine m.serializedName] else []) ++
    ["    private " ++ m.type ++ " " ++ m.name ++ ";"]

/-- The member as a parameter. -/
def parameterText (m : Member) : String := m.type ++ " " ++ m.name

/-- The line that assigns a parameter to the member of its name. -/
def assignmentLine (m : Member) : String := "        this." ++ m.name ++ " = " ++ m.name ++ ";"

/-- The lines of the getter. -/
def getterLines (m : Member) : List String :=
  ["    public " ++ m.type ++ " get" ++ m.pascalName ++ "() " ++ openBrace,
    "        return this." ++ m.name ++ ";",
    "    " ++ closeBrace]

/-- The lines of the setter. -/
def setterLines (m : Member) : List String :=
  ["    public void set" ++ m.pascalName ++ "(" ++ m.parameterText ++ ") " ++ openBrace,
    m.assignmentLine,
    "    " ++ closeBrace]

end Member

namespace Class

/-- The import, which only renamed members need. -/
def importLines (c : Class) : List String := if c.hasRenamed then ["", importLine] else []

/-- The section of the constants. -/
def constantSection (c : Class) : List String :=
  if c.constants.isEmpty then []
  else "    // Constants //" :: (c.constants.flatMap Member.constantLines ++ [""])

/-- The section of the members. -/
def fieldSection (c : Class) : List String :=
  if c.members.isEmpty then []
  else ["", "    // Class Variables //"] ++ c.members.flatMap Member.fieldLines ++ [""]

/-- The parameters of the constructor, with a comma before each but the first. -/
def parameterList (c : Class) : String :=
  String.join <|
    (c.parameters.zip c.required).map fun (p, m) =>
      (if p.isFirst then "" else ", ") ++ m.parameterText

/-- The constructor. -/
def constructorLines (c : Class) : List String :=
  ["    public " ++ c.name ++ "(" ++ c.parameterList ++ ") " ++ openBrace] ++
    c.required.map Member.assignmentLine ++
    ["    " ++ closeBrace]

/-- The getters and the setters. -/
def accessorSection (c : Class) : List String :=
  if c.members.isEmpty then []
  else
    ["", "    // Getters //"] ++ c.members.flatMap Member.getterLines ++
      ["", "    // Setters //"] ++ c.members.flatMap Member.setterLines

/-- The lines of a class in a package. -/
def sourceLines (package : String) (c : Class) : List String :=
  [packageLine package] ++ c.importLines ++ [""] ++ comments "" c.description ++
    ["public class " ++ c.name ++ " " ++ openBrace] ++
    c.constantSection ++ c.fieldSection ++ c.constructorLines ++ c.accessorSection ++
    ["", closeBrace]

/-- The source of a class in a package. -/
def source (package : String) (c : Class) : String := unlines (c.sourceLines package)

end Class

namespace Enum

/-- The lines of a constant. -/
def constantLines (constant : EnumConstant) : List String :=
  [annotationLine constant.value,
    "    " ++ constant.name ++ "(\"" ++ escape constant.value ++ "\"),",
    ""]

/-- The lines of an enum in a package. -/
def sourceLines (package : String) (e : Enum) : List String :=
  [packageLine package, "", importLine, ""] ++ comments "" e.description ++
    ["public enum " ++ e.name ++ " " ++ openBrace] ++
    e.constants.flatMap constantLines ++
    ["    ;",
      "",
      "    private final String outputName;",
      "",
      "    private " ++ e.name ++ "(String outputName) " ++ openBrace,
      "        this.outputName = outputName;",
      "    " ++ closeBrace,
      "",
      "    public boolean equalsName(String otherName) " ++ openBrace,
      "        return outputName.equals(otherName);",
      "    " ++ closeBrace,
      "",
      "    public String toString() " ++ openBrace,
      "        return this.outputName;",
      "    " ++ closeBrace,
      closeBrace]

/-- The source of an enum in a package. -/
def source (package : String) (e : Enum) : String := unlines (e.sourceLines package)

end Enum

namespace Package

/-- The sources of the classes and then of the enums, each with the name of its type. -/
def sources (p : Package) : List (String × String) :=
  p.classes.toList.map (fun (_, c) => (c.name, c.source p.name)) ++
    p.enums.toList.map (fun (_, e) => (e.name, e.source p.name))

end Package

end SchemaBeans.Java

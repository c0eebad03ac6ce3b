import SchemaBeans.Java.Source
import SchemaBeans.Text.Template

/-!
# Java — Template

The templates of classes and enums, and the views that fill them.  A line of a template is a line of
its file, but for the lines of tags that leave nothing behind; the tag of a block leaves its line
end behind if it comes right after the end of another block, hence the empty lines at the beginning
of some blocks and before the last brace.

Views of classes, members and parameters have keys in common.  Each of them has a name, a class and
a member have a description, and a member and a parameter have a type; so what a gap is filled with
is a matter of the view on top.
-/

namespace SchemaBeans.Java

open Text (Piece Template View)

/-- The keys of the templates. -/
inductive Key where
  | packageName
  | name
  | description
  | line
  | memberType
  | pascalCaseName
  | constantVal
  | hasSerializedNameMember
  | hasSerializedNameOverride
  | serializedNameOverride
  | hasConstants
  | constantDataMembers
  | hasDataMembers
  | dataMembers
  | requiredMembers
  | isFirst
  | enumValues
  | constFormatName
  | stringFormat
  deriving DecidableEq, Repr

/-! ### Views -/

/-- The view of a comment line. -/
def lineView (line : String) : View Key := [(.line, .text line)]

/-- The view of a member or a constant. -/
def Member.view (m : Member) : View Key :=
  [(.name, .text m.name),
    (.pascalCaseName, .text m.pascalName),
    (.memberType, .text m.type),
    (.description, .list (m.description.map lineView)),
    (.constantVal, .text m.value),
    (.hasSerializedNameOverride, .flag m.isRenamed),
    (.serializedNameOverride, .text (escape m.serializedName))]

/-- The view of a parameter of a constructor. -/
def parameterView (p : Parameter) (m : Member) : View Key :=
  [(.isFirst, .flag p.isFirst),
    (.name, .text m.name),
    (.memberType, .text m.type)]

/-- The view of a class in a package. -/
def Class.view (package : String) (c : Class) : View Key :=
  [(.packageName, .text package),
    (.name, .text c.name),
    (.description, .list (c.description.map lineView)),
    (.hasSerializedNameMember, .flag c.hasRenamed),
    (.hasConstants, .flag (!c.constants.isEmpty)),
    (.hasDataMembers, .flag (!c.members.isEmpty)),
    (.constantDataMembers, .list (c.constants.map Member.view)),
    (.dataMembers, .list (c.members.map Member.view)),
    (.requiredMembers, .list ((c.parameters.zip c.required).map fun (p, m) => parameterView p m))]

/-- The view of a constant of an enum. -/
def EnumConstant.view (constant : EnumConstant) : View Key :=
  [(.constFormatName, .text constant.name),
    (.stringFormat, .text (escape constant.value))]

/-- The view of an enum in a package. -/
def Enum.view (package : String) (e : Enum) : View Key :=
  [(.packageName, .text package),
    (.name, .text e.name),
    (.description, .list (e.description.map lineView)),
    (.enumValues, .list (e.constants.map EnumConstant.view))]

/-! ### Templates -/

/-- A line. -/
def line (pieces : Template Key) : Template Key := pieces ++ [.text "\n"]

/-- The comment lines of a description. -/
def commentBlock (indent : String) : Piece Key :=
  .block .description (line [.text indent, .text "// ", .gap .line])

/-- The declaration of a constant. -/
def constantTemplate : Template Key :=
  [commentBlock "    "] ++
    line [.text "    public final ", .gap .memberType, .text " ", .gap .name, .text " = ",
      .gap .constantVal, .text ";"]

/-- The declaration of a member. -/
def fieldTemplate : Template Key :=
  [commentBlock "    ",
    .block .hasSerializedNameOverride
      (line [] ++
        line [.text "    @SerializedName(\"", .gap .serializedNameOverride, .text "\")"])] ++
    line [.text "    private ", .gap .memberType, .text " ", .gap .name, .text ";"]

/-- A parameter of the constructor. -/
def parameterTemplate : Template Key :=
  [.inverted .isFirst [.text ", "], .gap .memberType, .text " ", .gap .name]

/-- The line that assigns a parameter. -/
def assignmentTemplate : Template Key :=
  line [.text "        this.", .gap .name, .text " = ", .gap .name, .text ";"]

/-- The constructor. -/
def constructorTemplate : Template Key :=
  line [.text "    public ", .gap .name, .text "(", .block .requiredMembers parameterTemplate,
      .text ") ", .text openBrace] ++
    [.block .requiredMembers assignmentTemplate] ++
    line [.text "    ", .text closeBrace]

/-- The getter of a member. -/
def getterTemplate : Template Key :=
  line [.text "    public ", .gap .memberType, .text " get", .gap .pascalCaseName, .text "() ",
      .text openBrace] ++
    line [.text "        return this.", .gap .name, .text ";"] ++
    line [.text "    ", .text closeBrace]

/-- The setter of a member. -/
def setterTemplate : Template Key :=
  line [.text "    public void set", .gap .pascalCaseName, .text "(", .gap .memberType, .text " ",
      .gap .name, .text ") ", .text openBrace] ++
    assignmentTemplate ++
    line [.text "    ", .text closeBrace]

/-- The import, which only renamed members need. -/
def importBlock : Piece Key :=
  .block .hasSerializedNameMember (line [] ++ line [.text importLine])

/-- The constants, if there are any. -/
def constantBlock : Piece Key :=
  .block .hasConstants
    (line [.text "    // Constants //"] ++ [.block .constantDataMembers constantTemplate] ++
      line [])

/-- The members, if there are any. -/
def fieldBlock : Piece Key :=
  .block .hasDataMembers
    (line [] ++ line [.text "    // Class Variables //"] ++ [.block .dataMembers fieldTemplate] ++
      line [])

/-- The getters and the setters, if there are members. -/
def accessorBlock : Piece Key :=
  .block .hasDataMembers
    (line [] ++ line [.text "    // Getters //"] ++ [.block .dataMembers getterTemplate] ++
      line [] ++ line [.text "    // Setters //"] ++ [.block .dataMembers setterTemplate])

/-- The template of a class. -/
def classTemplate : Template Key :=
  line [.text "package ", .gap .packageName, .text ";"] ++ [importBlock] ++ line [] ++
    [commentBlock ""] ++ line [.text "public class ", .gap .name, .text " ", .text openBrace] ++
    [constantBlock, fieldBlock] ++ constructorTemplate ++ [accessorBlock] ++
    line [] ++ line [.text closeBrace]

/-- The constant for a value. -/
def enumConstantTemplate : Template Key :=
  line [.text "    @SerializedName(\"", .gap .stringFormat, .text "\")"] ++
    line [.text "    ", .gap .constFormatName, .text "(\"", .gap .stringFormat, .text "\"),"] ++
    line []

/-- The text that a constant stands for, and the constructor that sets it. -/
def outputTemplate : Template Key :=
  line [.text "    private final String outputName;"] ++ line [] ++
    line [.text "    private ", .gap .name, .text "(String outputName) ", .text openBrace] ++
    line [.text "        this.outputName = outputName;"] ++ line [.text "    ", .text closeBrace]

/-- The comparison of a constant with a text. -/
def comparisonTemplate : Template Key :=
  line [.text "    public boolean equalsName(String otherName) ", .text openBrace] ++
    line [.text "        return outputName.equals(otherName);"] ++
    line [.text "    ", .text closeBrace]

/-- The conversion of a constant to a text. -/
def conversionTemplate : Template Key :=
  line [.text "    public String toString() ", .text openBrace] ++
    line [.text "        return this.outputName;"] ++ line [.text "    ", .text closeBrace]

/-- The template of an enum. -/
def enumTemplate : Template Key :=
  line [.text "package ", .gap .packageName, .text ";"] ++ line [] ++ line [.text importLine] ++
    line [] ++ [commentBlock ""] ++
    line [.text "public enum ", .gap .name, .text " ", .text openBrace] ++
    [.block .enumValues enumConstantTemplate] ++ line [.text "    ;"] ++ line [] ++
    outputTemplate ++ line [] ++ comparisonTemplate ++ line [] ++ conversionTemplate ++
    line [.text closeBrace]

end SchemaBeans.Java

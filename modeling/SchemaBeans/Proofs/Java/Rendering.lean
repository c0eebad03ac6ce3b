import SchemaBeans.Java.Template
import SchemaBeans.Proofs.Java.Classes

/-!
# Sources — what the templates render

The source of a class is its template, filled from its view (`render_classTemplate`), and so is that
of an enum (`render_enumTemplate`).

A template is made of lines and of blocks of lines.  A line renders to a line (`renderPieces_line`),
and a block to the lines for every view that it stands for (`render_block_lines`); so each piece of
a template renders to the lines of its section of the source.  The views around the one on top do
not matter, since a piece asks for nothing that the view it stands for does not have.
-/

namespace SchemaBeans.Java

open Text (Piece Template View lookup renderPieces render_block_of_flag render_block_of_list
  render_gap render_gap_of_text render_inverted_of_flag)

/-! ### Lines -/

@[simp] theorem unlines_nil : unlines [] = "" := String.join_nil

@[simp] theorem unlines_cons (line : String) (lines : List String) :
    unlines (line :: lines) = line ++ "\n" ++ unlines lines :=
  String.join_cons

@[simp] theorem unlines_append (lines lines' : List String) :
    unlines (lines ++ lines') = unlines lines ++ unlines lines' := by
  rw [unlines, List.map_append, String.join_append]
  rfl

theorem unlines_flatMap {α : Type} (lines : α → List String) (l : List α) :
    unlines (l.flatMap lines) = String.join (l.map fun a => unlines (lines a)) := by
  induction l with
  | nil => rfl
  | cons a l ih => rw [List.flatMap_cons, unlines_append, ih, List.map_cons, String.join_cons]

theorem packageLine_eq (package : String) : packageLine package = "package " ++ package ++ ";" :=
  rfl

theorem annotationLine_eq (serializedName : String) :
    annotationLine serializedName = "    @SerializedName(\"" ++ escape serializedName ++ "\")" :=
  rfl

section Pieces

variable {α : Type} {stack : List (View Key)} {key : Key} {pieces : Template Key}

/-- A line of a template renders to a line. -/
@[simp] theorem renderPieces_line :
    renderPieces stack (line pieces) = renderPieces stack pieces ++ "\n" := by
  simp [line]

/-- A block of lines renders to the lines for each of its views. -/
theorem render_block_lines (lines : α → List String) {view : α → View Key} {l : List α}
    (hviews : lookup key stack = some (.list (l.map view)))
    (hlines : ∀ a, renderPieces (view a :: stack) pieces = unlines (lines a)) :
    (Piece.block key pieces).render stack = unlines (l.flatMap lines) := by
  rw [render_block_of_list hviews, List.map_map, unlines_flatMap]
  exact congrArg String.join (List.map_congr_left fun a _ => hlines a)

/-- A block for comment lines renders to them. -/
theorem render_commentBlock {description : List String}
    (h : lookup .description stack = some (.list (description.map lineView))) (indent : String) :
    (commentBlock indent).render stack = unlines (comments indent description) := by
  rw [commentBlock, render_block_lines (fun line => [indent ++ "// " ++ line]) h]
  · rw [← List.map_eq_flatMap]
    rfl
  · intro line
    simp [render_gap, lookup, View.get?, lineView, String.append_assoc]

end Pieces

/-! ### Members -/

namespace Member

variable (m : Member) (stack : List (View Key))

theorem assignmentLine_eq :
    m.assignmentLine = "        this." ++ m.name ++ " = " ++ m.name ++ ";" :=
  rfl

theorem render_constantTemplate :
    renderPieces (m.view :: stack) constantTemplate = unlines m.constantLines := by
  have hcomments : (commentBlock "    ").render (m.view :: stack) =
      unlines (comments "    " m.description) := render_commentBlock rfl _
  rw [constantTemplate, constantLines, Text.renderPieces_append, Text.renderPieces_cons, hcomments]
  simp [render_gap, lookup, View.get?, view, String.append_assoc]

/-- The piece for a member renders to its lines, with the annotation if it is renamed. -/
theorem render_fieldTemplate :
    renderPieces (m.view :: stack) fieldTemplate = unlines m.fieldLines := by
  have hcomments : (commentBlock "    ").render (m.view :: stack) =
      unlines (comments "    " m.description) := render_commentBlock rfl _
  have hrenamed : lookup .hasSerializedNameOverride (m.view :: stack) = some (.flag m.isRenamed) :=
    rfl
  simp only [fieldTemplate, fieldLines, Text.renderPieces_append, Text.renderPieces_cons, hcomments,
    render_block_of_flag hrenamed]
  cases m.isRenamed <;>
    simp [annotationLine_eq, render_gap, lookup, View.get?, view, String.append_assoc]

theorem render_getterTemplate :
    renderPieces (m.view :: stack) getterTemplate = unlines m.getterLines := by
  simp [getterTemplate, getterLines, render_gap, lookup, View.get?, view, String.append_assoc]

theorem render_setterTemplate :
    renderPieces (m.view :: stack) setterTemplate = unlines m.setterLines := by
  simp [setterTemplate, setterLines, assignmentTemplate, assignmentLine_eq, parameterText,
    render_gap, lookup, View.get?, view, String.append_assoc]

variable (p : Parameter)

/-- A parameter has a comma in front of it unless it is the first one. -/
theorem render_parameterTemplate :
    renderPieces (parameterView p m :: stack) parameterTemplate =
      (if p.isFirst then "" else ", ") ++ m.parameterText := by
  have hfirst : lookup .isFirst (parameterView p m :: stack) = some (.flag p.isFirst) := rfl
  rw [parameterTemplate, Text.renderPieces_cons, render_inverted_of_flag hfirst]
  simp [parameterText, render_gap, lookup, View.get?, parameterView, String.append_assoc]

theorem render_assignmentTemplate :
    renderPieces (parameterView p m :: stack) assignmentTemplate = unlines [m.assignmentLine] := by
  simp [assignmentTemplate, assignmentLine_eq, render_gap, lookup, View.get?, parameterView,
    String.append_assoc]

end Member

/-! ### Classes -/

namespace Class

variable (package : String) (c : Class)

/-- The import is there if the flag for it is set, which is when a member is renamed. -/
theorem render_importBlock : importBlock.render [c.view package] = unlines c.importLines := by
  have hrenamed : lookup .hasSerializedNameMember [c.view package] = some (.flag c.hasRenamed) :=
    rfl
  rw [importBlock, render_block_of_flag hrenamed, importLines]
  cases c.hasRenamed <;> simp

theorem render_constantBlock :
    constantBlock.render [c.view package] = unlines c.constantSection := by
  have hflag : lookup .hasConstants [c.view package] = some (.flag (!c.constants.isEmpty)) := rfl
  have hconstants : (Piece.block .constantDataMembers constantTemplate).render [c.view package] =
      unlines (c.constants.flatMap Member.constantLines) :=
    render_block_lines _ rfl fun m => m.render_constantTemplate _
  rw [constantBlock, render_block_of_flag hflag, constantSection]
  cases c.constants.isEmpty <;> simp [hconstants]

section Members

variable (hflag : lookup .hasDataMembers [c.view package] = some (.flag (!c.members.isEmpty)))
include hflag

theorem render_fieldBlock : fieldBlock.render [c.view package] = unlines c.fieldSection := by
  have hfields : (Piece.block .dataMembers fieldTemplate).render [c.view package] =
      unlines (c.members.flatMap Member.fieldLines) :=
    render_block_lines _ rfl fun m => m.render_fieldTemplate _
  rw [fieldBlock, render_block_of_flag hflag, fieldSection]
  cases c.members.isEmpty <;> simp [hfields]

theorem render_accessorBlock :
    accessorBlock.render [c.view package] = unlines c.accessorSection := by
  have hgetters : (Piece.block .dataMembers getterTemplate).render [c.view package] =
      unlines (c.members.flatMap Member.getterLines) :=
    render_block_lines _ rfl fun m => m.render_getterTemplate _
  have hsetters : (Piece.block .dataMembers setterTemplate).render [c.view package] =
      unlines (c.members.flatMap Member.setterLines) :=
    render_block_lines _ rfl fun m => m.render_setterTemplate _
  rw [accessorBlock, render_block_of_flag hflag, accessorSection]
  cases c.members.isEmpty <;> simp [hgetters, hsetters]

end Members

/-- The constructor is rendered from the views of its parameters. -/
theorem render_constructorTemplate :
    renderPieces [c.view package] constructorTemplate = unlines c.constructorLines := by
  have hviews : lookup .requiredMembers [c.view package] =
      some (.list ((c.parameters.zip c.required).map fun pm => parameterView pm.1 pm.2)) := rfl
  have hparameters : (Piece.block .requiredMembers parameterTemplate).render [c.view package] =
      c.parameterList := by
    rw [render_block_of_list hviews, List.map_map, parameterList]
    exact congrArg String.join (List.map_congr_left fun pm _ =>
      pm.2.render_parameterTemplate _ pm.1)
  have hassignments : (Piece.block .requiredMembers assignmentTemplate).render [c.view package] =
      unlines (c.required.map Member.assignmentLine) := by
    have hlines : c.required.map Member.assignmentLine =
        (c.parameters.zip c.required).flatMap fun pm => [pm.2.assignmentLine] := by
      conv => lhs; rw [← map_snd_zip_required, List.map_map]
      exact List.map_eq_flatMap
    rw [hlines]
    exact render_block_lines _ hviews fun pm => pm.2.render_assignmentTemplate _ pm.1
  have hname : (Piece.gap .name).render [c.view package] = c.name := render_gap_of_text rfl
  simp [constructorTemplate, constructorLines, hparameters, hassignments, hname,
    String.append_assoc]

/-- **The source of a class** is the template of classes, filled from the view of the class. -/
theorem render_classTemplate : classTemplate.render (c.view package) = c.source package := by
  have hcomments : (commentBlock "").render [c.view package] =
      unlines (comments "" c.description) := render_commentBlock rfl _
  have hpackage : (Piece.gap .packageName).render [c.view package] = package :=
    render_gap_of_text rfl
  have hname : (Piece.gap .name).render [c.view package] = c.name := render_gap_of_text rfl
  simp [Template.render, classTemplate, source, sourceLines, packageLine_eq, hpackage, hname,
    hcomments, render_importBlock, render_constantBlock, render_fieldBlock package c rfl,
    render_constructorTemplate, render_accessorBlock package c rfl, String.append_assoc]

end Class

/-! ### Enums -/

/-- The piece for a constant of an enum renders to its line. -/
theorem EnumConstant.render_enumConstantTemplate (constant : EnumConstant)
    (stack : List (View Key)) :
    renderPieces (constant.view :: stack) enumConstantTemplate =
      unlines (Enum.constantLines constant) := by
  simp [enumConstantTemplate, Enum.constantLines, annotationLine_eq, render_gap, lookup, View.get?,
    view, String.append_assoc]

/-- **The source of an enum** is the template of enums, filled from the view of the enum. -/
theorem Enum.render_enumTemplate (package : String) (e : Enum) :
    enumTemplate.render (e.view package) = e.source package := by
  have hcomments : (commentBlock "").render [e.view package] =
      unlines (comments "" e.description) := render_commentBlock rfl _
  have hconstants : (Piece.block .enumValues enumConstantTemplate).render [e.view package] =
      unlines (e.constants.flatMap Enum.constantLines) :=
    render_block_lines _ rfl fun constant => constant.render_enumConstantTemplate _
  have hpackage : (Piece.gap .packageName).render [e.view package] = package :=
    render_gap_of_text rfl
  have hname : (Piece.gap .name).render [e.view package] = e.name := render_gap_of_text rfl
  simp [Template.render, enumTemplate, outputTemplate, comparisonTemplate, conversionTemplate,
    source, sourceLines, packageLine_eq, hpackage, hname, hcomments, hconstants,
    String.append_assoc]

end SchemaBeans.Java

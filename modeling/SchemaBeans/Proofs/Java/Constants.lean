import SchemaBeans.Proofs.Java.Lines
import SchemaBeans.Proofs.Java.Names

/-!
# Sources — the constants of an enum

An enum has one constant for each value but the one that stands for the lack of a value, as often as
it is given, in the order of the constants' names, and where these are the same in the order in
which the values are given (`Enum.Keeps`).

Between the header of its source and the line with the semicolon, each constant has two lines with
one literal each, which is read as the value of the constant; whatever characters the value has, a
line end or a quote among them, the name of the constant has none of these
(`constants_of_enum`).
-/

namespace SchemaBeans.Java

open Naming (screaming not_mem_screaming)
open Text (isAlone_feed isAlone_quote)

/-- The lines of a constant that are not blank. -/
def EnumConstant.outline (constant : EnumConstant) : List String :=
  ["    @SerializedName(\"" ++ escape constant.value ++ "\")",
    "    " ++ constant.name ++ "(\"" ++ escape constant.value ++ "\"),"]

namespace Enum

variable {package name description : String} {values : List String}

/-- The constants of an enum are those of the values that it keeps. -/
structure Keeps (e : Enum) (values : List String) : Prop where
  /-- Every other value than `nil` is kept as often as it is given. -/
  count (value : String) :
    (e.constants.map EnumConstant.value).count value =
      if value = "nil" then 0 else values.count value
  name : ∀ constant ∈ e.constants, constant.name = screaming constant.value
  sorted : e.constants.Pairwise (·.name ≤ ·.name)
  /-- Values that have the same name stay in their order. -/
  stable (name : String) :
    (e.constants.filter (·.name = name)).map EnumConstant.value =
      values.filter fun value => value ≠ "nil" ∧ screaming value = name

theorem keeps_ofValues (name description : String) (values : List String) :
    (Enum.ofValues name description values).Keeps values where
  count value := by
    have hvalues : EnumConstant.value ∘ EnumConstant.ofValue = id := rfl
    rw [((constants_ofValues name description values).map EnumConstant.value).count_eq,
      List.map_map, hvalues, List.map_id]
    split
    · next h => exact List.count_eq_zero_of_not_mem (by simp [h, Schema.nilValue])
    · next h => exact List.count_filter (decide_eq_true h)
  name _ h := name_of_mem_constants h
  sorted := Order.pairwise_le_sortBy _ _
  stable name' := by
    rw [Enum.ofValues, Order.filter_key_sortBy, List.filter_map, List.filter_filter, List.map_map]
    refine (List.map_id _).trans (List.filter_congr fun value _ => ?_)
    rw [Function.comp_apply, Bool.eq_iff_iff, Bool.and_eq_true, decide_eq_true_iff,
      decide_eq_true_iff, decide_eq_true_iff, and_comm]
    exact Iff.rfl

/-- The lines in the source of an enum that are not blank, up to the header. -/
def openingOutline (package : String) (e : Enum) : List String :=
  ["package " ++ package ++ ";", "import com.google.gson.annotations.SerializedName;"] ++
    e.description.map ("// " ++ ·) ++ ["public enum " ++ e.name ++ " \x7b"]

/-- The lines in the source of an enum that are not blank, from the line with the semicolon on. -/
def closingOutline (e : Enum) : List String :=
  ["    ;",
    "    private final String outputName;",
    "    private " ++ e.name ++ "(String outputName) \x7b",
    "        this.outputName = outputName;",
    "    \x7d",
    "    public boolean equalsName(String otherName) \x7b",
    "        return outputName.equals(otherName);",
    "    \x7d",
    "    public String toString() \x7b",
    "        return this.outputName;",
    "    \x7d",
    "\x7d"]

theorem shows_constantLines {constant : EnumConstant} (h : Unbroken constant.name) :
    Shows (constantLines constant) constant.outline := by
  have hescape := unbroken_escape constant.value
  have hconstant : Shows ["    " ++ constant.name ++ "(\"" ++ escape constant.value ++ "\"),"]
      ["    " ++ constant.name ++ "(\"" ++ escape constant.value ++ "\"),"] := by
    refine Shows.all ?_ ?_
    · simp [Unbroken, h, hescape]
    · simpa [isShown] using ⟨'(', by simp, by decide⟩
  exact (shows_annotationLine constant.value).append (hconstant.append Shows.blank)

theorem shows_openingLines {e : Enum} (hpackage : Unbroken package) (hname : Unbroken e.name)
    (hdescription : IsComment e.description) :
    Shows ([packageLine package, "", importLine, ""] ++ comments "" e.description ++
        ["public enum " ++ e.name ++ " " ++ openBrace])
      (e.openingOutline package) := by
  have himport : Shows [importLine] ["import com.google.gson.annotations.SerializedName;"] :=
    Shows.all (by decide) (by decide)
  have hheader : Shows ["public enum " ++ e.name ++ " " ++ openBrace]
      ["public enum " ++ e.name ++ " \x7b"] :=
    shows_opening (by decide) (by simp [Unbroken, hname]) (by decide)
  have hcomments := shows_comments (by decide : Unbroken "") hdescription
  have h := (((shows_packageLine hpackage).append
    (Shows.blank.append (himport.append Shows.blank))).append hcomments).append hheader
  simpa [openingOutline] using h

theorem shows_closingLines {e : Enum} (hname : Unbroken e.name) :
    Shows
      ["    ;",
        "",
        "    private final String outputName;",
        "",
        "    private " ++ e.name ++ "(String outputName) " ++ openBrace,
        "        this.outputName = outputName;",
        "    " ++ closeBrace,
        "",
        "    public boolean equalsName(String otherName) " ++ openBrace,
        "        return outputName.equals(otherName);",
        "    " ++ closeBrace,
        "",
        "    public String toString() " ++ openBrace,
        "        return this.outputName;",
        "    " ++ closeBrace,
        closeBrace]
      e.closingOutline where
  unbroken := by simp [Unbroken, hname, openBrace, closeBrace]
  filter := by simp [closingOutline, isShown, openBrace, closeBrace, String.append_assoc]

theorem shows_sourceLines {e : Enum} (hpackage : Unbroken package) (hname : Unbroken e.name)
    (hdescription : IsComment e.description) (hconstants : ∀ k ∈ e.constants, Unbroken k.name) :
    Shows (e.sourceLines package)
      (e.openingOutline package ++ e.constants.flatMap EnumConstant.outline ++
        e.closingOutline) := by
  have hlines : Shows (e.constants.flatMap constantLines)
      (e.constants.flatMap EnumConstant.outline) :=
    Shows.flatMap fun k hk => shows_constantLines (hconstants k hk)
  exact ((shows_openingLines hpackage hname hdescription).append hlines).append
    (shows_closingLines hname)

end Enum

/-- A line with one literal, where no quote is outside of it. -/
theorem literals?_of_literal {before after : String} (hbefore : '"' ∉ before.toList)
    (hafter : '"' ∉ after.toList) (text : String) :
    literals? (before ++ literal text ++ after).toList = some [text.toList] := by
  have hrest : literals? after.toList = some [] := by
    generalize after.toList = cs at hafter
    induction cs with
    | nil => rfl
    | cons c cs ih =>
      obtain ⟨hc, hcs⟩ := not_or.mp fun e => hafter (List.mem_cons.mpr e)
      rw [literals?, if_neg (Ne.symm hc), ih hcs]
  rw [String.toList_append, String.toList_append, literals?_append_literal hbefore, hrest]
  rfl

/-- Each line of a constant has one literal, which is read as the value. -/
theorem EnumConstant.literals?_outline {constant : EnumConstant}
    (hname : '"' ∉ constant.name.toList) {line : String} (hline : line ∈ constant.outline) :
    literals? line.toList = some [constant.value.toList] := by
  rcases List.mem_pair.mp hline with rfl | rfl
  · have hliteral : "    @SerializedName(\"" ++ escape constant.value ++ "\")" =
        "    @SerializedName(" ++ literal constant.value ++ ")" := by
      apply String.toList_injective
      simp [literal]
    rw [hliteral]
    exact literals?_of_literal (by decide) (by decide) constant.value
  · have hliteral : "    " ++ constant.name ++ "(\"" ++ escape constant.value ++ "\")," =
        "    " ++ constant.name ++ "(" ++ literal constant.value ++ ")," := by
      apply String.toList_injective
      simp [literal]
    rw [hliteral]
    exact literals?_of_literal (by simp [hname]) (by decide) constant.value

namespace Enum

/-- **The constants of an enum.**  The enum of a list of values keeps the values, and its source is
what the template renders for it.  Between the header and the line with the semicolon, the lines of
the source are those of the constants, in their order; each of them has one literal, which is read
as the value of its constant. -/
theorem constants_of_enum (name description : String) (values : List String) (package : String) :
    let e := ofValues name description values
    e.Keeps values ∧
      e.source package = enumTemplate.render (e.view package) ∧
      (∀ k ∈ e.constants, ∀ line ∈ k.outline,
        literals? line.toList = some [k.value.toList]) ∧
      (Unbroken name → Unbroken package →
        shownLines (e.source package) =
          e.openingOutline package ++ e.constants.flatMap EnumConstant.outline ++
            e.closingOutline) := by
  intro e
  refine ⟨keeps_ofValues name description values, (render_enumTemplate package e).symm,
    fun k hk line hline => ?_, fun hname hpackage => ?_⟩
  · refine EnumConstant.literals?_outline ?_ hline
    rw [name_of_mem_constants hk]
    exact not_mem_screaming isAlone_quote (by decide) k.value
  · refine (shows_sourceLines hpackage hname (isComment_commentLines description)
      fun k hk => ?_).shownLines_unlines
    rw [Unbroken, name_of_mem_constants hk]
    exact not_mem_screaming isAlone_feed (by decide) k.value

/-- Values with a quote, a line feed, a backslash and a gap of a template in them, three of which
have the same name. -/
theorem lines_of_codes :
    let values := ["b c", "a\"\n", "nil", "\\u", "B_C", "\x7b\x7bname\x7d\x7d", "b c"]
    let e := ofValues "Codes" "one\ntwo\n\n" values
    Unbroken "Codes" ∧ Unbroken "generated" ∧
      shownLines (e.source "generated") =
        ["package generated;",
          "import com.google.gson.annotations.SerializedName;",
          "// one",
          "// two",
          "public enum Codes \x7b",
          "    @SerializedName(\"a\\\"\\n\")",
          "    A_(\"a\\\"\\n\"),",
          "    @SerializedName(\"b c\")",
          "    B_C(\"b c\"),",
          "    @SerializedName(\"B_C\")",
          "    B_C(\"B_C\"),",
          "    @SerializedName(\"b c\")",
          "    B_C(\"b c\"),",
          "    @SerializedName(\"\x7b\x7bname\x7d\x7d\")",
          "    _NAME_(\"\x7b\x7bname\x7d\x7d\"),",
          "    @SerializedName(\"\\\\u\")",
          "    _U(\"\\\\u\"),"] ++ e.closingOutline := by
  intro values e
  have hname : Unbroken "Codes" := by decide
  have hpackage : Unbroken "generated" := by decide
  refine ⟨hname, hpackage, ?_⟩
  rw [(constants_of_enum _ _ _ "generated").2.2.2 hname hpackage]
  decide +kernel

end Enum

end SchemaBeans.Java

import SchemaBeans.Proofs.Extraction.AllOrNothing
import SchemaBeans.Proofs.Extraction.Descriptions
import SchemaBeans.Proofs.Generation.Accepted
import SchemaBeans.Proofs.Java.Descriptions
import SchemaBeans.Proofs.Resolution.Descriptions
import SchemaBeans.Proofs.Yaml.Characters
import SchemaBeans.Proofs.Yaml.Equality

/-!
# Generation — descriptions say nothing but comments

Documents whose component schemas are the same without descriptions (`SameButDescriptions`) are
translated with the same events to the same error, or to packages that are the same without comment
lines, with the same counts and warnings (`translate_of_sameButDescriptions`).  The sources of these
packages are the same without blank lines and comments, whatever the descriptions are: a line feed
or the sign of a comment in them does not get out of the comment.

Extraction, resolution and translation each leave of their input without descriptions what they
leave of the input, without its descriptions.  So the whole run does
(`undescribed_translateDocument`), and a run on a document without descriptions is all that can be
told of both documents.
-/

namespace SchemaBeans.Generation

open Schema
open Yaml (Node)
open Journal (Event)

/-- The component schemas of the documents are the same without descriptions. -/
def SameButDescriptions (document document' : Node) : Prop :=
  (components document).map undescribedEntries = (components document').map undescribedEntries

instance (document document' : Node) : Decidable (SameButDescriptions document document') :=
  inferInstanceAs (Decidable (_ = _))

/-- The same error; or packages that are the same without comment lines, whose sources are the same
without blank lines and comments, and the same counts and warnings.  A line is blank if all its
characters are, and a comment if the first two that are not blank are slashes; any class of
characters will do that has the space in it, but not the slash. -/
inductive SameButComments : Except Error Product → Except Error Product → Prop where
  | error (error : Error) : SameButComments (.error error) (.error error)
  | product {package package' : Java.Package} (stats : Stats)
      (hpackage : package.undescribed = package'.undescribed)
      (hcode : ∀ blank : Char → Bool, blank ' ' = true → blank '/' = false →
        package.code blank = package'.code blank) :
      SameButComments (.ok ⟨package, stats⟩) (.ok ⟨package', stats⟩)

/-! ### Runs without descriptions -/

/-- The product with its package without comment lines. -/
def Product.undescribed (product : Product) : Product :=
  { product with package := product.package.undescribed }

/-- The outcome with its package, if there is one, without comment lines. -/
def Outcome.undescribed (o : Outcome Product) : Outcome Product :=
  { o with result := o.result.map Product.undescribed }

/-- Classes and enums are counted, comment lines are not. -/
theorem Stats.recordPackage_undescribed (s : Stats) (p : Java.Package) :
    s.recordPackage p.undescribed = s.recordPackage p := by
  have hclass : ∀ (s : Stats) (c : Java.Class), s.recordClass c.undescribed = s.recordClass c := by
    intro s c
    simp only [recordClass, Java.Class.undescribed, List.length_map]
  have henum : ∀ (s : Stats) (e : Java.Enum), s.recordEnum e.undescribed = s.recordEnum e :=
    fun _ _ => rfl
  simp only [recordPackage, Java.Package.undescribed, values_eq_map_toList,
    Std.ExtTreeMap.toList_map, List.foldl_map, hclass, henum]

variable {package text text' : String} {document document' : Node}

theorem statsOf_undescribed (x : Extraction) (t : Java.Translation) :
    statsOf x.undescribed t.undescribed = statsOf x t :=
  Stats.recordPackage_undescribed _ t.package

/-- The entries about a translation name types and counts, and no description. -/
theorem translationEvents_undescribed (x : Extraction) (r : Resolution) (t : Java.Translation) :
    translationEvents package x.undescribed r.undescribed t.undescribed =
      translationEvents package x r t := by
  have hempty : r.undescribed.model.isEmpty = r.model.isEmpty := Model.isEmpty_undescribed
  simp only [translationEvents, statsOf_undescribed, hempty]
  rfl

/-- What follows an extraction is carried over phase by phase: resolution, bounds, package. -/
theorem undescribed_translateExtraction (package : String) (x : Extraction) :
    (translateExtraction package x).undescribed = translateExtraction package x.undescribed := by
  have hresolve : resolve? x.undescribed.model x.undescribed.errors =
      (resolve? x.model x.errors).map Resolution.undescribed := resolve?_undescribed _ _
  rw [translateExtraction, translateExtraction, hresolve]
  cases resolve? x.model x.errors with
  | error overflow => rfl
  | ok r =>
    have htranslate : Java.translate? r.undescribed.model package =
        (Java.translate? r.model package).map Java.Translation.undescribed :=
      Java.translate?_undescribed _ _
    have herrors : r.undescribed.errors = r.errors := rfl
    simp only [Except.map, htranslate, herrors]
    split
    · cases Java.translate? r.model package with
      | error overflow => rfl
      | ok t => simp only [translationEvents_undescribed, statsOf_undescribed]; rfl
    · rfl

/-- A run on a document without descriptions. -/
theorem undescribed_translateDocument (package : String) (document : Node) :
    (translateDocument package document).undescribed =
      match (components document).map undescribedEntries with
      | .error absence => { result := .error (.absent absence) }
      | .ok schemas => translateExtraction package (Extraction.ofEntries schemas) := by
  rw [translateDocument, extract]
  cases components document with
  | error absence => rfl
  | ok schemas =>
    simp only [Except.map, Extraction.ofEntries_undescribedEntries,
      undescribed_translateExtraction]

/-! ### Two runs -/

/-- Where a text can be read, all that comes of it comes of its document. -/
theorem translate_eq_of_read (package : String) (hread : Yaml.read text = .ok document) :
    translate package text = translateDocument package document := by
  rw [translate, hread]

/-- The package of a translation has lines for its descriptions. -/
theorem commented_of_translate {product : Product}
    (h : (translate package text).result = .ok product) : product.package.Commented := by
  obtain ⟨_, _, x, -, -, -, -, rfl⟩ := exists_extract_of_translate h
  exact Java.Package.commented_translate _ _

/-- Results are the same but for comments if they are the same without comment lines. -/
theorem SameButComments.of_undescribed {result result' : Except Error Product}
    (h : result.map Product.undescribed = result'.map Product.undescribed)
    (hcommented : ∀ product, result = .ok product → product.package.Commented)
    (hcommented' : ∀ product, result' = .ok product → product.package.Commented) :
    SameButComments result result' := by
  cases result with
  | error error =>
    cases result' with
    | error error' =>
      obtain rfl : error = error' := Except.error.inj h
      exact .error error
    | ok product' => cases h
  | ok product =>
    cases result' with
    | error error' => cases h
    | ok product' =>
      have hp := hcommented product rfl
      have hp' := hcommented' product' rfl
      obtain ⟨p, stats⟩ := product
      obtain ⟨p', stats'⟩ := product'
      obtain ⟨hpackage, rfl⟩ := Product.mk.inj (Except.ok.inj h)
      exact .product stats hpackage fun _ hspace hslash => hp.code_eq hp' hpackage hspace hslash

/-- **Descriptions say nothing but comments.**  Two texts that are read as documents with the same
component schemas, descriptions aside, are translated with the same events to the same error, or to
packages and sources that are the same, comments aside, with the same counts and warnings. -/
theorem translate_of_sameButDescriptions (package : String) (hread : Yaml.read text = .ok document)
    (hread' : Yaml.read text' = .ok document') (h : SameButDescriptions document document') :
    (translate package text).events = (translate package text').events ∧
      SameButComments (translate package text).result (translate package text').result := by
  have houtcome : (translate package text).undescribed = (translate package text').undescribed := by
    rw [translate_eq_of_read package hread, translate_eq_of_read package hread',
      undescribed_translateDocument, undescribed_translateDocument, h]
  have hevents := congrArg Outcome.events houtcome
  have hresult := congrArg Outcome.result houtcome
  exact ⟨hevents, .of_undescribed hresult (fun _ => commented_of_translate)
    fun _ => commented_of_translate⟩

/-- An object with a property called description and one that refers to a text. -/
def petEntries (own property text : String) : List (Node × Node) :=
  [(.string "pet", .mapping
      [(.string "type", .string "object"), (.string "description", .string own),
        (.string "properties", .mapping
          [(.string "description", .mapping
              [(.string "type", .string "string"), (.string "description", .string property)]),
            (.string "name", .mapping [(.string "$ref", .string "#/components/schemas/text")])])]),
    (.string "text", .mapping
      [(.string "type", .string "string"), (.string "description", .string text)])]

/-- The document of the object and the text. -/
def petText (own property text : String) : String :=
  "components:\n schemas:\n  pet:\n   type: object\n   description: " ++ own ++
  "\n   properties:\n    description: \x7btype: string, description: " ++ property ++
  "\x7d\n    name: \x7b$ref: '#/components/schemas/text'\x7d\n" ++
  "  text: \x7btype: string, description: " ++ text ++ "\x7d\n"

/-- The document with descriptions of several lines, of which one could end the class. -/
def describedPet : String := petText "\"a\\n\x7d\\n\\n\"" "b" "\"c\\n//\\n\\n\""

/-- The document with short descriptions. -/
def plainPet : String := petText "d" "''" "''"

/-- The two come to the same, comments aside, and in the class of the first there are comments. -/
theorem describedPet_translated :
    (translate "pets" describedPet).events = (translate "pets" plainPet).events ∧
      SameButComments (translate "pets" describedPet).result (translate "pets" plainPet).result ∧
      (translate "pets" describedPet).result.toOption.any fun product =>
        product.package.classes["Pet"]?.map (fun c =>
          (c.description, c.members.map fun member => (member.name, member.description))) =
        some (["a", "\x7d"], [("description", ["b"]), ("name", ["c", "//"])]) := by
  have hread : Yaml.read describedPet =
      .ok (documentOf (petEntries "a\n\x7d\n\n" "b" "c\n//\n\n")) := by
    apply Yaml.read_eq_of_toList
    · unfold describedPet petText
      repeat' first
        | with_reducible apply Yaml.toList_append_of_toList
        | exact String.toList_ofList
    · decide +kernel
  have hread' : Yaml.read plainPet = .ok (documentOf (petEntries "d" "" "")) := by
    apply Yaml.read_eq_of_toList
    · unfold plainPet petText
      repeat' first
        | with_reducible apply Yaml.toList_append_of_toList
        | exact String.toList_ofList
    · decide +kernel
  have h := translate_of_sameButDescriptions "pets" hread hread' (by decide +kernel)
  refine ⟨h.1, h.2, ?_⟩
  rw [translate_eq_of_read "pets" hread]
  decide +kernel

end SchemaBeans.Generation

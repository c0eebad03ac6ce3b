import SchemaBeans.Proofs.Java.Descriptions
import SchemaBeans.Proofs.Java.Literals
import SchemaBeans.Yaml.Chars

/-!
# Sources — comments as they are read

Before a source is cut into lines, its Unicode escapes are read (`units?`), and it is cut at
carriage returns as well as at line feeds.  What of a comment line is read as code is therefore the
code behind the first line end in the comment, escapes being read (`code?_comment`); there is none
if the comment is contained in its line (`isContained`).  Where all comments of a package are, its
code is that of the package without them (`readCode_undescribed`).

A line is a comment if it begins with two slashes, blanks aside: comments that begin inside a line,
or go over several lines, are none that a description is written in, and count as code.
-/

namespace SchemaBeans.Java

open Yaml (hexDigit?)

/-! ### Unicode escapes -/

/-- How far a text has been read. -/
inductive Reading where
  /-- Between characters; `afterEscape` if the last one was an escape, and `wasOpen` if the last
  ones are an odd number of backslashes. -/
  | between (afterEscape wasOpen : Bool)
  /-- Behind the backslash of an escape and some letters `u`. -/
  | letters (wasOpen : Bool)
  /-- Behind some of the digits of an escape. -/
  | digits (wasOpen : Bool) (count value : Nat)

/-- An escape begins here: there is a backslash with a letter `u` behind it, and the backslash is
not itself escaped. -/
def beginsEscape (afterEscape wasOpen : Bool) : List Char → Bool
  | '\\' :: 'u' :: _ => afterEscape || !wasOpen
  | _ => false

/-- The characters that are read in a text, by their codes, if its Unicode escapes are complete. -/
def units? : Reading → List Char → Option (List Nat)
  | .between _ _, [] => some []
  | .letters _, [] => none
  | .digits _ _ _, [] => none
  | .between afterEscape wasOpen, c :: cs =>
    if beginsEscape afterEscape wasOpen (c :: cs) then units? (.letters wasOpen) cs
    else (units? (.between false (!wasOpen && c = '\\')) cs).map (c.toNat :: ·)
  | .letters wasOpen, c :: cs =>
    if c = 'u' then units? (.letters wasOpen) cs
    else (hexDigit? c).bind fun digit => units? (.digits wasOpen 1 digit) cs
  | .digits wasOpen count value, c :: cs =>
    (hexDigit? c).bind fun digit =>
      let value := value * 16 + digit
      if count < 3 then units? (.digits wasOpen (count + 1) value) cs
      else (units? (.between true (!wasOpen && value = '\\'.toNat)) cs).map (value :: ·)

/-- Nothing has been read. -/
def Reading.start : Reading := .between false false

/-- There is no Unicode escape in the text. -/
def IsInert (cs : List Char) : Prop :=
  ∀ before after, cs = before ++ '\\' :: 'u' :: after → Odd (slashes before)

theorem beginsEscape_append_feed (afterEscape wasOpen : Bool) (c : Char) (cs ds : List Char) :
    beginsEscape afterEscape wasOpen (c :: (cs ++ '\n' :: ds)) =
      beginsEscape afterEscape wasOpen (c :: cs) := by
  cases cs with
  | nil => by_cases hc : c = '\\' <;> simp [beginsEscape]
  | cons d cs => by_cases hc : c = '\\' <;> by_cases hd : d = 'u' <;> simp [beginsEscape, hc, hd]

/-- At a line feed the text is read anew. -/
theorem units?_append_feed (r : Reading) (cs ds : List Char) :
    units? r (cs ++ '\n' :: ds) =
      (units? r cs).bind fun us => (units? .start ds).map fun vs => us ++ '\n'.toNat :: vs := by
  induction cs generalizing r with
  | nil =>
    cases r with
    | between afterEscape wasOpen => simp [units?, beginsEscape, Reading.start]
    | letters wasOpen => rfl
    | digits wasOpen count value => rfl
  | cons c cs ih =>
    cases r with
    | between afterEscape wasOpen =>
      rw [List.cons_append, units?, units?, beginsEscape_append_feed]
      split
      · exact ih _
      · rw [ih]
        cases units? (.between false (!wasOpen && c = '\\')) cs <;> simp [Function.comp_def]
    | letters wasOpen =>
      rw [List.cons_append, units?, units?]
      split
      · exact ih _
      · cases hexDigit? c with
        | none => rfl
        | some digit => exact ih _
    | digits wasOpen count value =>
      rw [List.cons_append, units?, units?]
      cases hexDigit? c with
      | none => rfl
      | some digit =>
        simp only [Option.bind_some]
        split
        · exact ih _
        · rw [ih]
          cases units? _ cs <;> simp [Function.comp_def]

/-- Where no escape begins, a character is read as it is. -/
theorem units?_cons {afterEscape wasOpen : Bool} {c : Char} {cs : List Char}
    (h : beginsEscape afterEscape wasOpen (c :: cs) = false) :
    units? (.between afterEscape wasOpen) (c :: cs) =
      (units? (.between false (!wasOpen && c = '\\')) cs).map (c.toNat :: ·) := by
  rw [units?, h, if_neg Bool.false_ne_true]

/-- Characters that are no backslashes are read as they are. -/
theorem units?_append_of_not_mem {before : List Char} (h : '\\' ∉ before) (cs : List Char) :
    units? .start (before ++ cs) = (units? .start cs).map (before.map Char.toNat ++ ·) := by
  induction before with
  | nil => simp
  | cons c before ih =>
    obtain ⟨hc, hbefore⟩ := not_or.mp fun e => h (List.mem_cons.mpr e)
    have hescape : beginsEscape false false (c :: (before ++ cs)) = false := by
      rw [beginsEscape]
      rintro _ e
      exact hc (List.cons.inj e).1.symm
    rw [List.cons_append, Reading.start, units?_cons hescape, decide_eq_false (Ne.symm hc),
      Bool.and_false, ← Reading.start, ih hbefore, Option.map_map]
    rfl

/-- A text without escapes is read as it is. -/
theorem units?_of_isInert {cs : List Char} (h : IsInert cs) :
    units? .start cs = some (cs.map Char.toNat) := by
  -- the part that has been read shows only in whether a backslash is open
  have hfrom : ∀ (wasOpen : Bool) (cs : List Char),
      (∀ before after, cs = before ++ '\\' :: 'u' :: after → isOpen wasOpen before = true) →
      units? (.between false wasOpen) cs = some (cs.map Char.toNat) := by
    intro wasOpen cs hcs
    induction cs generalizing wasOpen with
    | nil => rfl
    | cons c cs ih =>
      have hescape : beginsEscape false wasOpen (c :: cs) = false := by
        unfold beginsEscape
        split
        · next after e => simpa [isOpen] using hcs [] after e
        · rfl
      have hrest := ih (!wasOpen && c = '\\') fun before after e =>
        hcs (c :: before) after (congrArg (c :: ·) e)
      rw [units?_cons hescape, hrest]
      rfl
  exact hfrom false cs fun before after e => isOpen_eq_true_iff.mpr (h before after e)

/-! ### Lines of code -/

/-- The character ends a line. -/
def endsLine (unit : Nat) : Bool := unit = '\n'.toNat || unit = '\r'.toNat

/-- The character is a space or a tabulator or a form feed. -/
def isBlank (unit : Nat) : Bool := unit = ' '.toNat || unit = '\t'.toNat || unit = 12

/-- The line is neither blank nor a comment. -/
def holdsCode (line : List Nat) : Bool :=
  let code := line.dropWhile isBlank
  !code.isEmpty && !(['/', '/'].map Char.toNat).isPrefixOf code

/-- The lines of code among characters. -/
def codeOf (units : List Nat) : List (List Nat) := (units.splitOnP endsLine).filter holdsCode

/-- The lines of code in a text, if its Unicode escapes are complete. -/
def code? (text : String) : Option (List (List Nat)) := (units? .start text.toList).map codeOf

/-- No line ends in the text, as it is read. -/
def isContained (text : String) : Bool :=
  (units? .start text.toList).any fun units => units.all (!endsLine ·)

/-- The code on both sides of a line end is that of each side. -/
theorem codeOf_append {u : Nat} (hu : endsLine u = true) (us vs : List Nat) :
    codeOf (us ++ u :: vs) = codeOf us ++ codeOf vs := by
  rw [codeOf, List.splitOnP_append_cons _ _ hu, List.filter_append]
  rfl

/-- Of a line that begins as a comment, the code is what is behind the first line end. -/
theorem codeOf_comment {us : List Nat} (hends : ∀ u ∈ us, endsLine u = false)
    (hcomment : ∀ vs, holdsCode (us ++ vs) = false) (vs : List Nat) :
    codeOf (us ++ vs) = codeOf (vs.dropWhile (!endsLine ·)) := by
  have hline : ∀ u ∈ us ++ vs.takeWhile (!endsLine ·), endsLine u = false := fun u hu =>
    (List.mem_append.mp hu).elim (hends u) fun hu => by simpa using List.mem_takeWhile_imp hu
  have hfirst : codeOf (us ++ vs.takeWhile (!endsLine ·)) = [] := by
    rw [codeOf, List.splitOnP_eq_singleton hline, List.filter_singleton, hcomment]
    rfl
  conv => lhs; rw [← List.takeWhile_append_dropWhile (p := (!endsLine ·)) (l := vs)]
  rw [← List.append_assoc]
  cases hrest : vs.dropWhile (!endsLine ·) with
  | nil =>
    rw [List.append_nil, hfirst]
    rfl
  | cons u rest =>
    have hu : endsLine u = true := by
      have hhead := List.head?_dropWhile_not (!endsLine ·) vs
      rw [hrest] at hhead
      simpa using hhead
    have hempty : codeOf (u :: rest) = codeOf rest := codeOf_append hu [] rest
    rw [codeOf_append hu, hfirst, hempty]
    rfl

/-- **The code in a comment line** is the code of the comment behind the first line end in it. -/
theorem code?_comment {indent : String} (hindent : ∀ c ∈ indent.toList, c = ' ') (text : String) :
    code? (indent ++ "// " ++ text) =
      (units? .start text.toList).map fun us => codeOf (us.dropWhile (!endsLine ·)) := by
  have htext : (indent ++ "// " ++ text).toList =
      (indent.toList ++ ['/', '/', ' ']) ++ text.toList := by simp
  have hslash : '\\' ∉ indent.toList ++ ['/', '/', ' '] := by
    simpa using fun h => absurd (hindent _ h) (by decide)
  have hends : ∀ u ∈ (indent.toList ++ ['/', '/', ' ']).map Char.toNat, endsLine u = false := by
    rw [List.forall_mem_map]
    intro c hc
    rcases List.mem_append.mp hc with hc | hc
    · rw [hindent c hc]; rfl
    · obtain rfl | rfl : c = '/' ∨ c = ' ' := by simpa using hc
      · rfl
      · rfl
  have hcomment : ∀ vs,
      holdsCode ((indent.toList ++ ['/', '/', ' ']).map Char.toNat ++ vs) = false := by
    intro vs
    have hblank : ∀ u ∈ indent.toList.map Char.toNat, isBlank u = true :=
      List.forall_mem_map.mpr fun c hc => by rw [hindent c hc]; rfl
    rw [List.map_append, List.append_assoc, holdsCode, List.dropWhile_append_of_pos hblank]
    rfl
  rw [code?, htext, units?_append_of_not_mem hslash, Option.map_map]
  exact Option.map_congr fun us _ => codeOf_comment hends hcomment us

/-- There is no code in a comment that is contained. -/
theorem code?_of_isContained {indent text : String} (hindent : ∀ c ∈ indent.toList, c = ' ')
    (h : isContained text = true) : code? (indent ++ "// " ++ text) = some [] := by
  obtain ⟨us, hus, hall⟩ := Option.any_eq_true _ _ |>.mp h
  rw [code?_comment hindent, hus, Option.map_some,
    List.dropWhile_eq_nil_iff.mpr (List.all_eq_true.mp hall)]
  rfl

theorem endsLine_toNat {c : Char} : endsLine c.toNat = true ↔ c = '\n' ∨ c = '\r' := by
  rw [endsLine, Bool.or_eq_true, decide_eq_true_iff, decide_eq_true_iff, Char.toNat_inj,
    Char.toNat_inj]

/-- A text without Unicode escapes is contained if it has no line feed and no carriage return. -/
theorem isContained_iff_of_isInert {text : String} (h : IsInert text.toList) :
    isContained text = true ↔ '\n' ∉ text.toList ∧ '\r' ∉ text.toList := by
  have hends : isContained text = text.toList.all fun c => !endsLine c.toNat := by
    rw [isContained, units?_of_isInert h, Option.any_some, List.all_map]
    rfl
  rw [hends, List.all_eq_true]
  constructor
  · intro hall
    constructor
    · intro hfeed
      exact absurd (hall _ hfeed) (by decide)
    · intro hreturn
      exact absurd (hall _ hreturn) (by decide)
  · rintro ⟨hfeed, hreturn⟩ c hc
    rw [Bool.not_eq_true', ← Bool.not_eq_true, endsLine_toNat]
    rintro (rfl | rfl)
    · exact hfeed hc
    · exact hreturn hc

/-! ### Sources -/

/-- The code of a line, unless there is none. -/
def lineCode (line : String) : List (Option (List (List Nat))) :=
  if code? line = some [] then [] else [code? line]

/-- The code of one text after the other. -/
def joinCode : List (Option (List (List Nat))) → Option (List (List Nat))
  | [] => some []
  | first :: rest => first.bind fun code => (joinCode rest).map (code ++ ·)

/-- **Lines.**  The code of a text is that of its lines, one after the other. -/
theorem code?_append_feed (line text : String) :
    code? (line ++ "\n" ++ text) =
      (code? line).bind fun code => (code? text).map (code ++ ·) := by
  have htext : (line ++ "\n" ++ text).toList = line.toList ++ '\n' :: text.toList := by simp
  rw [code?, code?, code?, htext, units?_append_feed]
  cases units? .start line.toList with
  | none => rfl
  | some us =>
    cases units? .start text.toList with
    | none => rfl
    | some vs =>
      have hfeed : endsLine '\n'.toNat = true := by decide
      exact congrArg some (codeOf_append hfeed us vs)

/-- The code of lines is that of one line after the other. -/
theorem code?_unlines (lines : List String) :
    code? (unlines lines) = joinCode (lines.flatMap lineCode) := by
  induction lines with
  | nil => rfl
  | cons line lines ih =>
    have hlines : unlines (line :: lines) = line ++ "\n" ++ unlines lines := String.join_cons
    rw [hlines, code?_append_feed, ih, List.flatMap_cons, lineCode]
    split
    · next hline => 
      rw [hline]
      simp
    · rfl

/-- A comment that is contained in its line has no code. -/
theorem lineCode_of_isContained {indent text : String} (hindent : ∀ c ∈ indent.toList, c = ' ')
    (h : isContained text = true) : lineCode (indent ++ "// " ++ text) = [] :=
  if_pos (code?_of_isContained hindent h)

/-- The text stands behind two slashes in one of the lines and is not cut at a line feed; of its
line, the code is the code of the text behind the first line end. -/
structure IsCommentIn (lines : List String) (text : String) : Prop where
  feed : '\n' ∉ text.toList
  line : ∃ indent : String, (∀ c ∈ indent.toList, c = ' ') ∧ indent ++ "// " ++ text ∈ lines ∧
    code? (indent ++ "// " ++ text) =
      (units? .start text.toList).map fun us => codeOf (us.dropWhile (!endsLine ·))

theorem isCommentIn {lines description : List String} (h : IsComment description) {indent : String}
    (hindent : ∀ c ∈ indent.toList, c = ' ') (hlines : comments indent description ⊆ lines)
    {text : String} (htext : text ∈ description) : IsCommentIn lines text where
  feed := h text htext
  line := ⟨indent, hindent, hlines (List.mem_map_of_mem htext), code?_comment hindent text⟩

namespace Class

variable {c : Class}

/-- The texts of the comments in a class. -/
def commentTexts (c : Class) : List String :=
  c.description ++ c.constants.flatMap Member.description ++ c.members.flatMap Member.description

/-- Where all comments of a class are contained, nothing of them is read as code. -/
theorem isSilent_of_isContained (h : ∀ text ∈ c.commentTexts, isContained text = true) :
    c.IsSilent lineCode where
  own line hline := lineCode_of_isContained (by simp) (h line (by simp [commentTexts, hline]))
  members member hmember line hline :=
    lineCode_of_isContained (by simp) <| h line <|
      List.mem_append_right _ (List.mem_flatMap_of_mem hmember hline)
  constants member hmember line hline :=
    lineCode_of_isContained (by simp) <| h line <| List.mem_append_left _ <|
      List.mem_append_right _ (List.mem_flatMap_of_mem hmember hline)

theorem comments_subset_sourceLines (package : String) :
    comments "" c.description ⊆ c.sourceLines package := by
  intro line hline
  simp [sourceLines, hline]

theorem constantComments_subset_sourceLines (package : String) {member : Member}
    (h : member ∈ c.constants) : comments "    " member.description ⊆ c.sourceLines package := by
  intro line hline
  have hline' : line ∈ c.constants.flatMap Member.constantLines :=
    List.mem_flatMap_of_mem h (List.mem_append_left _ hline)
  have hne : ¬c.constants.isEmpty := by simpa using List.ne_nil_of_mem h
  have hsection : line ∈ c.constantSection := by
    rw [constantSection, if_neg hne]
    exact List.mem_cons_of_mem _ (List.mem_append_left _ hline')
  simp [sourceLines, hsection]

theorem memberComments_subset_sourceLines (package : String) {member : Member}
    (h : member ∈ c.members) : comments "    " member.description ⊆ c.sourceLines package := by
  intro line hline
  have hline' : line ∈ c.members.flatMap Member.fieldLines :=
    List.mem_flatMap_of_mem h (List.mem_append_left _ (List.mem_append_left _ hline))
  have hne : ¬c.members.isEmpty := by simpa using List.ne_nil_of_mem h
  have hsection : line ∈ c.fieldSection := by
    rw [fieldSection, if_neg hne]
    exact List.mem_append_left _ (List.mem_append_right _ hline')
  simp [sourceLines, hsection]

/-- Every comment of a class is one in its source. -/
theorem Commented.isCommentIn (h : c.Commented) (package : String) {text : String}
    (htext : text ∈ c.commentTexts) : IsCommentIn (c.sourceLines package) text := by
  rcases List.mem_append.mp htext with htext | htext
  · rcases List.mem_append.mp htext with htext | htext
    · exact Java.isCommentIn h.own (by simp) (comments_subset_sourceLines package) htext
    · obtain ⟨member, hmember, htext⟩ := List.mem_flatMap.mp htext
      exact Java.isCommentIn (h.constants member hmember) (by simp)
        (constantComments_subset_sourceLines package hmember) htext
  · obtain ⟨member, hmember, htext⟩ := List.mem_flatMap.mp htext
    exact Java.isCommentIn (h.members member hmember) (by simp)
      (memberComments_subset_sourceLines package hmember) htext

end Class

theorem Enum.comments_subset_sourceLines (e : Enum) (package : String) :
    comments "" e.description ⊆ e.sourceLines package := by
  intro line hline
  simp [sourceLines, hline]

namespace Package

variable {p : Package}

/-- The texts of the comments in a package. -/
def commentTexts (p : Package) : List String :=
  p.classes.toList.flatMap (·.2.commentTexts) ++ p.enums.toList.flatMap (·.2.description)

/-- The code of the sources of a package, each with the name of its type. -/
def readCode (p : Package) : List (String × Option (List (List Nat))) :=
  p.sources.map fun entry => (entry.1, code? entry.2)

/-- What is read in the comments of a package. -/
structure KeepsComments (p : Package) : Prop where
  classes : ∀ entry ∈ p.classes.toList, ∀ text ∈ entry.2.commentTexts,
    IsCommentIn (entry.2.sourceLines p.name) text
  enums : ∀ entry ∈ p.enums.toList, ∀ text ∈ entry.2.description,
    IsCommentIn (entry.2.sourceLines p.name) text
  /-- A comment without Unicode escapes is contained exactly if it has no carriage return. -/
  contained : ∀ text ∈ p.commentTexts, IsInert text.toList →
    (isContained text = true ↔ '\r' ∉ text.toList)
  /-- If all comments are contained, the code is that of the package without comments. -/
  code : (∀ text ∈ p.commentTexts, isContained text = true) → p.readCode = p.undescribed.readCode

/-- **Contained comments.**  If all comments of a package are contained, its code is that of the
package without them. -/
theorem readCode_undescribed (h : ∀ text ∈ p.commentTexts, isContained text = true) :
    p.undescribed.readCode = p.readCode := by
  refine map_sources_undescribed (fun entry hentry => ?_) fun entry hentry => ?_
  · have hsilent : entry.2.IsSilent lineCode := Class.isSilent_of_isContained fun text htext =>
      h text (List.mem_append_left _ (List.mem_flatMap_of_mem hentry htext))
    rw [Class.source, Class.source, code?_unlines, code?_unlines, hsilent.flatMap_sourceLines]
  · have hsilent : ∀ text ∈ entry.2.description, lineCode ("" ++ "// " ++ text) = [] :=
      fun text htext => lineCode_of_isContained (by simp) <| h text <|
        List.mem_append_right _ (List.mem_flatMap_of_mem hentry htext)
    rw [Enum.source, Enum.source, code?_unlines, code?_unlines, Enum.flatMap_sourceLines hsilent]

/-- A package whose descriptions are lines has each of them in a comment of its own. -/
theorem Commented.keepsComments (h : p.Commented) : p.KeepsComments where
  classes entry hentry _ htext := (h.classes entry hentry).isCommentIn p.name htext
  enums entry hentry _ htext := isCommentIn (h.enums entry hentry) (by simp)
    (entry.2.comments_subset_sourceLines p.name) htext
  contained text htext hinert := by
    have hfeed : '\n' ∉ text.toList := by
      rcases List.mem_append.mp htext with htext | htext
      · obtain ⟨entry, hentry, htext⟩ := List.mem_flatMap.mp htext
        exact ((h.classes entry hentry).isCommentIn p.name htext).feed
      · obtain ⟨entry, hentry, htext⟩ := List.mem_flatMap.mp htext
        exact h.enums entry hentry text htext
    rw [isContained_iff_of_isInert hinert, and_iff_right hfeed]
  code hcontained := (readCode_undescribed hcontained).symm

end Package

end SchemaBeans.Java

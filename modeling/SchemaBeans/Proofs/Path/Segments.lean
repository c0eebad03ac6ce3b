import Mathlib.Data.List.Infix
import SchemaBeans.Proofs.Path
import SchemaBeans.Proofs.Text.Bytes

/-!
# Paths — segments

A path is a text, and paths are compared as texts, but what this says is about their segments: the
texts between separators, of which any may be empty.  A path lies within another exactly if it
begins with the other's segments (`isWithin_iff_isPrefix`), so lying within is a partial order.  The
parent has all segments but the last (`exists_parent?_of_mem`), and the root of a path below the
component schemas has the first four (`exists_root_eq`).

Texts may be cut and compared by their bytes as well: a path lies within another if it goes on after
the other's bytes with that of a separator (`isWithin_iff_bytes`), and a root ends before the first
such byte that comes after the place of the component schemas (`bytes_root`).
-/

namespace SchemaBeans.Schema.Path

open Text (bytes bytes_append bytes_injective bytes_isPrefix_iff bytes_takeWhile splitOn
  splitOn_append splitOn_of_not_mem)

/-- The texts between the separators of a path. -/
def segments (path : String) : List String := (splitOn '/' path.toList).map String.ofList

variable {path name p q r : String} {names : List String}

theorem segments_injective : Function.Injective segments := fun _ _ => Text.eq_of_map_splitOn

theorem segments_child (parent name : String) :
    segments (child parent name) = segments parent ++ segments name := by
  rw [segments, toList_child, splitOn_append, List.map_append]
  rfl

theorem segments_of_isSegment (h : IsSegment name) : segments name = [name] := by
  rw [segments, splitOn_of_not_mem h, List.map_singleton, String.ofList_toList]

theorem isSegment_of_mem_segments (h : name ∈ segments path) : IsSegment name := by
  obtain ⟨piece, hpiece, rfl⟩ := List.mem_map.mp h
  intro hslash
  rw [String.toList_ofList] at hslash
  cases Text.eq_false_of_mem_split hpiece hslash

/-- Names without separators are the segments of some path. -/
theorem exists_segments_eq (hne : names ≠ []) (h : ∀ name ∈ names, IsSegment name) :
    ∃ path, segments path = names := by
  refine ⟨String.ofList (Text.joinWith '/' (names.map String.toList)), ?_⟩
  rw [segments, String.toList_ofList, Text.splitOn_joinWith (by simpa using hne)
    (List.forall_mem_map.mpr h), List.map_map]
  simp

theorem head?_segments (name : String) : (segments name).head? = some (firstSegment name) := by
  have hfirst := isSegment_firstSegment name
  rcases eq_firstSegment_or name with h | ⟨rest, h⟩
  · rw [h, firstSegment_of_isSegment hfirst, segments_of_isSegment hfirst]
    rfl
  · rw [h, firstSegment_child hfirst, segments_child, segments_of_isSegment hfirst]
    rfl

/-! ### Within -/

/-- A path lies within another if it has the other's segments and after them any more. -/
theorem isWithin_iff_isPrefix : isWithin p r = true ↔ segments r <+: segments p := by
  rw [isWithin_iff]
  refine ⟨?_, ?_⟩
  · rintro (rfl | ⟨name, rfl⟩)
    · exact List.prefix_rfl
    · rw [segments_child]
      exact List.prefix_append _ _
  · rintro ⟨names, hnames⟩
    by_cases hne : names = []
    · rw [hne, List.append_nil] at hnames
      exact Or.inl (segments_injective hnames).symm
    · -- the segments that are left make up the name of a child
      obtain ⟨name, rfl⟩ := exists_segments_eq hne fun segment hsegment =>
        isSegment_of_mem_segments (hnames ▸ List.mem_append_right _ hsegment)
      rw [← segments_child] at hnames
      exact Or.inr ⟨name, (segments_injective hnames).symm⟩

theorem isWithin_antisymm (hpq : isWithin p q = true) (hqp : isWithin q p = true) : p = q := by
  rw [isWithin_iff_isPrefix] at hpq hqp
  exact segments_injective (hqp.eq_of_length_le hpq.length_le)

/-- A path lies within another if its bytes are the other's, or begin with those and a separator. -/
theorem isWithin_iff_bytes :
    isWithin p r = true ↔ bytes p = bytes r ∨ bytes (r ++ "/") <+: bytes p := by
  rw [isWithin_iff, bytes_injective.eq_iff, bytes_isPrefix_iff]
  refine or_congr_right ⟨?_, ?_⟩
  · rintro ⟨name, rfl⟩
    exact ⟨name.toList, by simp⟩
  · rintro ⟨rest, hrest⟩
    exact ⟨String.ofList rest, String.ext (by simp [← hrest])⟩

/-! ### Parents -/

/-- A path with a separator has a parent, and is put together from it and the last segment. -/
theorem exists_parent?_of_mem (h : '/' ∈ path.toList) : ∃ parent, parent? path = some parent ∧
    path = parent ++ "/" ++ last path ∧ segments path = segments parent ++ [last path] ∧
      isWithin path parent = true := by
  rcases isSegment_or_exists_child path with hsegment | ⟨parent, name, hname, rfl⟩
  · exact absurd h hsegment
  · refine ⟨parent, parent?_child parent hname, ?_, ?_, isWithin_child parent name⟩
    · rw [last_child parent hname, child]
    · rw [segments_child, segments_of_isSegment hname, last_child parent hname]

/-! ### Roots -/

/-- The place of the component schemas with a separator after it. -/
theorem base_append : base ++ "/" = "#/components/schemas/" := by decide

theorem segments_base : segments base = ["#", "components", "schemas"] := by decide +kernel

theorem isBelowBase_iff : IsBelowBase path ↔ "#/components/schemas/".toList <+: path.toList := by
  refine ⟨?_, ?_⟩
  · rintro ⟨name, rfl⟩
    rw [child, base_append, String.toList_append]
    exact List.prefix_append _ _
  · rintro ⟨rest, hrest⟩
    refine ⟨String.ofList rest, String.ext ?_⟩
    rw [child, base_append, String.toList_append, ← hrest]
    exact congrArg _ String.toList_ofList.symm

/-- Below the component schemas, the root of a path ends with the next segment. -/
theorem exists_root_eq (h : IsBelowBase path) : ∃ segment, (segments path)[3]? = some segment ∧
    root path = "#/components/schemas/" ++ segment := by
  obtain ⟨name, rfl⟩ := h
  refine ⟨firstSegment name, ?_, ?_⟩
  · rw [segments_child, segments_base, ← head?_segments, List.head?_eq_getElem?]
    rfl
  · rw [root_child_base, child, base_append]

theorem root_root (path : String) : root (root path) = root path := by
  cases h : (base.toList ++ ['/']).isPrefixOf? path.toList with
  | none => simp [root, h]
  | some rest =>
    rw [root_of_isPrefixOf? h, root_child_base,
      firstSegment_of_isSegment (isSegment_firstSegment _)]

theorem bytes_firstSegment (name : String) :
    bytes (firstSegment name) = (bytes name).take ((bytes name).findIdx (· == 47)) := by
  have hbyte : UInt8.ofNat '/'.toNat = 47 := rfl
  have hnot : (fun b : UInt8 => !(b != 47)) = (· == 47) := by
    funext b
    rw [bne, Bool.not_not]
  rw [firstSegment, bytes_takeWhile (by decide), hbyte, List.takeWhile_eq_take_findIdx_not, hnot]

/-- Below the component schemas, the bytes of a root are those of the path up to the next
separator. -/
theorem bytes_root (h : IsBelowBase path) : bytes (root path) =
    (bytes path).take (21 + ((bytes path).drop 21).findIdx (· == 47)) := by
  obtain ⟨name, rfl⟩ := h
  have hlength : (bytes "#/components/schemas/").length = 21 := by decide +kernel
  rw [root_child_base, child, child, base_append, bytes_append, bytes_append, ← hlength,
    List.drop_left, List.take_length_add_append, bytes_firstSegment]

/-- **Places of schemas.**  A path lies within another exactly if it begins with the other's
segments, which can be told by their bytes; this is a partial order.  A path with a separator is its
parent and its last segment with a separator between them, and lies within its parent.  Below the
component schemas, a root ends with the next segment of the path, however many bytes that has; the
path lies within its root, which is its own root, and of the paths there those lie within it that
have this root. -/
theorem paths_of_segments (p r : String) :
    (isWithin p r = true ↔ segments r <+: segments p) ∧
      (isWithin p r = true ↔ bytes p = bytes r ∨ bytes (r ++ "/") <+: bytes p) ∧
      IsPartialOrder String (isWithin · · = true) ∧
      ('/' ∈ p.toList → ∃ parent, parent? p = some parent ∧ p = parent ++ "/" ++ last p ∧
        segments p = segments parent ++ [last p] ∧ isWithin p parent = true) ∧
      ("#/components/schemas/".toList <+: p.toList →
        (∃ segment, (segments p)[3]? = some segment ∧
          root p = "#/components/schemas/" ++ segment) ∧
        bytes (root p) = (bytes p).take (21 + ((bytes p).drop 21).findIdx (· == 47)) ∧
        isWithin p (root p) = true ∧ root (root p) = root p ∧
        ∀ q, "#/components/schemas/".toList <+: q.toList →
          (isWithin q (root p) = true ↔ root q = root p)) := by
  refine ⟨isWithin_iff_isPrefix, isWithin_iff_bytes, ?_, exists_parent?_of_mem, fun hp => ?_⟩
  · exact { refl := isWithin_self, trans := fun _ _ _ => isWithin_trans,
            antisymm := fun _ _ => isWithin_antisymm }
  · have hbelow := isBelowBase_iff.mpr hp
    exact ⟨exists_root_eq hbelow, bytes_root hbelow, isWithin_root p, root_root p,
      fun q hq => isWithin_root_iff hbelow (isBelowBase_iff.mpr hq)⟩

/-- The name of a schema has letters of more than one byte, and an empty segment comes after it.  A
path that continues the name without a separator has another root. -/
theorem emptySegment_placed :
    let p := "#/components/schemas/Été//b"
    let q := "#/components/schemas/Étés"
    '/' ∈ p.toList ∧ "#/components/schemas/".toList <+: p.toList ∧
      "#/components/schemas/".toList <+: q.toList ∧
      segments p = ["#", "components", "schemas", "Été", "", "b"] ∧
      isWithin p "#/components/schemas/Été/" = true ∧
      p = "#/components/schemas/Été/" ++ "/" ++ last p ∧
      root p = "#/components/schemas/Été" ∧ bytes (root p) = (bytes p).take 26 ∧
      isWithin q (root p) = false := by
  intro p q
  have hslash : '/' ∈ p.toList := by decide +kernel
  have hp : "#/components/schemas/".toList <+: p.toList := by decide +kernel
  have hq : "#/components/schemas/".toList <+: q.toList := by decide +kernel
  have hsegments : segments p = ["#", "components", "schemas", "Été", "", "b"] := by decide +kernel
  have habove : parent? p = some "#/components/schemas/Été/" := by decide +kernel
  have hend : 21 + ((bytes p).drop 21).findIdx (· == 47) = 26 := by decide +kernel
  obtain ⟨hwithin, -, -, hparent, hbelow⟩ := paths_of_segments p "#/components/schemas/Été/"
  obtain ⟨parent, hparent, htext, -, -⟩ := hparent hslash
  obtain ⟨⟨segment, hsegment, hroot⟩, hbytes, -, -, hothers⟩ := hbelow hp
  obtain rfl : parent = "#/components/schemas/Été/" := Option.some.inj (hparent.symm.trans habove)
  obtain rfl : "Été" = segment := Option.some.inj ((congrArg (·[3]?) hsegments).symm.trans hsegment)
  refine ⟨hslash, hp, hq, hsegments, hwithin.mpr (by decide +kernel), htext, ?_, ?_, ?_⟩
  · exact hroot.trans (by decide)
  · rw [hbytes, hend]
  · rw [Bool.eq_false_iff, ne_eq, hothers q hq]
    decide +kernel

end SchemaBeans.Schema.Path

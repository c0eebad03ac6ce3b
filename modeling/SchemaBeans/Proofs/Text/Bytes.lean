import Mathlib.Data.List.Basic
import Mathlib.Data.List.TakeWhile

/-!
# Text — bytes

Texts are compared and cut byte by byte, and that comes to the same as character by character.  The
bytes of a character tell where they end (`eq_of_encode_append`), so a text begins with another one
exactly if its bytes do (`bytes_isPrefix_iff`).  The byte of an ASCII character is found in that
character only (`ofNat_mem_encode_iff`), so what comes before the first such byte are the bytes of
what comes before the first such character (`bytes_takeWhile`).
-/

namespace SchemaBeans.Text

/-- The bytes of a text. -/
def bytes (text : String) : List UInt8 := text.toUTF8.data.toList

variable {c d : Char} {cs ds : List Char} {bs bs' : List UInt8} {text text' : String}

/-- A text is encoded character by character. -/
theorem bytes_eq_flatMap (text : String) :
    bytes text = text.toList.flatMap String.utf8EncodeChar := by
  rw [bytes, String.toUTF8, ← String.utf8Encode_toList, List.utf8Encode, List.data_toByteArray]

theorem bytes_injective : Function.Injective bytes := fun _ _ h =>
  String.toByteArray_inj.mp (ByteArray.ext (Array.toList_inj.mp h))

/-- Texts one after the other are encoded one after the other. -/
theorem bytes_append (text text' : String) : bytes (text ++ text') = bytes text ++ bytes text' := by
  simp only [bytes_eq_flatMap, String.toList_append, List.flatMap_append]

/-! ### Beginnings -/

/-- No encoded character begins like another one. -/
theorem eq_of_encode_append
    (h : String.utf8EncodeChar c ++ bs = String.utf8EncodeChar d ++ bs') : c = d := by
  have hdecode := congrArg (fun l : List UInt8 => l.toByteArray.utf8DecodeChar? 0) h
  simpa [List.toByteArray_append, ByteArray.utf8DecodeChar?_utf8EncodeChar_append] using hdecode

/-- So what begins alike when it is encoded begins alike. -/
theorem isPrefix_of_flatMap_encode
    (h : cs.flatMap String.utf8EncodeChar <+: ds.flatMap String.utf8EncodeChar) : cs <+: ds := by
  induction cs generalizing ds with
  | nil => exact List.nil_prefix
  | cons c cs ih =>
    obtain ⟨bs, hbs⟩ := h
    cases ds with
    | nil => simp at hbs
    | cons d ds =>
      rw [List.flatMap_cons, List.flatMap_cons, List.append_assoc] at hbs
      obtain rfl := eq_of_encode_append hbs
      exact List.cons_prefix_cons.mpr ⟨rfl, ih ⟨bs, List.append_cancel_left hbs⟩⟩

/-- A text begins with another one if its bytes begin with the other's. -/
theorem bytes_isPrefix_iff : bytes text <+: bytes text' ↔ text.toList <+: text'.toList := by
  rw [bytes_eq_flatMap, bytes_eq_flatMap]
  refine ⟨isPrefix_of_flatMap_encode, ?_⟩
  rintro ⟨cs, hcs⟩
  rw [← hcs, List.flatMap_append]
  exact List.prefix_append _ _

/-! ### ASCII characters -/

section Ascii

variable (hc : c.toNat < 128)
include hc

/-- In ASCII a character is one byte, its code. -/
theorem encode_of_ascii : String.utf8EncodeChar c = [UInt8.ofNat c.toNat] := by
  have hval : c.val.toNat ≤ 127 := Nat.le_of_lt_succ hc
  rw [String.utf8EncodeChar, if_pos hval]
  rfl

/-- All bytes of a longer character are above those of ASCII. -/
theorem ofNat_mem_encode_iff : UInt8.ofNat c.toNat ∈ String.utf8EncodeChar d ↔ d = c := by
  have hval (c : Char) : c.val.toNat = c.toNat := rfl
  rw [← Char.toNat_inj]
  simp only [String.utf8EncodeChar, hval]
  split_ifs <;> simp [← UInt8.toNat_inj] <;> omega

/-- A text is cut before an ASCII character where its bytes are cut before that byte. -/
theorem bytes_takeWhile (text : String) :
    bytes (String.ofList (text.toList.takeWhile (· != c))) =
      (bytes text).takeWhile (· != UInt8.ofNat c.toNat) := by
  rw [bytes_eq_flatMap, bytes_eq_flatMap, String.toList_ofList]
  generalize text.toList = cs
  induction cs with
  | nil => rfl
  | cons d ds ih =>
    rw [List.flatMap_cons, List.takeWhile_cons]
    by_cases hd : d = c
    · rw [hd, encode_of_ascii hc, if_neg (by simp), List.singleton_append,
        List.takeWhile_cons_of_neg (by simp)]
      rfl
    · have hbytes : ∀ b ∈ String.utf8EncodeChar d, (b != UInt8.ofNat c.toNat) = true :=
        fun b hb => bne_iff_ne.mpr fun h => hd ((ofNat_mem_encode_iff hc).mp (h ▸ hb))
      rw [List.takeWhile_append_of_pos hbytes, ← ih, if_pos (bne_iff_ne.mpr hd), List.flatMap_cons]

end Ascii

end SchemaBeans.Text

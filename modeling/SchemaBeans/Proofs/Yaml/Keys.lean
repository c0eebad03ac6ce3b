import Mathlib.Data.List.Nodup
import SchemaBeans.Proofs.Yaml.Depth

/-!
# Documents — the keys of mappings

No mapping of a document that was read has the same text twice among its keys, at any level
(`keyed_of_read`): a mapping with a key twice is not composed, and carrying out a merge key adds
an entry only where its key is missing.

So the value of a text does not depend on the order of entries (`Node.find?_perm`): it is the value
of the one entry that has the text for its key (`Node.find?_eq_some_iff`).
-/

namespace SchemaBeans.Yaml

namespace Node

/-! ### Keys that are texts -/

/-- The text that a key is. -/
def textKey? : Node → Option String
  | .string s => some s
  | .null | .bool _ | .number _ | .sequence _ | .mapping _ | .tagged _ _ => none

/-- The keys that are texts. -/
def textKeys {α : Type} (entries : List (Node × α)) : List String :=
  entries.filterMap fun entry => entry.1.textKey?

section Keys

variable {α : Type} {k v : Node} {s : String} {entries others : List (Node × α)}

theorem textKey?_eq_some_iff : k.textKey? = some s ↔ k = .string s := by
  cases k <;> simp [textKey?]

theorem isString_iff : k.isString s = true ↔ k = .string s := by
  cases k <;> simp [isString]

theorem isSame_string_iff : k.isSame (.string s) = true ↔ k = .string s := by
  cases k <;> simp [isSame]

theorem mem_textKeys_iff : s ∈ textKeys entries ↔ ∃ a, (Node.string s, a) ∈ entries := by
  simp [textKeys, textKey?_eq_some_iff]

theorem hasKey_string_iff : hasKey (.string s) entries = true ↔ s ∈ textKeys entries := by
  simp [hasKey, isSame_string_iff, mem_textKeys_iff]

theorem textKeys_append : textKeys (entries ++ others) = textKeys entries ++ textKeys others :=
  List.filterMap_append

/-- The keys that are texts are those among the keys. -/
theorem textKeys_congr {β : Type} {others : List (Node × β)}
    (h : entries.map Prod.fst = others.map Prod.fst) : textKeys entries = textKeys others := by
  have hkeys : ∀ {γ : Type} (es : List (Node × γ)),
      textKeys es = (es.map Prod.fst).filterMap textKey? := fun es => by
    rw [List.filterMap_map]
    rfl
  rw [hkeys, hkeys, h]

/-- Among entries in which no key occurs twice, no text does. -/
theorem nodup_textKeys_of_hasDuplicates (h : hasDuplicates entries = false) :
    (textKeys entries).Nodup := by
  induction entries with
  | nil => exact List.nodup_nil
  | cons entry entries ih =>
    obtain ⟨k, a⟩ := entry
    simp only [hasDuplicates, Bool.or_eq_false_iff] at h
    cases hk : k.textKey? with
    | none => simpa only [textKeys, List.filterMap_cons, hk] using ih h.2
    | some s =>
      obtain rfl := textKey?_eq_some_iff.mp hk
      simp only [textKeys, List.filterMap_cons, hk, List.nodup_cons]
      refine ⟨fun hs => ?_, ih h.2⟩
      rw [hasKey_string_iff.mpr hs] at h
      cases h.1

/-- The value of a text is that of the entry with the text for its key. -/
theorem find?_eq_some_iff {entries : List (Node × Node)} (h : (textKeys entries).Nodup) :
    find? s entries = some v ↔ (Node.string s, v) ∈ entries := by
  induction entries with
  | nil => simp [find?]
  | cons entry entries ih =>
    obtain ⟨k, w⟩ := entry
    rw [find?, List.mem_cons, Prod.mk.injEq]
    by_cases hk : k = .string s
    · subst hk
      have hs : s ∉ textKeys entries := (List.nodup_cons.mp h).1
      have hv : (Node.string s, v) ∉ entries := fun hv => hs (mem_textKeys_iff.mpr ⟨v, hv⟩)
      simp [isString, hv, eq_comm]
    · have h' : (textKeys entries).Nodup := by
        refine h.sublist ?_
        exact (List.sublist_cons_self _ _).filterMap _
      rw [if_neg (isString_iff.not.mpr hk), ih h']
      simp [Ne.symm hk]

/-- The value of a text does not depend on the order of entries. -/
theorem find?_perm {entries others : List (Node × Node)} (hp : entries.Perm others)
    (h : (textKeys entries).Nodup) (s : String) : find? s entries = find? s others := by
  have h' : (textKeys others).Nodup := (hp.filterMap _).nodup_iff.mp h
  refine Option.ext fun v => ?_
  rw [find?_eq_some_iff h, find?_eq_some_iff h', hp.mem_iff]

end Keys

/-! ### Keys at all levels -/

mutual

/-- No mapping in the node, outside of keys, has a text twice among its keys. -/
def Keyed : Node → Prop
  | .sequence items => AllKeyed items
  | .mapping entries => (textKeys entries).Nodup ∧ ValuesKeyed entries
  | .tagged _ n => n.Keyed
  | .null | .bool _ | .number _ | .string _ => True

/-- So it is in all items. -/
def AllKeyed : List Node → Prop
  | [] => True
  | n :: ns => n.Keyed ∧ AllKeyed ns

/-- So it is in all values. -/
def ValuesKeyed : List (Node × Node) → Prop
  | [] => True
  | (_, v) :: es => v.Keyed ∧ ValuesKeyed es

end

theorem allKeyed_iff {ns : List Node} : AllKeyed ns ↔ ∀ n ∈ ns, n.Keyed := by
  induction ns with
  | nil => simp [AllKeyed]
  | cons n ns ih => simp [AllKeyed, ih]

theorem valuesKeyed_iff {es : List (Node × Node)} :
    ValuesKeyed es ↔ ∀ entry ∈ es, entry.2.Keyed := by
  induction es with
  | nil => simp [ValuesKeyed]
  | cons entry es ih => simp [ValuesKeyed, ih]

theorem keyed_untagged : ∀ {n : Node}, n.Keyed → n.untagged.Keyed
  | .tagged _ n, h => by
    rw [Keyed] at h
    exact keyed_untagged (n := n) h
  | .null, h | .bool _, h | .number _, h | .string _, h | .sequence _, h | .mapping _, h => h

theorem keyed_of_entries? {n : Node} {entries : List (Node × Node)} (hn : n.Keyed)
    (h : n.entries? = some entries) : (Node.mapping entries).Keyed := by
  have hu := keyed_untagged hn
  rw [entries?] at h
  split at h
  · next es he =>
    cases h
    rwa [he] at hu
  · cases h

/-- The value of a text stands beside that text. -/
theorem mem_of_find? {entries : List (Node × Node)} {s : String} {v : Node}
    (h : find? s entries = some v) : (Node.string s, v) ∈ entries := by
  induction entries with
  | nil => cases h
  | cons entry entries ih =>
    obtain ⟨k, w⟩ := entry
    rw [find?] at h
    split at h
    · next hk =>
      cases h
      obtain rfl := isString_iff.mp hk
      exact List.mem_cons_self
    · exact List.mem_cons_of_mem _ (ih h)

/-- A node without depth has no mapping in it. -/
theorem keyed_of_depth : ∀ {n : Node}, n.depth = 0 → n.Keyed
  | .null, _ | .bool _, _ | .number _, _ | .string _, _ => trivial
  | .sequence _, h | .mapping _, h => by simp [depth] at h
  | .tagged _ n, h => by
    rw [depth] at h
    rw [Keyed]
    exact keyed_of_depth h

/-! ### Merge keys -/

/-- An entry is added only where its key is missing. -/
theorem nodup_textKeys_foldl_addMissing {α : Type} {entries sources : List (Node × α)}
    (h : (textKeys entries).Nodup) : (textKeys (sources.foldl addMissing entries)).Nodup := by
  induction sources generalizing entries with
  | nil => exact h
  | cons source sources ih =>
    refine ih ?_
    rw [addMissing]
    split
    · exact h
    · next hkey =>
      rw [textKeys_append, List.nodup_append']
      refine ⟨h, ?_, ?_⟩
      · cases hk : source.1.textKey? <;> simp [textKeys, hk]
      · intro s hs hs'
        obtain ⟨a, ha⟩ := mem_textKeys_iff.mp hs'
        rw [← List.mem_singleton.mp ha] at hkey
        exact hkey (hasKey_string_iff.mpr hs)

/-- The values that may be lifted into a mapping are keyed if its own are. -/
theorem Lifted.keyed {es : List (Node × Node)} {e : Node × Node} (h : Lifted es e)
    (hes : ValuesKeyed es) : e.2.Keyed := by
  rw [valuesKeyed_iff] at hes
  cases h with
  | own he => exact hes _ he
  | mapping hv he => exact valuesKeyed_iff.mp (hes _ hv).2 _ he
  | item hv hm he =>
    have hitems : AllKeyed _ := hes _ hv
    exact valuesKeyed_iff.mp (allKeyed_iff.mp hitems _ hm).2 _ he

/-- Carrying out merge keys makes no text a key twice. -/
theorem merges_keyed : Merges fun n m => n.Keyed → m.Keyed where
  same n h := h
  sequence h hns := by
    rw [Keyed, allKeyed_iff] at hns ⊢
    intro m hm
    obtain ⟨n, hn, himp⟩ := h m hm
    exact himp (hns n hn)
  tagged tag n m h hn := by
    rw [Keyed] at hn ⊢
    exact h hn
  mapping {es fs own sources} hown hfs h hes := by
    have hkeys : textKeys (ownEntries es) = textKeys es :=
      textKeys_congr (by simp [ownEntries_eq_map])
    have hown' : (textKeys own).Nodup := by
      obtain ⟨part, hperm, hsub⟩ := hown
      have hes' : (textKeys (ownEntries es)).Nodup := by
        rw [hkeys]
        exact hes.1
      exact (hperm.filterMap _).nodup_iff.mp (hes'.sublist (hsub.filterMap _))
    have hsame : textKeys fs = textKeys (sources.foldl addMissing own) :=
      textKeys_congr (by simp [hfs])
    refine ⟨hsame ▸ nodup_textKeys_foldl_addMissing hown', valuesKeyed_iff.mpr fun f hf => ?_⟩
    obtain ⟨e, he, -, himp⟩ := h f hf
    exact himp (he.keyed hes.2)

end Node

/-! ### Documents -/

theorem keyed_withTag {tag : Option TagText} {n : Node} (h : n.Keyed) : (withTag tag n).Keyed := by
  rw [withTag]
  split
  · rwa [Node.Keyed]
  · exact h

/-- Composition makes no text a key twice. -/
theorem composes_keyed : Composes fun _ n => n.Keyed where
  scalar hn := Node.keyed_of_depth hn
  sequence h := by
    refine keyed_withTag ?_
    rwa [Node.Keyed, Node.allKeyed_iff]
  mapping hdup h := by
    refine keyed_withTag ?_
    rw [Node.Keyed, Node.valuesKeyed_iff]
    exact ⟨Node.nodup_textKeys_of_hasDuplicates hdup, fun entry he => (h entry he).2⟩

/-- **No mapping of a document that was read has a text twice among its keys.** -/
theorem keyed_of_read {text : String} {document : Node} (h : read text = .ok document) :
    document.Keyed :=
  composes_keyed.read (fun hm hn => Node.merges_keyed.merged? _ hm hn) h

end SchemaBeans.Yaml

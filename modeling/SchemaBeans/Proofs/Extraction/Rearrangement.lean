import SchemaBeans.Proofs.Extraction.Views
import SchemaBeans.Proofs.Yaml.Rearrangement

/-!
# Extraction — documents in another order

A rearrangement of a node leaves its view, and the views of the places below it but for their order
(`Shape.alike_of_rearranges`).  So the component schemas of a rearranged document have places with
the same views (`components_of_rearranged`), and this is all that matters to their extraction.
-/

namespace SchemaBeans.Schema

open Std (ExtTreeSet)
open Yaml (Node)
open Yaml.Node (Corresponds Rearranged Rearranges SameChoices)
open Shape (placesBelow)

namespace Shape

/-! ### Alike shapes -/

/-- The shapes have the same view and, below them, places with the same views. -/
structure Alike (s s' : Shape) : Prop where
  view : s.view = s'.view
  below (path : String) : SameViews (placesBelow path s.visited) (placesBelow path s'.visited)

/-- The members have the same names and places with the same views. -/
structure MembersAlike (members members' : List (String × Shape)) : Prop where
  names : (members.map Prod.fst).Perm (members'.map Prod.fst)
  below (parent : String) : SameViews (placesBelow parent members) (placesBelow parent members')

variable {s s' : Shape} {members members' : List (String × Shape)}

theorem views_append (ps ps' : List (String × Shape)) : views (ps ++ ps') = views ps ++ views ps' :=
  List.map_append

theorem Alike.refl (s : Shape) : s.Alike s := ⟨rfl, fun _ => List.Perm.refl _⟩

/-- Alike shapes have places with the same views, at any path. -/
theorem Alike.places (h : s.Alike s') (path : String) :
    SameViews (places path s) (places path s') := by
  rw [places_eq, places_eq, SameViews, views, views, List.map_cons, List.map_cons, h.view]
  exact (h.below path).cons _

/-- Arrays of alike shapes are alike. -/
theorem Alike.inArray (h : s.Alike s') (description : Option String) :
    (inArray description s).Alike (inArray description s') := by
  obtain ⟨hview, hbelow⟩ := h
  cases s' with
  | faulty fault =>
    rw [eq_faulty_of_view hview]
    exact .refl _
  | valid description' dimensions' element' members' =>
    cases s with
    | faulty fault => cases hview
    | valid description'' dimensions element members =>
      refine ⟨?_, hbelow⟩
      simp only [Shape.view, View.valid.injEq] at hview
      obtain ⟨-, rfl, hrest⟩ := hview
      simp only [Shape.inArray, Shape.view, View.valid.injEq, true_and]
      exact hrest

namespace MembersAlike

theorem refl (members : List (String × Shape)) : MembersAlike members members :=
  ⟨.refl _, fun _ => List.Perm.refl _⟩

theorem trans {members'' : List (String × Shape)} (h : MembersAlike members members')
    (h' : MembersAlike members' members'') : MembersAlike members members'' :=
  ⟨h.names.trans h'.names, fun parent => List.Perm.trans (h.below parent) (h'.below parent)⟩

/-- The places below an object are those of its members. -/
theorem placesBelow_eq (parent : String) (members : List (String × Shape)) :
    placesBelow parent members =
      members.flatMap fun m => Shape.places (Path.child parent m.1) m.2 := by
  induction members with
  | nil => rfl
  | cons m members ih => rw [placesBelow, ih, List.flatMap_cons]

/-- Members in another order are alike. -/
theorem of_perm (h : members.Perm members') : MembersAlike members members' where
  names := h.map _
  below parent := by
    rw [placesBelow_eq, placesBelow_eq]
    exact (h.flatMap_right _).map _

/-- One member may be replaced by one that is alike. -/
theorem replace (name : String) (h : s.Alike s') (before after : List (String × Shape)) :
    MembersAlike (before ++ (name, s) :: after) (before ++ (name, s') :: after) where
  names := by rw [List.map_append, List.map_append]; exact .refl _
  below parent := by
    simp only [placesBelow_eq, List.flatMap_append, List.flatMap_cons, SameViews, views_append]
    exact ((h.places _).append_right _).append_left _

end MembersAlike

/-- Objects, or other schemas, with the same keywords and with members that are alike. -/
theorem Alike.valid {description : Option String} {dimensions : Nat} {e e' : Element}
    (hdecl : e.declaration = e'.declaration) (hdesc : e.description = e'.description)
    (hvalues : ∀ value, value ∈ e.values ↔ value ∈ e'.values)
    (hcount : e.valuesWithoutText = e'.valuesWithoutText) (hrequired : e.required = e'.required)
    (hm : MembersAlike members members') :
    (Shape.valid description dimensions e members).Alike
      (.valid description dimensions e' members') := by
  have hvisited : MembersAlike (Shape.valid description dimensions e members).visited
      (Shape.valid description dimensions e' members').visited := by
    rw [visited, visited, hdecl]
    split
    · exact hm
    · exact .refl _
  refine ⟨?_, hvisited.below⟩
  simp only [Shape.view, View.valid.injEq, hdecl, hdesc, hcount, hrequired, true_and]
  refine ⟨ExtTreeSet.ext_mem fun value => ?_, ExtTreeSet.ext_mem fun name => ?_⟩
  · simp [ExtTreeSet.mem_ofList, hvalues]
  · simp only [ExtTreeSet.mem_ofList, List.contains_eq_mem, hvisited.names.mem_iff]

/-! ### Keywords -/

section Keywords

variable {es fs : List (Node × Node)} {v w : Node} {key : String}

/-- A value that corresponds to a scalar is the same scalar. -/
theorem scalarText?_of_corresponds (h : Corresponds key v w) : v.scalarText? = w.scalarText? := by
  cases h with
  | same => rfl
  | rearranges h => rw [h.scalarText?_eq_none.1, h.scalarText?_eq_none.2]
  | choices _ h => rw [h.scalarText?_eq_none.1, h.scalarText?_eq_none.2]

theorem string?_of_corresponds (h : Corresponds key v w) : v.string? = w.string? := by
  cases h with
  | same => rfl
  | rearranges h => exact h.string?_eq
  | choices _ h => rw [h.string?_eq_none.1, h.string?_eq_none.2]

/-- Items are in the same order, unless they are the values of an enum. -/
theorem itemTexts_of_corresponds (hkey : key ≠ "enum") (h : Corresponds key v w) :
    v.itemTexts = w.itemTexts := by
  cases h with
  | same => rfl
  | rearranges h => exact h.itemTexts_eq
  | choices h => exact absurd h hkey

/-- Choices have the same texts, and as many of them have none. -/
theorem choices_of_corresponds (h : Corresponds "enum" v w) :
    (∀ text, some text ∈ v.itemTexts ↔ some text ∈ w.itemTexts) ∧
      v.itemTexts.countP (·.isNone) = w.itemTexts.countP (·.isNone) := by
  cases h with
  | same => exact ⟨fun _ => .rfl, rfl⟩
  | rearranges h =>
    rw [h.itemTexts_eq]
    exact ⟨fun _ => .rfl, rfl⟩
  | choices _ h => exact h.itemTexts

/-- What corresponding values have in common, look-ups have in common. -/
theorem eq_of_rel {β : Type} {R : Node → Node → Prop} {o o' : Option Node}
    (h : Option.Rel R o o') (f : Option Node → β) (hf : ∀ {v w}, R v w → f (some v) = f (some w)) :
    f o = f o' := by
  cases h with
  | none => rfl
  | some h => exact hf h

theorem map_itemsAt (key : String) (entries : List (Node × Node)) :
    (itemsAt key entries).map Node.scalarText? =
      ((Node.find? key entries).map Node.itemTexts).getD [] := by
  rw [itemsAt]
  cases h : Node.find? key entries with
  | none => rfl
  | some n => rfl

end Keywords

/-! ### Elements -/

section Mapping

variable {es fs : List (Node × Node)}
  (h : ∀ key, Option.Rel (Corresponds key) (Node.find? key es) (Node.find? key fs))

include h

/-- The same keywords are there. -/
theorem isSome_find?_of_corresponds (key : String) :
    (Node.find? key es).isSome = (Node.find? key fs).isSome :=
  eq_of_rel (h key) Option.isSome fun _ => rfl

/-- What is read off a keyword as a text is the same. -/
theorem string?_find?_of_corresponds (key : String) :
    (Node.find? key es).bind Node.string? = (Node.find? key fs).bind Node.string? :=
  eq_of_rel (h key) (·.bind Node.string?) string?_of_corresponds

theorem kind_of_corresponds : kind es = kind fs := by
  have huntyped : untypedKind es = untypedKind fs := by
    simp only [untypedKind, composition?, string?_find?_of_corresponds h,
      isSome_find?_of_corresponds h]
  have htype := h "type"
  rw [kind, kind, huntyped]
  generalize Node.find? "type" es = o at htype ⊢
  generalize Node.find? "type" fs = o' at htype ⊢
  cases htype with
  | none => rfl
  | some hvw => simp only [scalarText?_of_corresponds hvw]

theorem description?_of_corresponds : description? es = description? fs :=
  string?_find?_of_corresponds h "description"

/-- The same names are required, in the same order. -/
theorem required_of_corresponds (declaration : Declaration) :
    (elementOf declaration es).required = (elementOf declaration fs).required := by
  have htexts : (itemsAt "required" es).map Node.scalarText? =
      (itemsAt "required" fs).map Node.scalarText? := by
    rw [map_itemsAt, map_itemsAt]
    exact eq_of_rel (h "required") (fun o => (o.map Node.itemTexts).getD [])
      (itemTexts_of_corresponds (by decide))
  have hids : ∀ items : List Node,
      items.filterMap Node.scalarText? = (items.map Node.scalarText?).filterMap id := by
    intro items
    rw [List.filterMap_map]
    rfl
  rw [elementOf, elementOf, hids, hids, htexts]

/-- The choices of corresponding elements have the same texts, and as many have none. -/
theorem allowed_of_corresponds (declaration : Declaration) :
    (∀ value, value ∈ (elementOf declaration es).values ↔
        value ∈ (elementOf declaration fs).values) ∧
      (elementOf declaration es).valuesWithoutText =
        (elementOf declaration fs).valuesWithoutText := by
  simp only [elementOf, Element.values, Element.valuesWithoutText, map_itemsAt, List.mem_filterMap,
    id_eq, exists_eq_right]
  have henum := h "enum"
  generalize Node.find? "enum" es = o at henum ⊢
  generalize Node.find? "enum" fs = o' at henum ⊢
  cases henum with
  | none => exact ⟨fun _ => .rfl, rfl⟩
  | some h => exact choices_of_corresponds h

/-- Elements that correspond have alike shapes, if their members are alike, and arrays if their
items are. -/
theorem alike_of_corresponds {m n : Node} (hm : m.entries? = some es) (hn : n.entries? = some fs)
    (hitems : Option.Rel (fun v w => (ofNode v).Alike (ofNode w)) (Node.find? "items" es)
      (Node.find? "items" fs))
    (hmembers : MembersAlike (ofEntries (memberEntries es)) (ofEntries (memberEntries fs))) :
    (ofNode m).Alike (ofNode n) := by
  rw [ofNode_of_entries? hm, ofNode_of_entries? hn, kind_of_corresponds h,
    description?_of_corresponds h]
  cases kind fs with
  | faulty fault => exact .refl _
  | element declaration =>
    obtain ⟨hvalues, hcount⟩ := allowed_of_corresponds h declaration
    exact .valid rfl (description?_of_corresponds h) hvalues hcount
      (required_of_corresponds h declaration) hmembers
  | array =>
    generalize Node.find? "items" es = o at hitems ⊢
    generalize Node.find? "items" fs = o' at hitems ⊢
    cases hitems with
    | none => exact .refl _
    | some h => exact h.inArray _

end Mapping

/-! ### Nodes -/

section Nodes

variable {es fs : List (Node × Node)} {m n : Node}

/-- An entry is a member at its place among the others, or none if its key has no text. -/
theorem ofEntries_insert (before after : List (Node × Node)) (k v : Node) :
    ofEntries (before ++ (k, v) :: after) =
      match k.scalarText? with
      | none => ofEntries before ++ ofEntries after
      | some name => ofEntries before ++ (name, ofNode v) :: ofEntries after := by
  simp only [ofEntries_eq, List.filterMap_append, List.filterMap_cons]
  cases k.scalarText? <;> rfl

theorem ofEntries_memberEntries (entries : List (Node × Node)) :
    ofEntries (memberEntries entries) =
      ((Node.find? "properties" entries).map membersOf).getD [] := by
  rw [memberEntries]
  cases Node.find? "properties" entries with
  | none => rfl
  | some n => exact (membersOf_eq n).symm

/-- Rearranged entries have alike shapes, if rearranged values do. -/
theorem membersAlike_ofEntries (h : Rearranges (.mapping es) (.mapping fs))
    (hvalues : ∀ entry ∈ es, ∀ w, Rearranges entry.2 w → (ofNode entry.2).Alike (ofNode w)) :
    MembersAlike (ofEntries es) (ofEntries fs) := by
  cases h with
  | entries h =>
    refine .of_perm ?_
    rw [ofEntries_eq, ofEntries_eq]
    exact h.filterMap _
  | choices before after h =>
    rw [ofEntries_insert, ofEntries_insert, ofNode_of_entries?_eq_none h.entries?_eq_none.1,
      ofNode_of_entries?_eq_none h.entries?_eq_none.2]
    exact .refl _
  | key v before after h =>
    rw [ofEntries_insert, ofEntries_insert, h.scalarText?_eq_none.1, h.scalarText?_eq_none.2]
    exact .refl _
  | value k before after h =>
    rw [ofEntries_insert, ofEntries_insert]
    cases k.scalarText? with
    | none => exact .refl _
    | some name =>
      exact .replace name (hvalues _ (List.mem_append_right _ List.mem_cons_self) _ h) _ _

/-- **Rearrangement.**  A rearranged node has an alike shape, and so have its members. -/
theorem alike_of_rearranges (h : Rearranges m n) (hm : m.Keyed) :
    (ofNode m).Alike (ofNode n) ∧ MembersAlike (membersOf m) (membersOf n) := by
  -- the values of a mapping are less deep than the mapping
  induction hdepth : m.depth using Nat.strongRecOn generalizing m n with
  | _ depth ih =>
    rw [membersOf_eq, membersOf_eq]
    rcases h.exists_entries? with ⟨hes, hfs⟩ | ⟨es, fs, hes, hfs, h⟩
    · rw [ofNode_of_entries?_eq_none hes, ofNode_of_entries?_eq_none hfs, hes, hfs]
      exact ⟨.refl _, .refl _⟩
    · have hkeyed := Node.keyed_of_entries? hm hes
      have hvalue : ∀ entry ∈ es, ∀ w, Rearranges entry.2 w →
          (ofNode entry.2).Alike (ofNode w) ∧ MembersAlike (membersOf entry.2) (membersOf w) := by
        intro entry he w hw
        refine ih entry.2.depth ?_ hw (Node.valuesKeyed_iff.mp hkeyed.2 entry he) rfl
        have hlt := (Node.depthOfEntries_le_iff.mp (Nat.le_refl _) entry he).2
        have hes' := depth_of_entries? hes
        omega
      have hat : ∀ key ≠ "enum", Option.Rel (fun v w => (ofNode v).Alike (ofNode w) ∧
          MembersAlike (membersOf v) (membersOf w)) (Node.find? key es) (Node.find? key fs) := by
        intro key hkey
        refine Node.rel_imp_of_mem (h.find?_of_ne hkeyed hkey) fun v hv w hvw => ?_
        rcases hvw with rfl | ⟨-, hvw⟩
        · exact ⟨.refl _, .refl _⟩
        · exact hvalue _ (Node.mem_of_find? hv) w hvw
      refine ⟨alike_of_corresponds (h.find? hkeyed) hes hfs ?_ ?_, ?_⟩
      · exact Node.rel_imp_of_mem (hat "items" (by decide)) fun _ _ _ h => h.1
      · rw [ofEntries_memberEntries, ofEntries_memberEntries]
        have hproperties := hat "properties" (by decide)
        generalize Node.find? "properties" es = o at hproperties ⊢
        generalize Node.find? "properties" fs = o' at hproperties ⊢
        cases hproperties with
        | none => exact .refl _
        | some h => exact h.2
      · rw [hes, hfs]
        exact membersAlike_ofEntries h fun entry he w hw => (hvalue entry he w hw).1

end Nodes

end Shape

/-! ### Documents -/

/-- Neither document has component schemas, for the same reason, or both have as many, which are
alike. -/
inductive ComponentsAlike : Except Absence (List (Node × Node)) →
    Except Absence (List (Node × Node)) → Prop where
  | absent (absence : Absence) : ComponentsAlike (.error absence) (.error absence)
  | schemas {es fs : List (Node × Node)}
      (h : Shape.MembersAlike (Shape.ofEntries es) (Shape.ofEntries fs))
      (hlength : es.length = fs.length) : ComponentsAlike (.ok es) (.ok fs)

namespace ComponentsAlike

theorem refl : ∀ r, ComponentsAlike r r
  | .error absence => .absent absence
  | .ok _ => .schemas (.refl _) rfl

theorem trans {r r' r'' : Except Absence (List (Node × Node))} (h : ComponentsAlike r r')
    (h' : ComponentsAlike r' r'') : ComponentsAlike r r'' := by
  cases h with
  | absent absence => exact h'
  | schemas h hlength =>
    cases h' with
    | schemas h' hlength' => exact .schemas (h.trans h') (hlength.trans hlength')

end ComponentsAlike

/-- Rearranged component schemas are alike. -/
theorem ComponentsAlike.of_rearranges {es fs : List (Node × Node)}
    (h : Rearranges (.mapping es) (.mapping fs)) (hk : (Node.mapping es).Keyed) :
    ComponentsAlike (.ok es) (.ok fs) :=
  .schemas (Shape.alike_of_rearranges h hk).2 h.length_eq

/-- One rearrangement of a document leaves its component schemas alike. -/
theorem components_of_rearranges {d d' : Node} (h : Rearranges d d') (hd : d.Keyed) :
    ComponentsAlike (components d) (components d') := by
  have hsections := h.get?_of_ne hd (show "components" ≠ "enum" by decide)
  rw [components, components]
  generalize d.get? "components" = o at hsections ⊢
  generalize d'.get? "components" = o' at hsections ⊢
  cases hsections with
  | none => exact .absent _
  | @some v w hvw =>
    rcases hvw with rfl | ⟨hv, hvw⟩
    · exact .refl _
    rcases hvw.exists_entries? with ⟨hes, hfs⟩ | ⟨es, fs, hes, hfs, hmapping⟩
    · simp only [hes, hfs]
      exact .absent _
    simp only [hes, hfs]
    have hschemas := hmapping.find?_of_ne (Node.keyed_of_entries? hv hes)
      (show "schemas" ≠ "enum" by decide)
    generalize Node.find? "schemas" es = o at hschemas ⊢
    generalize Node.find? "schemas" fs = o' at hschemas ⊢
    cases hschemas with
    | none => exact .absent _
    | some hxy =>
      rcases hxy with rfl | ⟨hx, hxy⟩
      · exact .refl _
      cases hxy with
      | item | tag => exact .absent _
      | entries h => exact .of_rearranges (.entries h) hx
      | choices before after h => exact .of_rearranges (.choices before after h) hx
      | key v before after h => exact .of_rearranges (.key v before after h) hx
      | value k before after h => exact .of_rearranges (.value k before after h) hx

/-- **Rearranged documents** have alike component schemas. -/
theorem components_of_rearranged {d d' : Node} (h : Rearranged d d') (hd : d.Keyed) :
    ComponentsAlike (components d) (components d') := by
  induction h with
  | refl => exact .refl _
  | tail h h' ih => exact ih.trans (components_of_rearranges h' (Rearranged.keyed h hd))

end SchemaBeans.Schema

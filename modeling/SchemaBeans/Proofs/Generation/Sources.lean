import SchemaBeans.Proofs.Extraction.Names
import SchemaBeans.Proofs.Files.Writes
import SchemaBeans.Proofs.Generation.Accepted
import SchemaBeans.Proofs.Generation.Events
import SchemaBeans.Proofs.Generation.Untouched
import SchemaBeans.Proofs.Java.Sources

/-!
# Generation — what is in the file of a name

A run that succeeds ends with writing the sources of the package one after the other, and writes
nothing before (`exists_writeAll_of_generate`).  The names of types have no slash, whatever the
names in the document, so each source is a file of its own in the store directory, which holds the
last source of its name (`status_writeAll`).

Of the types of one name the later one is said to win.  It does among the classes, and among the
enums.  But where a class and an enum have the name there are two sources, and that of the enum
comes last: the enum stays even where the class is later (`sources_of_generate`,
`lateClass_overwritten`).
-/

namespace SchemaBeans.Generation

open Files (Entry System)
open Files.Path (IsFileName)
open Journal (Event WritesNothing)
open Schema (Model SchemaType)

variable {output package text directory name name' path : String} {force : Bool} {s : System}
  {sources : List (String × String)} {paths : List String}

/-! ### Writing sources -/

/-- A source has a file name, if its type's name has no slash. -/
theorem isFileName_source (h : '/' ∉ name.toList) :
    IsFileName (name ++ "." ++ sourceExtension) := by
  have hne : ∀ short : String, short.toList.length < 5 →
      name ++ "." ++ sourceExtension ≠ short := by
    rintro short hshort rfl
    simp [sourceExtension] at hshort
  refine ⟨?_, hne _ (by decide), hne _ (by decide), hne _ (by decide)⟩
  simpa [sourceExtension] using h

theorem sourceName_injective
    (h : name ++ "." ++ sourceExtension = name' ++ "." ++ sourceExtension) : name = name' := by
  have hlist := congrArg String.toList h
  simp only [String.toList_append, List.append_assoc, List.append_cancel_right_eq] at hlist
  exact String.ext hlist

theorem sourcePath_injective (h : '/' ∉ name.toList) (h' : '/' ∉ name'.toList)
    (he : sourcePath directory name = sourcePath directory name') : name = name' := by
  have hlist := congrArg String.toList he
  rw [sourcePath, sourcePath, Files.Path.toList_join (isFileName_source h),
    Files.Path.toList_join (isFileName_source h'), List.append_cancel_left_eq] at hlist
  exact sourceName_injective (String.ext hlist)

/-- Sources that have been written: the first one was, and then the others. -/
theorem exists_of_writeAll_cons {source : String × String}
    (h : (writeAll directory s (source :: sources)).result = .ok paths) :
    ∃ s' paths', s.write (sourcePath directory source.1) (Files.encode source.2) = .ok s' ∧
      (writeAll directory s' sources).result = .ok paths' ∧
      (writeAll directory s (source :: sources)).system = (writeAll directory s' sources).system ∧
      (writeAll directory s (source :: sources)).events =
        .wrote (sourcePath directory source.1) :: (writeAll directory s' sources).events := by
  rw [writeAll_cons] at h ⊢
  cases hw : s.write (sourcePath directory source.1) (Files.encode source.2) with
  | error fault => simp [hw] at h
  | ok s' =>
    simp only [hw] at h ⊢
    cases hr : (writeAll directory s' sources).result with
    | error error => simp [hr, Except.map] at h
    | ok paths' => exact ⟨s', paths', rfl, hr, rfl, rfl⟩

/-- Each source that is written has its entry. -/
theorem events_writeAll (h : (writeAll directory s sources).result = .ok paths) :
    (writeAll directory s sources).events =
      sources.map fun source => .wrote (sourcePath directory source.1) := by
  induction sources generalizing s paths with
  | nil => rfl
  | cons source sources ih =>
    obtain ⟨s', paths', -, hrest, -, hevents⟩ := exists_of_writeAll_cons h
    rw [hevents, ih hrest, List.map_cons]

/-- **The last source stays.**  When sources have been written, the file of a name holds the last
source of the name, and is as it was if there is none. -/
theorem status_writeAll (hnames : ∀ source ∈ sources, '/' ∉ source.1.toList)
    (h : (writeAll directory s sources).result = .ok paths) (hname : '/' ∉ name.toList) :
    (writeAll directory s sources).system.status (sourcePath directory name) =
      match Java.sourceOf? sources name with
      | some source => .ok (.file (Files.encode source))
      | none => s.status (sourcePath directory name) := by
  induction sources generalizing s paths with
  | nil => rfl
  | cons source sources ih =>
    obtain ⟨s', paths', hwrite, hrest, hsystem, -⟩ := exists_of_writeAll_cons h
    rw [List.forall_mem_cons] at hnames
    rw [hsystem, ih hnames.2 hrest, Java.sourceOf?_cons]
    cases Java.sourceOf? sources name with
    | some last => rfl
    | none =>
      by_cases hsame : source.1 = name
      · subst hsame
        rw [if_pos rfl]
        exact System.status_of_write (isFileName_source hname) hwrite
      · rw [if_neg hsame]
        exact System.status_of_write_of_ne (isFileName_source hnames.1) (isFileName_source hname)
          (fun he => hsame (sourceName_injective he).symm) hwrite

/-- A file is written once for each source of its name. -/
theorem count_writeAll (hnames : ∀ source ∈ sources, '/' ∉ source.1.toList)
    (h : (writeAll directory s sources).result = .ok paths) (hname : '/' ∉ name.toList) :
    (writeAll directory s sources).events.count (.wrote (sourcePath directory name)) =
      (sources.map Prod.fst).count name := by
  rw [events_writeAll h, List.count, List.count, List.countP_map, List.countP_map]
  refine List.countP_congr fun source hsource => ?_
  simp only [Function.comp_apply, beq_iff_eq, Event.wrote.injEq]
  exact ⟨sourcePath_injective (hnames source hsource) hname, fun he => he ▸ rfl⟩

/-! ### Runs -/

theorem writesNothing_deleteAll : ∀ (s : System) (paths : List String),
    WritesNothing (deleteAll s paths).events
  | _, [] => Journal.writesNothing_nil
  | s, path :: paths => by
    rw [deleteAll]
    split
    · exact Journal.writesNothing_nil
    · simp [writesNothing_deleteAll]

theorem writesNothing_prepare (directory : String) (force : Bool) (s : System) :
    WritesNothing (prepare directory force s).events := by
  have hclean : WritesNothing (clean directory force s).events := by
    rw [clean]
    split
    · exact Journal.writesNothing_nil
    · split
      · simp
      · split
        · rw [Effect.andThen]
          split <;> simp [writesNothing_deleteAll]
        · exact Journal.writesNothing_nil
  rw [prepare]
  split
  · exact hclean
  · exact Journal.writesNothing_nil
  · split <;> simp
  · exact Journal.writesNothing_nil

/-- Writing a package ends with writing its sources, and writes nothing before. -/
theorem exists_writeAll_of_writePackage {p : Java.Package} {stats : Stats} {written : Written}
    (h : (writePackage output package force p stats s).result = .ok written) :
    ∃ s' paths earlier,
      (writeAll (storeDirectory output package) s' p.sources).result = .ok paths ∧
      (writePackage output package force p stats s).system =
        (writeAll (storeDirectory output package) s' p.sources).system ∧
      WritesNothing earlier ∧ (writePackage output package force p stats s).events =
        earlier ++ (writeAll (storeDirectory output package) s' p.sources).events := by
  have hempty : WritesNothing (if p.isEmpty then [Event.emptyPackage p.name] else []) := by
    split <;> simp
  simp only [writePackage] at h ⊢
  obtain ⟨removed, hprepare, h⟩ := Effect.exists_of_andThen_eq_ok h
  obtain ⟨paths, hpaths, -⟩ := Effect.exists_of_andThen_eq_ok h
  refine ⟨_, paths, _, hpaths, ?_, Journal.writesNothing_append.mpr
    ⟨hempty, writesNothing_prepare (storeDirectory output package) force s⟩, ?_⟩
  · rw [(Effect.andThen_of_ok _ hprepare).1, (Effect.andThen_of_ok _ hpaths).1]
  · rw [Effect.events_andThen_of_ok _ hprepare, Effect.events_andThen_of_ok _ hpaths,
      List.append_nil, List.append_assoc]

/-- A run that succeeds ends with writing the sources of the package, and writes nothing before. -/
theorem exists_writeAll_of_generate {stats : Stats}
    (h : (generate output package force text s).result = .ok stats) :
    ∃ product s' paths earlier, (translate package text).result = .ok product ∧
      (writeAll (storeDirectory output package) s' product.package.sources).result = .ok paths ∧
      (generate output package force text s).system =
        (writeAll (storeDirectory output package) s' product.package.sources).system ∧
      WritesNothing earlier ∧
      (generate output package force text s).events = earlier ++
        (writeAll (storeDirectory output package) s' product.package.sources).events := by
  cases ht : (translate package text).result with
  | error error =>
    rw [(generate_of_error output force s ht).1] at h
    cases h
  | ok product =>
    obtain ⟨hresult, hsystem⟩ := generate_of_ok output force s ht
    cases hw : (writePackage output package force product.package product.stats s).result with
    | error error =>
      rw [hresult, hw] at h
      cases h
    | ok written =>
      obtain ⟨s', paths, earlier, hpaths, hend, hnothing, hevents⟩ :=
        exists_writeAll_of_writePackage hw
      have hbefore : WritesNothing ((translate package text).events ++
          .writing (storeDirectory output package) product.package.size :: earlier) :=
        Journal.writesNothing_append.mpr ⟨writesNothing_translate package text,
          Journal.writesNothing_cons.mpr ⟨fun _ => nofun, hnothing⟩⟩
      refine ⟨product, s', paths, _, rfl, hpaths, hsystem.trans hend, hbefore, ?_⟩
      simp only [generate, ht, hevents, List.append_assoc, List.cons_append]

/-- What is barred from names in Pascal case is not in the name of a type that is named by its path,
be it that of a class or an enum. -/
theorem not_mem_typeName_of_isBarred {m : Model} {t : SchemaType} {d : Char}
    (hd : Naming.IsBarred d) (hm : m.Named) (ht : m.type? path = some t) :
    d ∉ (Java.typeName m t).toList := by
  rw [Java.typeName]
  split
  · exact hd.not_mem_pascal _
  · rw [hm path t ht]
    exact Schema.Extraction.not_mem_typeNameAt hd path

theorem not_mem_typeName {m : Model} {t : SchemaType} (hm : m.Named)
    (ht : m.type? path = some t) : '/' ∉ (Java.typeName m t).toList :=
  not_mem_typeName_of_isBarred Naming.isBarred_slash hm ht

/-- **The file of a name.**  After a run that succeeds, whatever the text, the names in it and the
files before, consider a name that a type of the resolved model has.

If all types of the name become classes, or all become enums, the file of the name holds the source
of the one at the greatest path, and was written once.  Otherwise it holds the source of the enum at
the greatest path among the enums, whatever the paths of the others, and was written twice. -/
theorem sources_of_generate {stats : Stats}
    (h : (generate output package force text s).result = .ok stats) :
    ∃ document x r, Yaml.read text = .ok document ∧ Schema.extract document = .ok x ∧
      Schema.resolve? x.model x.errors = .ok r ∧
      ∀ name, (∃ path t, r.model.type? path = some t ∧ Java.typeName r.model t = name) →
        let file := sourcePath (storeDirectory output package) name
        (¬Java.Clash r.model name →
          ∃ path t, r.model.IsLast (Java.typeName r.model · = name) path t ∧
            (generate output package force text s).system.status file =
              .ok (.file (Files.encode (Java.typeSource r.model package t))) ∧
            (generate output package force text s).events.count (.wrote file) = 1) ∧
        (Java.Clash r.model name →
          ∃ path t, r.model.IsLast (Java.IsEnumNamed r.model name) path t ∧
            (generate output package force text s).system.status file =
              .ok (.file (Files.encode (Java.typeSource r.model package t))) ∧
            (generate output package force text s).events.count (.wrote file) = 2) := by
  obtain ⟨product, s', paths, earlier, hproduct, hwrite, hsystem, hearlier, hevents⟩ :=
    exists_writeAll_of_generate h
  obtain ⟨document, schemas, x, hread, hc, hx, hempty, rfl⟩ := exists_extract_of_translate hproduct
  have hnamed : (Schema.resolve x.model x.errors).model.Named := fun path t ht =>
    Schema.extract_named hc hx path t
      (by rwa [Schema.type?_resolve_of_isEmpty (Schema.extract_wellPlaced hx).indexed hempty] at ht)
  refine ⟨document, x, _, hread, hx, Schema.resolve?_of_read hread hx, ?_⟩
  rintro name ⟨path, t, ht, hname⟩
  generalize (Schema.resolve x.model x.errors).model = m at *
  have hnames : ∀ source ∈ (Java.translate m package).package.sources, '/' ∉ source.1.toList := by
    intro source hsource
    obtain ⟨path, t, ht, hname⟩ := Java.exists_of_mem_sources hsource
    exact hname ▸ not_mem_typeName hnamed ht
  have hslash : '/' ∉ name.toList := hname ▸ not_mem_typeName hnamed ht
  have hstatus := status_writeAll hnames hwrite hslash
  have hcount : (generate output package force text s).events.count
      (.wrote (sourcePath (storeDirectory output package) name)) =
        ((Java.translate m package).package.sources.map Prod.fst).count name := by
    rw [hevents, List.count_append, List.count_eq_zero_of_not_mem (hearlier _), Nat.zero_add,
      count_writeAll hnames hwrite hslash]
  dsimp only
  rw [hsystem, hstatus, hcount]
  refine ⟨fun hclash => ?_, fun hclash => ?_⟩
  · obtain ⟨path, t, hlast, hsource, honce⟩ :=
      Java.exists_isLast_of_not_clash package ht hname hclash
    exact ⟨path, t, hlast, by rw [hsource], honce⟩
  · obtain ⟨path, t, hlast, hsource, htwice⟩ := Java.exists_isLast_of_clash package hclash
    exact ⟨path, t, hlast, by rw [hsource], htwice⟩

/-- Two objects whose names come to the same one in Pascal case. -/
def doubledClass : String :=
  "components:\n  schemas:\n" ++
  "    a_b: \x7btype: object, properties: \x7bc: \x7btype: string\x7d\x7d\x7d\n" ++
  "    aB: \x7btype: object\x7d\n"

/-- The file of the name holds the object with the greater path, and was written once. -/
theorem doubledClass_written : ∃ stats document x r t,
    (generate "out" "pets" false doubledClass {}).result = .ok stats ∧
      Yaml.read doubledClass = .ok document ∧ Schema.extract document = .ok x ∧
      Schema.resolve? x.model x.errors = .ok r ∧
      r.model.IsLast (Java.typeName r.model · = "AB") "#/components/schemas/a_b" t ∧
      (generate "out" "pets" false doubledClass {}).system.status "out/pets/AB.java" =
        .ok (.file (Files.encode (Java.typeSource r.model "pets" t))) ∧
      (generate "out" "pets" false doubledClass {}).events.count
        (.wrote "out/pets/AB.java") = 1 := by
  obtain ⟨stats, hstats, -⟩ := Schema.exists_of_toOption_any (P := fun _ => true)
    (show (generate "out" "pets" false doubledClass {}).result.toOption.any _ = true by
      decide +kernel)
  have hmodel : (Yaml.read doubledClass).toOption.any (fun document =>
      (Schema.extract document).toOption.any fun x =>
        (Schema.resolve? x.model x.errors).toOption.any fun r =>
          (r.model.type? "#/components/schemas/a_b").any (Java.typeName r.model · = "AB") &&
            r.model.types.toList.all fun entry =>
              decide (entry.1 ≤ "#/components/schemas/a_b") &&
                !(r.model.own? entry.2).any Schema.Property.isEnum) = true := by
    decide +kernel
  obtain ⟨document, hread, hmodel⟩ := Schema.exists_of_toOption_any hmodel
  obtain ⟨x, hx, hmodel⟩ := Schema.exists_of_toOption_any hmodel
  obtain ⟨r, hr, hmodel⟩ := Schema.exists_of_toOption_any hmodel
  obtain ⟨document', x', r', hread', hx', hr', hfile⟩ := sources_of_generate hstats
  obtain rfl : document' = document := Except.ok.inj (hread'.symm.trans hread)
  obtain rfl : x' = x := Except.ok.inj (hx'.symm.trans hx)
  obtain rfl : r' = r := Except.ok.inj (hr'.symm.trans hr)
  simp only [Bool.and_eq_true, Option.any_eq_true, decide_eq_true_eq, List.all_eq_true,
    Bool.not_eq_true', Prod.forall, Std.ExtTreeMap.mem_toList_iff_getElem?_eq_some] at hmodel
  obtain ⟨⟨t, ht, hname⟩, hall⟩ := hmodel
  have hclash : ¬Java.Clash r'.model "AB" := by
    rintro ⟨-, path, t, ht, -, henum⟩
    rw [(hall path t ht).2] at henum
    cases henum
  obtain ⟨path, t', hlast, hstatus, hcount⟩ := (hfile "AB" ⟨_, t, ht, hname⟩).1 hclash
  obtain rfl : path = "#/components/schemas/a_b" :=
    String.le_antisymm (hall path t' hlast.type).1 (hlast.greatest ht hname)
  have hpath : sourcePath (storeDirectory "out" "pets") "AB" = "out/pets/AB.java" := by decide
  rw [hpath] at hstatus hcount
  exact ⟨stats, document', x', r', t', hstats, hread', hx', hr', hlast, hstatus, hcount⟩

/-- A choice of values and an object with the same name in Pascal case, the object at the greater
path. -/
def lateClass : String :=
  "components:\n  schemas:\n" ++
  "    A: \x7btype: string, enum: [x, y]\x7d\n    a: \x7btype: object\x7d\n"

/-- The file of the name is written twice, and does not hold the class, which is the later type. -/
theorem lateClass_overwritten : ∃ stats document x r t,
    (generate "out" "generated" false lateClass {}).result = .ok stats ∧
      Yaml.read lateClass = .ok document ∧ Schema.extract document = .ok x ∧
      Schema.resolve? x.model x.errors = .ok r ∧
      r.model.IsLast (Java.typeName r.model · = "A") "#/components/schemas/a" t ∧
      (generate "out" "generated" false lateClass {}).system.status "out/generated/A.java" ≠
        .ok (.file (Files.encode (Java.typeSource r.model "generated" t))) ∧
      (generate "out" "generated" false lateClass {}).events.count
        (.wrote "out/generated/A.java") = 2 := by
  have hrun : (generate "out" "generated" false lateClass {}).result.toOption.any (fun _ =>
      (generate "out" "generated" false lateClass {}).events.count
        (.wrote "out/generated/A.java") = 2) = true := by
    decide +kernel
  obtain ⟨stats, hstats, hcount⟩ := Schema.exists_of_toOption_any hrun
  have hmodel : (Yaml.read lateClass).toOption.any (fun document =>
      (Schema.extract document).toOption.any fun x =>
        (Schema.resolve? x.model x.errors).toOption.any fun r =>
          (r.model.type? "#/components/schemas/a").any (fun t =>
            decide (Java.typeName r.model t = "A") &&
              decide ((generate "out" "generated" false lateClass {}).system.status
                "out/generated/A.java" ≠
                  .ok (.file (Files.encode (Java.typeSource r.model "generated" t))))) &&
            r.model.types.toList.all fun entry =>
              decide (entry.1 ≤ "#/components/schemas/a")) = true := by
    decide +kernel
  obtain ⟨document, hread, hmodel⟩ := Schema.exists_of_toOption_any hmodel
  obtain ⟨x, hx, hmodel⟩ := Schema.exists_of_toOption_any hmodel
  obtain ⟨r, hr, hmodel⟩ := Schema.exists_of_toOption_any hmodel
  simp only [Bool.and_eq_true, Option.any_eq_true, decide_eq_true_eq, List.all_eq_true,
    Prod.forall, Std.ExtTreeMap.mem_toList_iff_getElem?_eq_some] at hmodel
  obtain ⟨⟨t, ht, hname, hstatus⟩, hall⟩ := hmodel
  exact ⟨stats, document, x, r, t, hstats, hread, hx, hr,
    ⟨ht, hname, fun ht' _ => hall _ _ ht'⟩, hstatus, of_decide_eq_true hcount⟩

end SchemaBeans.Generation

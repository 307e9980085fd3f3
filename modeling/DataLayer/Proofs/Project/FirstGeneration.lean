import DataLayer.Proofs.Project.FreshProject

/-!
# The first generation

The code of a new project can be generated right after it was started, as long as the names of its
files are not too long for a file system.
-/

namespace DataLayer

open FileTree

namespace NewManifest

/-- Where generated files of a new project go below its output folder. -/
def layout : OutputLayout :=
  ⟨"Models", "Repositories", "cs"⟩

theorem layout_config (new : NewManifest) (base : String) (multiFile : Bool) :
    (new.config base multiFile).layout = layout := rfl

theorem folder_injective : Function.Injective layout.folder := by
  intro group other
  cases group <;> cases other <;> decide

/-- A file of the group can be written below the folder under this name.  The ending takes 3 of the
255 bytes of a file name; with the output folder and the slashes it takes 15 of the 4095 bytes of a
path. -/
structure Usable (base : String) (group : OutputGroup) (name : String) : Prop where
  word : ∀ c ∈ name.toList, isIdentifierChar c = true
  short : name.utf8ByteSize ≤ 252
  room : base.utf8ByteSize + (layout.folder group).utf8ByteSize + name.utf8ByteSize + 15 ≤ 4095

section Word

variable {file : OutputFile} (word : ∀ c ∈ file.name.toList, isIdentifierChar c = true)

include word

theorem isName_fileName : Path.IsName (file.name ++ "." ++ "cs") := by
  have noSlash : '/' ∉ (file.name ++ "." ++ "cs").toList := by
    simp only [String.toList_append, List.mem_append, not_or]
    exact ⟨⟨fun member => absurd (word _ member) (by decide), by decide⟩, by decide⟩
  refine .of_mem noSlash (c := 'c') ?_ (by decide)
  rw [String.toList_append, List.mem_append]
  exact .inr (by decide)

theorem relativePath_eq :
    layout.relativePath file = layout.folder file.group ++ "/" ++ (file.name ++ "." ++ "cs") := by
  have named : Path.IsName (layout.folder file.group) := by cases file.group <;> decide
  exact named.join_eq (Path.startsWith_slash_of_notMem (isName_fileName word).noSlash)

theorem segments_generated :
    Path.segments ("generated" ++ "/" ++ layout.relativePath file) =
      ["generated", layout.folder file.group, file.name ++ "." ++ "cs"] := by
  have folder_noSlash : '/' ∉ (layout.folder file.group).toList := by cases file.group <;> decide
  rw [Path.segments_append_slash, relativePath_eq word, Path.segments_append_slash,
    Path.segments_of_noSlash folder_noSlash,
    Path.segments_of_noSlash (isName_fileName word).noSlash]
  rfl

theorem below_eq (base : String) :
    (file.below (Path.join base "generated") layout).1 =
      Path.join base ("generated" ++ "/" ++ layout.relativePath file) := by
  have named : Path.IsName "generated" := by decide
  have relative : (layout.relativePath file).startsWith "/" = false := by
    rw [relativePath_eq word, String.append_assoc, Path.startsWith_slash_append]
    · cases file.group <;> exact Path.startsWith_slash_of_notMem (by decide)
    · cases file.group <;> decide
  exact named.join_join base relative

theorem isPlain_generated : Path.IsPlain ("generated" ++ "/" ++ layout.relativePath file) := by
  have folder_named : Path.IsName (layout.folder file.group) := by cases file.group <;> decide
  rw [Path.IsPlain, segments_generated word]
  simp only [List.forall_mem_cons, List.not_mem_nil, false_implies, implies_true, and_true]
  exact ⟨by decide, folder_named, isName_fileName word⟩

omit word in
theorem fits_generated {base : String} (usable : Usable base file.group file.name) :
    Path.Fits base ("generated" ++ "/" ++ layout.relativePath file) := by
  obtain ⟨word, short, room⟩ := usable
  have sizes : "generated".utf8ByteSize = 9 ∧ "/".utf8ByteSize = 1 ∧ ".".utf8ByteSize = 1 ∧
      "cs".utf8ByteSize = 2 := by decide
  refine .of_size (isPlain_generated word) ?_ ?_ ?_
  · have folder_noNull : '\x00' ∉ (layout.folder file.group).toList := by
      cases file.group <;> decide
    rw [relativePath_eq word]
    simp only [String.toList_append, List.mem_append, not_or]
    exact ⟨⟨by decide, by decide⟩, ⟨⟨folder_noNull, by decide⟩,
      ⟨⟨fun member => absurd (word _ member) (by decide), by decide⟩, by decide⟩⟩⟩
  · rw [segments_generated word]
    simp only [List.forall_mem_cons, List.not_mem_nil, false_implies, implies_true, and_true]
    refine ⟨by decide, by cases file.group <;> decide, ?_⟩
    simp only [String.utf8ByteSize_append, sizes]
    omega
  · rw [relativePath_eq word]
    simp only [String.utf8ByteSize_append, sizes]
    omega

/-- Files of different groups or names do not get into each other's way. -/
theorem apart_generated {other : OutputFile}
    (other_word : ∀ c ∈ other.name.toList, isIdentifierChar c = true)
    (differ : (file.group, file.name) ≠ (other.group, other.name)) :
    Path.Apart ("generated" ++ "/" ++ layout.relativePath file)
      ("generated" ++ "/" ++ layout.relativePath other) := by
  have same_of_prefix (same : ["generated", layout.folder file.group, file.name ++ "." ++ "cs"] =
      ["generated", layout.folder other.group, other.name ++ "." ++ "cs"]) : False := by
    simp only [List.cons.injEq, String.append_left_inj, and_true, true_and] at same
    obtain ⟨folder_eq, name_eq⟩ := same
    exact differ (Prod.ext (folder_injective folder_eq) name_eq)
  rw [Path.Apart, segments_generated word, segments_generated other_word]
  exact ⟨fun passed => same_of_prefix (passed.eq_of_length rfl),
    fun passed => same_of_prefix (passed.eq_of_length rfl).symm⟩

end Word

/-- The paths of generated files below the project's folder. -/
def generatedPaths (files : List OutputFile) : List String :=
  files.map fun file => "generated" ++ "/" ++ layout.relativePath file

section Files

variable {base : String} {tree : FileTree} {files : List OutputFile}
  (usable : ∀ file ∈ files, Usable base file.group file.name)

include usable

theorem vacant_of_isFresh (fresh : IsFresh base tree) :
    Vacant base (generatedPaths files) tree := by
  have segments_eq : ∀ path ∈ generatedPaths files,
      ∃ below, Path.segments path = "generated" :: below := by
    intro path member
    obtain ⟨file, file_mem, rfl⟩ := List.mem_map.mp member
    exact ⟨_, segments_generated (usable file file_mem).word⟩
  refine ⟨fresh.there, fun path member => ?_, fun path member front name entered => ?_,
    fun path member => ?_⟩
  · obtain ⟨file, file_mem, rfl⟩ := List.mem_map.mp member
    exact fits_generated (usable file file_mem)
  · obtain ⟨below, path_eq⟩ := segments_eq path member
    rw [path_eq] at entered
    cases front with
    | nil =>
        rw [List.append_nil]
        exact .inl (get?_placeOf_of_isFolder fresh.there)
    | cons first others =>
        obtain ⟨rfl, -⟩ := List.cons_prefix_cons.mp entered
        exact .inr (fresh.ungenerated others)
  · obtain ⟨below, path_eq⟩ := segments_eq path member
    rw [path_eq]
    exact fresh.ungenerated below

theorem apart_generatedPaths
    (distinct : (files.map fun file => (file.group, file.name)).Nodup) :
    (generatedPaths files).Pairwise Path.Apart := by
  rw [List.Nodup, List.pairwise_map] at distinct
  rw [generatedPaths, List.pairwise_map]
  exact distinct.imp_of_mem fun file_mem other_mem differ =>
    apart_generated (usable _ file_mem).word (usable _ other_mem).word differ

theorem exists_accepts (fresh : IsFresh base tree)
    (distinct : (files.map fun file => (file.group, file.name)).Nodup) :
    ∃ made, (directorySink (Path.join base "generated") layout).Accepts tree
      (files.map (·, .written)) made := by
  have below : List.Forall₂ (fun path (file : OutputFile) =>
      (file.below (Path.join base "generated") layout).1 = Path.join base path)
      (generatedPaths files) files := by
    rw [generatedPaths, List.forall₂_map_left_iff, List.forall₂_same]
    exact fun file file_mem => below_eq (usable file file_mem).word base
  exact exists_accepts_of_vacant below (apart_generatedPaths usable distinct)
    (vacant_of_isFresh usable fresh)

end Files

variable {new : NewManifest} {base : String} (multiFile : Bool)

theorem usable_of_mem_sampleFiles (context : Usable base .models new.contextName)
    (room : base.utf8ByteSize + 37 ≤ 4095) :
    ∀ named ∈ Scaffold.sampleFiles new.contextName multiFile, Usable base named.1 named.2 := by
  let others : List (OutputGroup × String) := [(.models, "Customers"), (.models, "Orders"),
    (.repositories, "Repository"), (.repositories, "Customers"), (.repositories, "Orders")]
  have modest : ∀ named ∈ others, named.2.toList.all isIdentifierChar = true ∧
      (layout.folder named.1).utf8ByteSize + named.2.utf8ByteSize ≤ 22 := by
    decide
  have among : ∀ named ∈ Scaffold.sampleFiles new.contextName multiFile,
      named = (.models, new.contextName) ∨ named ∈ others := by
    cases multiFile <;> simp [Scaffold.sampleFiles, others]
  intro named member
  rcases among named member with rfl | other
  · exact context
  · obtain ⟨word, small⟩ := modest named other
    exact ⟨List.all_eq_true.mp word, by omega, by omega⟩

theorem nodup_sampleFiles (customers : new.contextName ≠ "Customers")
    (orders : new.contextName ≠ "Orders") :
    (Scaffold.sampleFiles new.contextName multiFile).Nodup := by
  cases multiFile <;> simp [Scaffold.sampleFiles, customers, orders]

end NewManifest

open NewManifest

section Paths

variable {base : String} {tree made : FileTree} {files : List OutputFile}
  (usable : ∀ file ∈ files, Usable base file.group file.name)

include usable

theorem NewManifest.map_relativePath :
    files.map layout.relativePath = (files.map fun file => (file.group, file.name)).map fun named =>
      layout.folder named.1 ++ "/" ++ (named.2 ++ "." ++ "cs") := by
  rw [List.map_map]
  exact List.map_congr_left fun file file_mem => relativePath_eq (usable file file_mem).word

theorem NewManifest.map_placeOf (tree : FileTree) :
    (files.map (·.below (Path.join base "generated") layout)).map (fun file =>
      tree.placeOf file.1) =
      (files.map fun file => (file.group, file.name)).map fun named =>
        tree.placeOf base ++ ["generated", layout.folder named.1, named.2 ++ "." ++ "cs"] := by
  rw [List.map_map, List.map_map]
  refine List.map_congr_left fun file file_mem => ?_
  have word := (usable file file_mem).word
  have below := below_eq word base
  simp only [Function.comp_apply, below, placeOf_join (isPlain_generated word),
    segments_generated word]

/-- The texts below the output folder are those of the generated files. -/
theorem IsFresh.exists_text_iff (fresh : IsFresh base tree)
    (places : made.get? = (files.map (·.below (Path.join base "generated") layout)).foldl
      tree.putText tree.get?) (below : Location) :
    (∃ content, made.get? (tree.placeOf base ++ "generated" :: below) = some (.text content)) ↔
      below ∈ (files.map fun file => (file.group, file.name)).map fun named =>
        [layout.folder named.1, named.2 ++ "." ++ "cs"] := by
  rw [places, exists_text_foldl_putText_iff, map_placeOf usable, fresh.ungenerated]
  simp [eq_comm]

end Paths

/-- In a fresh project all files are generated, in either layout, and nothing else below the output
folder. -/
theorem IsFresh.exists_generate {base : String} {tree : FileTree} (fresh : IsFresh base tree)
    {new : NewManifest} (context : Usable base .models new.contextName)
    (customers : new.contextName ≠ "Customers") (orders : new.contextName ≠ "Orders")
    (room : base.utf8ByteSize + 37 ≤ 4095) (multiFile : Bool) :
    ∃ made, Stateful.outcome (Project.generate (new.config base multiFile) false) tree =
        (.ok (Project.writtenReport (new.config base multiFile) 2
          ((Scaffold.sampleFiles new.contextName multiFile).map fun named =>
            layout.folder named.1 ++ "/" ++ (named.2 ++ "." ++ "cs"))), made) ∧
      ∀ below,
        (∃ content, made.get? (tree.placeOf base ++ "generated" :: below) = some (.text content)) ↔
          below ∈ (Scaffold.sampleFiles new.contextName multiFile).map fun named =>
            [layout.folder named.1, named.2 ++ "." ++ "cs"] := by
  obtain ⟨tables, files, introspected, count, rendered, names_eq⟩ :=
    fresh.exists_render room new multiFile
  have usable : ∀ file ∈ files, Usable base file.group file.name := by
    have named := usable_of_mem_sampleFiles multiFile context room
    rwa [← names_eq, List.forall_mem_map] at named
  have distinct : (files.map fun file => (file.group, file.name)).Nodup := by
    rw [names_eq]
    exact nodup_sampleFiles multiFile customers orders
  obtain ⟨made, accepts⟩ := exists_accepts usable fresh distinct
  have loaded := fresh.snapshotAt_catalog room
  rw [← new.catalogPath_config base multiFile] at loaded
  rw [← new.outputDir_config base multiFile, ← new.layout_config base multiFile] at accepts
  have planned : Generator.plan { config := new.config base multiFile } Scaffold.sample.catalog
      (tree.templatesOf (new.config base multiFile)) = .ok (tables, files) :=
    (Generator.plan_eq_ok_iff tables files).mpr ⟨introspected, rendered⟩
  have generated := (Project.outcome_generate_eq_ok_iff (new.config base multiFile) tree made _).mpr
    ⟨Scaffold.sample, tables, files, loaded, planned, accepts, rfl⟩
  rw [count, new.layout_config, map_relativePath usable, names_eq] at generated
  have places := Project.places_of_accepts accepts
  rw [new.outputDir_config, new.layout_config] at places
  have exactly := fresh.exists_text_iff usable places
  rw [names_eq] at exactly
  exact ⟨made, generated, exactly⟩

/-- Nothing is generated when the name of the context is too long for a file. -/
theorem NewManifest.utf8ByteSize_contextName_le {new : NewManifest} {base : String}
    {multiFile : Bool} {tree made : FileTree} {report : GenerationReport}
    (word : ∀ c ∈ new.contextName.toList, isIdentifierChar c = true)
    (generated : Stateful.outcome (Project.generate (new.config base multiFile) false) tree =
      (.ok report, made)) : new.contextName.utf8ByteSize ≤ 252 := by
  obtain ⟨snapshot, tables, files, -, planned, accepts, -⟩ :=
    (Project.outcome_generate_eq_ok_iff _ _ _ _).mp generated
  obtain ⟨introspected, rendered⟩ := (Generator.plan_eq_ok_iff tables files).mp planned
  have names_eq :=
    Config.map_name_of_render (Schema.nodup_names_of_introspect introspected) rendered
  have member : (OutputGroup.models, new.contextName) ∈
      files.map fun file => (file.group, file.name) := by
    rw [names_eq]
    split_ifs <;> exact List.mem_cons_self
  obtain ⟨file, file_mem, named⟩ := List.mem_map.mp member
  obtain ⟨-, name_eq⟩ := Prod.mk.inj named
  rw [← name_eq] at word ⊢
  have plain := isPlain_generated word
  have holds := (Project.setAll_of_accepts accepts).2 file file_mem
  rw [new.outputDir_config, new.layout_config, below_eq word] at holds
  obtain ⟨front, last, segments_eq, last_named⟩ := plain.exists_segments_join base
  have short := (holds.reaches segments_eq last_named).short
  obtain ⟨lead, whole_eq, -⟩ := Path.segments_join base plain.relative
  rw [whole_eq, segments_generated word] at short
  have file_short := short (file.name ++ "." ++ "cs") (by simp)
  have ending_sizes : ".".utf8ByteSize = 1 ∧ "cs".utf8ByteSize = 2 := by decide
  simp only [String.utf8ByteSize_append, ending_sizes] at file_short
  omega

theorem NewManifest.append_context_extension (name : String) :
    name ++ "Context" ++ "." ++ "cs" = name ++ "Context.cs" := by
  simp only [String.append_assoc]
  exact congrArg (name ++ ·) (by decide)

theorem NewManifest.append_context_ne (name : String) {other : String}
    (ends : other.toList.getLast? ≠ some 't') : name ++ "Context" ≠ other := by
  rintro rfl
  apply ends
  rw [String.toList_append, List.getLast?_append]
  rfl

theorem NewManifest.usable_contextName {rootNamespace base : String}
    (names : IsNamespace rootNamespace)
    (short : (ofNamespace rootNamespace).database.utf8ByteSize ≤ 245)
    (room : base.utf8ByteSize + (ofNamespace rootNamespace).database.utf8ByteSize + 28 ≤ 4095) :
    Usable base .models (ofNamespace rootNamespace).contextName := by
  have size_eq : (ofNamespace rootNamespace).contextName.utf8ByteSize =
      (ofNamespace rootNamespace).database.utf8ByteSize + 7 := String.utf8ByteSize_append
  have folder_size : (layout.folder .models).utf8ByteSize = 6 := by decide
  refine ⟨isIdentifierChar_of_mem_contextName names, ?_, ?_⟩ <;> omega

namespace Project

/-! ## New projects -/

/-- A new project works as it is.  The manifest for an acceptable namespace is accepted, and holds
the settings that it spells out, with the names of context and database made from the first part of
the namespace.  Where the project is started in an empty folder all of its files are written, the
manifest can be opened, and a check finds nothing wrong.  All code is generated, in either layout,
as long as no name is longer than 255 bytes and no path longer than 4095; with one file for each
group there are just two files in the output folder then. -/
theorem new_project_works {place : ManifestPlace} {rootNamespace kind first : String}
    {others : List String} (accepted : place.checkNamespace rootNamespace kind = .ok ())
    (parts : Text.splitAtChar '.' rootNamespace = first :: others) :
    ∃ manifest : Manifest,
      manifest = {
        project := ⟨rootNamespace, false, "cs"⟩
        catalog := ⟨"schema.toml"⟩
        templates := ⟨some "templates"⟩
        output := ⟨"generated"⟩
        context := ⟨first ++ "Context",
          some ("\"Data Source=.;Initial Catalog=" ++ first ++ ";Integrated Security=True\"")⟩
        models := ⟨"Models", "Models"⟩
        repositories := ⟨"Repositories", "Repositories"⟩ } ∧
      (∀ file, Manifest.parse (NewManifest.ofNamespace rootNamespace).text file = .ok manifest) ∧
      ∀ (dir : String) (tree : FileTree), tree.IsSound → tree.IsEmptyFolder dir →
        dir.utf8ByteSize + 37 ≤ 4095 →
        ∃ after opened, Stateful.outcome (init dir rootNamespace) tree =
            (.ok ⟨dir, rootNamespace, Scaffold.paths.map fun path => ⟨path, .written⟩⟩, after) ∧
          (OpenedManifest.read (Path.join dir "dalgen.toml") : StateM FileTree _).run after =
            (.ok opened, after) ∧
          opened.manifest = manifest ∧
          (∃ found, (check opened.config opened.path : StateM FileTree _).run after =
            (found, after) ∧ found.errors = []) ∧
          (first.utf8ByteSize ≤ 245 → dir.utf8ByteSize + first.utf8ByteSize + 28 ≤ 4095 →
            ∀ multiFile, ∃ report made,
              Stateful.outcome (generate { opened.config with multiFile } false) after =
                (.ok report, made) ∧
              (multiFile = false →
                report.result = .written (Path.join opened.baseDir "generated") 2
                  ["Models/" ++ first ++ "Context.cs", "Repositories/Repository.cs"] ∧
                ∀ below, (∃ content, made.get? (after.placeOf dir ++ "generated" :: below) =
                    some (.text content)) ↔
                  below = ["Models", first ++ "Context.cs"] ∨
                    below = ["Repositories", "Repository.cs"])) := by
  have names := (ManifestPlace.checkNamespace_eq_ok_iff place rootNamespace kind).mp accepted
  have new_eq := NewManifest.ofNamespace_of_parts parts
  refine ⟨(NewManifest.ofNamespace rootNamespace).settings, by rw [new_eq]; rfl,
    NewManifest.parse_text names, fun dir tree sound empty room => ?_⟩
  obtain ⟨after, opened, started, read, manifest_eq, base_short, same, fresh⟩ :=
    exists_opened names sound empty room
  have base_room : opened.baseDir.utf8ByteSize + 37 ≤ 4095 := by omega
  obtain ⟨config_eq, layout_eq⟩ := OpenedManifest.config_of_settings manifest_eq
  refine ⟨after, opened, started, read, manifest_eq, ?_, fun short name_room multiFile => ?_⟩
  · rw [config_eq]
    exact fresh.exists_check base_room _ false opened.path
  · have name_room : opened.baseDir.utf8ByteSize + first.utf8ByteSize + 28 ≤ 4095 := by omega
    have usable : NewManifest.Usable opened.baseDir .models
        (NewManifest.ofNamespace rootNamespace).contextName :=
      NewManifest.usable_contextName names (by rwa [new_eq]) (by rwa [new_eq])
    obtain ⟨made, generated, exactly⟩ := fresh.exists_generate usable
      (NewManifest.append_context_ne _ (by decide)) (NewManifest.append_context_ne _ (by decide))
      base_room multiFile
    rw [layout_eq]
    refine ⟨_, made, generated, ?_⟩
    rintro rfl
    have context_name :
        (NewManifest.ofNamespace rootNamespace).contextName = first ++ "Context" := by
      rw [new_eq]
    simp only [Scaffold.sampleFiles, context_name, Bool.false_eq_true, if_false,
      List.map_cons, List.map_nil, NewManifest.append_context_extension, same] at exactly ⊢
    refine ⟨?_, fun below => ?_⟩
    · rw [← String.append_assoc]
      rfl
    · rw [exactly]
      simp [NewManifest.layout, OutputLayout.folder]

/-- In a file system that holds nothing at all, a project is started in the current folder. -/
theorem new_project_works_for_shop :
    (ManifestPlace.root "" "").checkNamespace "Shop.Data" "namespace" = .ok () ∧
      ∃ after opened, Stateful.outcome (init "." "Shop.Data") FileTree.blank =
          (.ok ⟨".", "Shop.Data", Scaffold.paths.map fun path => ⟨path, .written⟩⟩, after) ∧
        (OpenedManifest.read (Path.join "." "dalgen.toml") : StateM FileTree _).run after =
          (.ok opened, after) ∧
        opened.manifest.context = ⟨"ShopContext",
          some "\"Data Source=.;Initial Catalog=Shop;Integrated Security=True\""⟩ ∧
        ∃ report made, Stateful.outcome (generate { opened.config with multiFile := false } false)
            after = (.ok report, made) ∧
          report.result = .written (Path.join opened.baseDir "generated") 2
            ["Models/ShopContext.cs", "Repositories/Repository.cs"] ∧
          ∃ content, made.get? (after.placeOf "." ++ ["generated", "Models", "ShopContext.cs"]) =
            some (.text content) := by
  have accepted : (ManifestPlace.root "" "").checkNamespace "Shop.Data" "namespace" = .ok () := by
    decide +kernel
  have parts : Text.splitAtChar '.' "Shop.Data" = ["Shop", "Data"] := by decide +kernel
  obtain ⟨manifest, rfl, -, works⟩ := new_project_works accepted parts
  obtain ⟨after, opened, started, read, manifest_eq, -, generates⟩ :=
    works "." FileTree.blank FileTree.isSound_blank FileTree.isEmptyFolder_blank (by decide)
  obtain ⟨report, made, generated, result⟩ := generates (by decide) (by decide) false
  obtain ⟨written, exactly⟩ := result rfl
  refine ⟨accepted, after, opened, started, read, ?_, report, made, generated, written, ?_⟩
  · rw [manifest_eq]
    rfl
  · exact (exactly ["Models", "ShopContext.cs"]).mpr (.inl rfl)

/-- A word of 246 letters. -/
def longName : String :=
  String.ofList (List.replicate 246 'A')

theorem isTypeName_longName : IsTypeName longName := by
  have toList_eq : longName.toList = 'A' :: List.replicate 245 'A' := String.toList_ofList
  have letters : ∀ c ∈ List.replicate 245 'A', isIdentifierChar c = true := by
    intro c member
    rw [List.eq_of_mem_replicate member]
    decide
  refine ⟨⟨'A', List.replicate 245 'A', toList_eq, by decide, letters⟩, ?_⟩
  -- Reserved words are lower case.
  have keywords_lower : ∀ keyword ∈ csharpKeywords, 'A' ∉ keyword.toList := by decide +kernel
  have capital : 'A' ∈ longName.toList := by
    rw [toList_eq]
    exact List.mem_cons_self
  exact fun member => keywords_lower _ member capital

/-- With a long first part the namespace is acceptable and the project can be started and opened,
but no code can be generated: the name of the file for the context is too long. -/
theorem new_project_with_long_name :
    (ManifestPlace.root "" "").checkNamespace longName "namespace" = .ok () ∧
      FileTree.blank.IsSound ∧ FileTree.blank.IsEmptyFolder "." ∧
      ∃ after opened, Stateful.outcome (init "." longName) FileTree.blank =
          (.ok ⟨".", longName, Scaffold.paths.map fun path => ⟨path, .written⟩⟩, after) ∧
        (OpenedManifest.read (Path.join "." "dalgen.toml") : StateM FileTree _).run after =
          (.ok opened, after) ∧
        ∀ multiFile report made,
          Stateful.outcome (generate { opened.config with multiFile } false) after ≠
            (.ok report, made) := by
  have parts : Text.splitAtChar '.' longName = [longName] := by
    have undotted := dot_notMem_of_isWord ((isTypeName_iff longName).mp isTypeName_longName).1
    exact (splitAtChar_dot_eq_iff longName [longName]).mpr
      ⟨List.cons_ne_nil _ _, by simpa using undotted, by simp⟩
  have names : IsNamespace longName := by
    rw [IsNamespace, parts]
    simpa using isTypeName_longName
  obtain ⟨after, opened, started, read, manifest_eq, -⟩ :=
    exists_opened names FileTree.isSound_blank FileTree.isEmptyFolder_blank (by decide)
  refine ⟨(ManifestPlace.checkNamespace_eq_ok_iff _ _ _).mpr names, FileTree.isSound_blank,
    FileTree.isEmptyFolder_blank, after, opened, started, read, fun multiFile report made => ?_⟩
  intro generated
  rw [(OpenedManifest.config_of_settings manifest_eq).2] at generated
  have short := NewManifest.utf8ByteSize_contextName_le
    (NewManifest.isIdentifierChar_of_mem_contextName names) generated
  rw [NewManifest.ofNamespace_of_parts parts] at short
  have long : (longName ++ "Context").utf8ByteSize = 253 := by decide +kernel
  exact absurd (long ▸ short) (by decide)

end Project

end DataLayer

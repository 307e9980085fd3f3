import DataLayer.Proofs.Generation.Layouts
import DataLayer.Proofs.Generation.Run
import DataLayer.Proofs.Render.DbTypes

/-!
# Generation from respelled snapshots

How a recognised storage type is spelled can only be seen in the declared types of entity classes.
All that happens to these classes on their way into a file goes along with a likeness of texts.  So
two runs for respelled snapshots fail with the same error, or give files that are like each other.
-/

namespace DataLayer

open Traversal (Alike)

/-- Files of one place with texts that are like each other. -/
def OutputFile.IsLike (related : String → String → Prop) (first second : OutputFile) : Prop :=
  ∃ text, related first.content text ∧ second = { first with content := text }

section Render

variable {related : String → String → Prop} {config : Config} {tables others : List Table}

/-- Under each name stand two classes that are like each other, or none. -/
theorem RenderHooks.Keeps.get?_renderEntities {hooks : RenderHooks}
    (likeness : Text.IsLikeness related) (keeps : hooks.Keeps related)
    (respelled : List.Forall₂ Table.IsRespelled tables others) (name : String) :
    Option.Rel related ((hooks.renderEntities tables).get? name)
      ((hooks.renderEntities others).get? name) := by
  rw [renderEntities, renderEntities, NamedMap.get?_ofList, NamedMap.get?_ofList,
    ← List.map_reverse, ← List.map_reverse]
  have pairs := List.forall₂_reverse_iff.mpr respelled
  generalize tables.reverse = tables at pairs ⊢
  generalize others.reverse = others at pairs ⊢
  induction pairs with
  | nil => exact .none
  | cons pair _ ih =>
      have entity_like := keeps.renderEntity likeness pair
      obtain ⟨columns, -, rfl⟩ := pair
      rw [List.map_cons, List.map_cons, NamedMap.lookup_entry_cons, NamedMap.lookup_entry_cons]
      dsimp only
      split_ifs
      · exact .some entity_like
      · exact ih

/-- The accessors do not show storage types. -/
theorem Template.renderContext_of_isRespelled (template : String)
    (respelled : List.Forall₂ Table.IsRespelled tables others) :
    renderContext template others = renderContext template tables := by
  have accessors_eq : others.map (·.accessor) = tables.map (·.accessor) :=
    Traversal.map_eq_map_of_forall₂ respelled (by
      rintro first _ ⟨columns, -, rfl⟩
      rfl)
  rw [renderContext, renderContext, contextMembers, contextMembers, accessors_eq]

/-- A body within a frame may be replaced by one like it. -/
theorem Text.IsLikeness.fillPlaceholder (likeness : Text.IsLikeness related) {body other : String}
    (pair : related body other) (frame : String) :
    related (Template.fillPlaceholder frame body) (Template.fillPlaceholder frame other) := by
  obtain ⟨parts, -, -, filled⟩ := Template.exists_fillPlaceholder_eq_intercalate frame
  rw [filled, filled]
  exact likeness.intercalate pair parts

namespace LoadedTemplates

variable {templates : LoadedTemplates}

theorem modelFile_isLike (likeness : Text.IsLikeness related) (name : String)
    {body other : String} (pair : related body other) :
    (templates.modelFile name body).IsLike related (templates.modelFile name other) :=
  ⟨_, likeness.ensureTrailingNewline (likeness.fillPlaceholder pair _), rfl⟩

theorem repositoryFile_isLike (likeness : Text.IsLikeness related) (name body : String) :
    (templates.repositoryFile name body).IsLike related (templates.repositoryFile name body) :=
  ⟨_, likeness.refl _, rfl⟩

theorem fillForTable_alike (fields : FieldMap) (template : String) {first second : Table}
    (respelled : first.IsRespelled second) :
    Alike Eq (Template.fillForTable fields template first)
      (Template.fillForTable fields template second) := by
  rw [Traversal.alike_eq_iff, Template.fillForTable, Template.fillForTable, respelled.fields_eq]

theorem filePerTable_alike (likeness : Text.IsLikeness related)
    (keeps : config.hooks.Keeps related)
    (respelled : List.Forall₂ Table.IsRespelled tables others) :
    Alike (List.Forall₂ (OutputFile.IsLike related)) (templates.filePerTable config tables)
      (templates.filePerTable config others) := by
  have context_eq := Template.renderContext_of_isRespelled templates.dataContext respelled
  unfold filePerTable
  rw [context_eq]
  refine Alike.bind (Alike.mapM (OutputFile.IsLike related) respelled ?models)
    fun models otherModels models_like =>
      Alike.bind (Alike.mapM (OutputFile.IsLike related) respelled ?repositories)
        fun repositories otherRepositories repositories_like => .ok ?_
  case models =>
    intro first second pair
    have entity_like := Traversal.getD_rel
      (keeps.get?_renderEntities likeness respelled first.name) (likeness.refl "")
    refine (fillForTable_alike config.fields templates.modelEntity pair).bind ?_
    rintro addition _ rfl
    obtain ⟨columns, -, rfl⟩ := pair
    have blocks_like := List.Forall₂.cons entity_like (likeness.refl_list [addition])
    exact .ok (modelFile_isLike likeness first.name (likeness.joinBlocks blocks_like))
  case repositories =>
    intro first second pair
    refine (fillForTable_alike config.fields templates.tableRepository pair).bind ?_
    rintro body _ rfl
    obtain ⟨columns, -, rfl⟩ := pair
    exact .ok (repositoryFile_isLike likeness first.name _)
  refine List.rel_append (.cons (modelFile_isLike likeness _ (likeness.refl _)) models_like) ?_
  exact .cons (repositoryFile_isLike likeness _ _) repositories_like

theorem filePerGroup_alike (likeness : Text.IsLikeness related)
    (keeps : config.hooks.Keeps related)
    (respelled : List.Forall₂ Table.IsRespelled tables others) :
    Alike (List.Forall₂ (OutputFile.IsLike related)) (templates.filePerGroup config tables)
      (templates.filePerGroup config others) := by
  have context_eq := Template.renderContext_of_isRespelled templates.dataContext respelled
  unfold filePerGroup
  rw [context_eq]
  refine Alike.bind (Alike.mapM (fun left right =>
    List.Forall₂ related left.1 right.1 ∧ left.2 = right.2) respelled ?blocks)
      fun blocks otherBlocks blocks_like => .ok ?_
  case blocks =>
    intro first second pair
    have entities_like := Traversal.toList_rel
      (keeps.get?_renderEntities likeness respelled first.name)
    refine (fillForTable_alike config.fields templates.modelEntity pair).bind ?_
    rintro addition _ rfl
    refine (fillForTable_alike config.fields templates.tableRepository pair).bind ?_
    rintro repository _ rfl
    obtain ⟨columns, -, rfl⟩ := pair
    exact .ok ⟨List.rel_append entities_like (likeness.refl_list [addition]), rfl⟩
  have entities_like : List.Forall₂ related (blocks.flatMap (·.1)) (otherBlocks.flatMap (·.1)) := by
    induction blocks_like with
    | nil => exact .nil
    | cons pair _ ih => exact List.rel_append pair.1 ih
  have repositories_eq : otherBlocks.map (·.2) = blocks.map (·.2) :=
    Traversal.map_eq_map_of_forall₂ blocks_like fun _ _ pair => pair.2.symm
  rw [repositories_eq]
  refine .cons (modelFile_isLike likeness _ (likeness.joinBlocks ?_))
    (.cons (repositoryFile_isLike likeness _ _) .nil)
  exact .cons (likeness.refl _) entities_like

end LoadedTemplates

theorem Config.render_alike (likeness : Text.IsLikeness related)
    (keeps : config.hooks.Keeps related)
    (respelled : List.Forall₂ Table.IsRespelled tables others) (source : TemplateSource) :
    Alike (List.Forall₂ (OutputFile.IsLike related)) (config.render tables source)
      (config.render others source) := by
  have loaded := (Traversal.alike_eq_iff (config.loadTemplates source) _).mpr rfl
  refine loaded.bind ?_
  rintro templates _ rfl
  split_ifs
  · exact LoadedTemplates.filePerTable_alike likeness keeps respelled
  · exact LoadedTemplates.filePerGroup_alike likeness keeps respelled

end Render

namespace Generator

variable {related : String → String → Prop} {config : Config} {mapper : TypeMapper}
  {first second : Snapshot}

theorem plan_alike (likeness : Text.IsLikeness related) (keeps : config.hooks.Keeps related)
    (byFamily : mapper.ownRule = none) (respelled : first.IsRespelled second)
    (source : TemplateSource) :
    Alike (fun planned other => List.Forall₂ Table.IsRespelled planned.1 other.1 ∧
        List.Forall₂ (OutputFile.IsLike related) planned.2 other.2)
      (Generator.plan ⟨config, mapper⟩ first.catalog source)
      (Generator.plan ⟨config, mapper⟩ second.catalog source) := by
  have introspected := Snapshot.introspect_alike byFamily respelled
  unfold plan
  generalize Schema.introspect mapper first.catalog = read at introspected ⊢
  generalize Schema.introspect mapper second.catalog = otherRead at introspected ⊢
  cases introspected with
  | error error => exact .error _
  | @ok tables others pairs =>
      have rendered := Config.render_alike likeness keeps pairs source
      dsimp only
      generalize config.render tables source = files at rendered ⊢
      generalize config.render others source = otherFiles at rendered ⊢
      cases rendered with
      | error error => exact .error _
      | ok files_like => exact .ok ⟨pairs, files_like⟩

/-- The previews of respelled snapshots list the same paths, with texts that are like each other. -/
theorem preview_alike (likeness : Text.IsLikeness related) (keeps : config.hooks.Keeps related)
    (byFamily : mapper.ownRule = none) (respelled : first.IsRespelled second)
    (source : TemplateSource) :
    Alike (List.Forall₂ fun file other => file.1 = other.1 ∧ related file.2 other.2)
      (Generator.preview ⟨config, mapper⟩ first.catalog source)
      (Generator.preview ⟨config, mapper⟩ second.catalog source) := by
  refine (plan_alike likeness keeps byFamily respelled source).map fun planned other pair => ?_
  rw [List.forall₂_map_left_iff, List.forall₂_map_right_iff]
  refine pair.2.imp ?_
  rintro file _ ⟨text, content_like, rfl⟩
  exact ⟨rfl, content_like⟩

/-- Runs for respelled snapshots do the same if the files are the same. -/
theorem run_eq_of_isRespelled (keeps : config.hooks.Keeps Eq) (byFamily : mapper.ownRule = none)
    (respelled : first.IsRespelled second) (source : TemplateSource) {ε : Type} {m : Type → Type}
    [Monad m] (sink : OutputSink ε m) :
    Generator.run ⟨config, mapper⟩ first.catalog source sink =
      Generator.run ⟨config, mapper⟩ second.catalog source sink := by
  have planned := plan_alike Text.isLikeness_eq keeps byFamily respelled source
  unfold run
  generalize Generator.plan ⟨config, mapper⟩ first.catalog source = outcome at planned ⊢
  generalize Generator.plan ⟨config, mapper⟩ second.catalog source = otherOutcome at planned ⊢
  cases planned with
  | error error => rfl
  | ok pair =>
      have files_eq := pair.2.imp (S := Eq) (by
        rintro file _ ⟨text, rfl, rfl⟩
        rfl)
      rw [List.forall₂_eq_eq_eq] at files_eq
      dsimp only
      rw [pair.1.length_eq, files_eq]

/-- The case of the letters in recognised storage types does not matter.  Where no hook looks at how
these are spelled, two runs fail alike or give the same files.  With the usual attributes they give
files of the same paths that differ at most in the declared types. -/
theorem generation_ignores_type_case (config : Config) (mapper : TypeMapper)
    (source : TemplateSource) (first second : Snapshot) (byFamily : mapper.ownRule = none)
    (respelled : first.IsRespelled second)
    (fieldType_blind : ∀ column other : Column, column.IsRespelled other →
      config.hooks.fieldType other = config.hooks.fieldType column)
    (classDecoration_blind : ∀ table other : Table, table.IsRespelled other →
      config.hooks.classDecoration other = config.hooks.classDecoration table) :
    ((∀ column other : Column, column.IsRespelled other →
        config.hooks.columnDecoration other = config.hooks.columnDecoration column) →
      Generator.preview ⟨config, mapper⟩ first.catalog source =
          Generator.preview ⟨config, mapper⟩ second.catalog source ∧
        ∀ (ε : Type) (m : Type → Type) [Monad m] (sink : OutputSink ε m),
          Generator.run ⟨config, mapper⟩ first.catalog source sink =
            Generator.run ⟨config, mapper⟩ second.catalog source sink) ∧
    (config.hooks.columnDecoration = Column.attribute →
      Alike (List.Forall₂ fun file other =>
          file.1 = other.1 ∧ AgreeButDbTypes file.2.toList other.2.toList)
        (Generator.preview ⟨config, mapper⟩ first.catalog source)
        (Generator.preview ⟨config, mapper⟩ second.catalog source)) := by
  constructor
  · intro columnDecoration_blind
    have keeps : config.hooks.Keeps Eq := ⟨fieldType_blind, classDecoration_blind,
      fun column other pair => (columnDecoration_blind column other pair).symm⟩
    refine ⟨?_, fun ε m _ sink => run_eq_of_isRespelled keeps byFamily respelled source sink⟩
    have previewed := preview_alike Text.isLikeness_eq keeps byFamily respelled source
    have same_files : (fun file other : String × String => file.1 = other.1 ∧ file.2 = other.2) =
        Eq := funext₂ fun file other => propext Prod.ext_iff.symm
    rwa [same_files, List.forall₂_eq_eq_eq, Traversal.alike_eq_iff] at previewed
  · intro columnDecoration_eq
    refine preview_alike isLikeness_agreeButDbTypes
      ⟨fieldType_blind, classDecoration_blind, fun column other pair => ?_⟩ byFamily respelled
      source
    rw [columnDecoration_eq]
    exact Column.attribute_of_isRespelled pair

/-- A snapshot with one column of the given type. -/
def ordersOfType (storageType : String) : Snapshot :=
  ⟨[{ name := "orders", columns := [{ name := "id", storageType }] }]⟩

/-- The table of that snapshot. -/
def ordersTable (storageType : String) : Table :=
  .ofAnswers .csharp "orders" [] [] [{ name := "id", storageType }]

/-- A project with a connection and the given lines above its fields. -/
def ordersConfig (columnDecoration : Column → String) : Config where
  baseNamespace := "Shop"
  context := ⟨"ShopContext", some "\"shop\""⟩
  hooks := { columnDecoration }

/-- Templates that mention the connection and hold the classes. -/
def ordersTemplates : TemplateSource := fun name => .ok <|
  match name with
  | .modelFrame => "//[Placeholder]"
  | .dataContext => "// [ContextConnection]"
  | _ => ""

/-- These templates with the fields of the project. -/
def ordersLoaded : LoadedTemplates :=
  ⟨"//[Placeholder]", "", "", "", "// \"shop\"", ""⟩

/-- The files of the table as they are put together. -/
def ordersShown (columnDecoration : Column → String) (storageType : String) :
    List (String × String) :=
  (ordersLoaded.joinedFiles (ordersConfig columnDecoration) [ordersTable storageType]
    [⟨"Orders", (ordersConfig columnDecoration).hooks.renderEntity (ordersTable storageType), "",
      ""⟩]).map fun file =>
        ((ordersConfig columnDecoration).layout.relativePath file, file.content)

theorem preview_orders (columnDecoration : Column → String) (storageType : String) :
    Generator.preview ⟨ordersConfig columnDecoration, .csharp⟩
        (ordersOfType storageType).catalog ordersTemplates =
      .ok (ordersShown columnDecoration storageType) := by
  have introspected : Schema.introspect .csharp (ordersOfType storageType).catalog =
      .ok [ordersTable storageType] := rfl
  have loaded : (ordersConfig columnDecoration).loadTemplates ordersTemplates =
      .ok ordersLoaded := by
    rfl
  have codes_eq : [ordersTable storageType].mapM
      (ordersLoaded.tableCode (ordersConfig columnDecoration)) = .ok [⟨"Orders",
        (ordersConfig columnDecoration).hooks.renderEntity (ordersTable storageType), "", ""⟩] := by
    rfl
  have distinct := Schema.nodup_names_of_introspect introspected
  have rendered :=
    (@Config.render_eq_ok_iff (ordersConfig columnDecoration) _ _ distinct false _).mpr
      ⟨_, _, loaded, codes_eq, (if_neg Bool.false_ne_true).symm⟩
  rw [preview_eq_ok_iff]
  exact ⟨_, _, introspected, rendered, rfl⟩

/-- The files of the table, with a line above its field. -/
def ordersFiles (decoration : String) : List (String × String) := [
  ("Models/ShopContext.cs", Text.unlines [
    "// \"shop\"",
    "",
    "    [Table(Name = \"orders\")]",
    "    public partial class Orders",
    "    \x7b",
    "        " ++ decoration,
    "        public int id \x7b get; set; \x7d",
    "    \x7d"]),
  ("Repositories/Repository.cs", "\n")]

/-- The attribute of the column with a declared type. -/
def ordersAttribute (declaredType : String) : String :=
  "[Column(Name = \"id\", CanBeNull = false, DbType = \"" ++ declaredType ++ "\")]"

theorem ordersShown_eq :
    ordersShown Column.name "INT" = ordersFiles "id" ∧
      ordersShown Column.attribute "INT" = ordersFiles (ordersAttribute "INT") ∧
      ordersShown Column.attribute "int" = ordersFiles (ordersAttribute "Int") := by
  simp only [ordersShown, ordersFiles, LoadedTemplates.joinedFiles, ordersLoaded, List.map_cons,
    List.map_nil, List.cons.injEq, LoadedTemplates.modelFile, LoadedTemplates.repositoryFile,
    Prod.mk.injEq, LoadedTemplates.contextBody, LoadedTemplates.sharedRepositoryBody,
    TableCode.modelBody, TableCode.repositoryBody, Template.renderContext,
    Template.contextMembers, Table.accessor_eq_unlines, RenderHooks.renderEntity_eq_unlines,
    ← String.toList_inj, Text.toList_ensureTrailingNewline, Template.toList_fillPlaceholder,
    Text.toList_joinBlocks, Text.toList_unlines]
  decide +kernel

/-- An integer type in capitals and in lowercase, with the names of the columns above the fields and
with the usual attributes there. -/
theorem generation_ignores_capitals :
    Generator.preview ⟨ordersConfig Column.name, .csharp⟩ (ordersOfType "INT").catalog
        ordersTemplates = .ok (ordersFiles "id") ∧
    Generator.preview ⟨ordersConfig Column.name, .csharp⟩ (ordersOfType "int").catalog
        ordersTemplates = .ok (ordersFiles "id") ∧
    Generator.preview ⟨ordersConfig Column.attribute, .csharp⟩ (ordersOfType "INT").catalog
        ordersTemplates = .ok (ordersFiles (ordersAttribute "INT")) ∧
    Generator.preview ⟨ordersConfig Column.attribute, .csharp⟩ (ordersOfType "int").catalog
        ordersTemplates = .ok (ordersFiles (ordersAttribute "Int")) ∧
    List.Forall₂ (fun file other =>
        file.1 = other.1 ∧ AgreeButDbTypes file.2.toList other.2.toList)
      (ordersFiles (ordersAttribute "INT")) (ordersFiles (ordersAttribute "Int")) := by
  have respelled : (ordersOfType "INT").IsRespelled (ordersOfType "int") :=
    .cons ⟨_, .cons ⟨"int", .inr ⟨by decide, by decide⟩, rfl⟩ .nil, rfl⟩ .nil
  have mappedType_blind (column other : Column) (pair : column.IsRespelled other) :
      other.mappedType = column.mappedType := by
    obtain ⟨spelling, -, rfl⟩ := pair
    rfl
  have name_blind (column other : Column) (pair : column.IsRespelled other) :
      other.name = column.name := by
    obtain ⟨spelling, -, rfl⟩ := pair
    rfl
  obtain ⟨named_eq, capitals_eq, lowercase_eq⟩ := ordersShown_eq
  have named := preview_orders Column.name "INT"
  have capitals := preview_orders Column.attribute "INT"
  have lowercase := preview_orders Column.attribute "int"
  rw [named_eq] at named
  rw [capitals_eq] at capitals
  rw [lowercase_eq] at lowercase
  have same := ((generation_ignores_type_case (ordersConfig Column.name) .csharp ordersTemplates
    _ _ rfl respelled mappedType_blind fun _ _ _ => rfl).1 name_blind).1
  have alike := (generation_ignores_type_case (ordersConfig Column.attribute) .csharp
    ordersTemplates _ _ rfl respelled mappedType_blind fun _ _ _ => rfl).2 rfl
  rw [capitals, lowercase] at alike
  refine ⟨named, same.symm.trans named, capitals, lowercase, ?_⟩
  cases alike with
  | ok pairs => exact pairs

end Generator
end DataLayer

import DataLayer.Proofs.Generation.Layouts
import DataLayer.Proofs.Generation.Templates
import DataLayer.Proofs.Schema.Outcome

/-!
# What can be rendered

Files can be rendered when all templates are there and none of them uses a field without a value.
Three fields can be without one: the connection of the project, and the name and the type of a
table's key.
-/

namespace DataLayer

namespace Template

/-- The marker of a field stands somewhere in the template. -/
def Mentions (template field : String) : Prop :=
  ("[" ++ field ++ "]").toList <:+: template.toList

instance (template field : String) : Decidable (Mentions template field) :=
  inferInstanceAs (Decidable (_ <:+: _))

theorem allSet_iff_mentions (fields : FieldMap) (template : String) :
    AllSet fields template ↔ ∀ field : String, IsMarkerName field.toList →
      fields.get? field = some none → ¬ Mentions template field := by
  have marker_eq (field : String) :
      ("[" ++ field ++ "]").toList = (Piece.marker field.toList).written fieldOpening := by
    simp [Piece.written, fieldOpening]
  constructor
  · rintro allSet field valid unset ⟨before, after, same⟩
    rw [marker_eq] at same
    refine allSet before field.toList ⟨valid, after, same⟩ ?_
    rwa [FieldMap.IsUnset, String.ofList_toList]
  · rintro unmentioned before name ⟨valid, after, same⟩ unset
    refine unmentioned (String.ofList name) ?_ unset ⟨before, after, ?_⟩
    · rwa [String.toList_ofList]
    · rwa [marker_eq, String.toList_ofList]

end Template

/-- The fields that can be without a value. -/
def unsettableFields : List String :=
  ["ContextConnection", "PrimaryKeyName", "PrimaryKeyType"]

theorem isMarkerName_of_mem_unsettableFields :
    ∀ field ∈ unsettableFields, IsMarkerName field.toList := by
  simp [unsettableFields, IsMarkerName, isMarkerNameChar]

namespace Table

/-- Only the name and the type of the key can be without a value among the fields of a table. -/
theorem get?_fields_eq_some_none_iff (table : Table) (field : String) :
    table.fields.get? field = some none ↔
      field ∈ ["PrimaryKeyName", "PrimaryKeyType"] ∧ table.primaryKey? = none := by
  rw [fields, NamedMap.get?_ofList]
  simp only [List.reverse_cons, List.reverse_nil, List.nil_append, List.cons_append,
    NamedMap.lookup_entry_cons, List.lookup_nil]
  split_ifs <;> simp_all

end Table

namespace Config

/-- Only the connection can be without a value among the fields of a project. -/
theorem get?_fields_eq_some_none_iff (config : Config) (field : String) :
    config.fields.get? field = some none ↔
      field = "ContextConnection" ∧ config.context.connection = none := by
  have unset_iff := @isUnset_fields_iff config field.toList
  rwa [FieldMap.IsUnset, String.ofList_toList] at unset_iff

theorem get?_merge_fields_eq_some_none_iff (config : Config) (table : Table) (field : String) :
    NamedMap.get? (config.fields.merge table.fields) field = some none ↔
      (field = "ContextConnection" ∧ config.context.connection = none) ∨
        (field ∈ ["PrimaryKeyName", "PrimaryKeyType"] ∧ table.primaryKey? = none) := by
  rw [NamedMap.get?_merge, ← Table.get?_fields_eq_some_none_iff, ← get?_fields_eq_some_none_iff,
    Option.or_eq_some_iff]
  constructor
  · rintro (own | ⟨-, shared⟩)
    · exact .inr own
    · exact .inl shared
  · rintro (shared | own)
    · obtain ⟨rfl, -⟩ := (get?_fields_eq_some_none_iff config field).mp shared
      -- No field of a table has the name of the connection, so none hides it.
      exact .inr ⟨rfl, shared⟩
    · exact .inl own

/-! ## Templates that can be filled -/

theorem exists_fillFields_eq_ok_iff (config : Config) (template : String) :
    (∃ filled, Template.fillFields config.fields template = .ok filled) ↔
      (config.context.connection = none → ¬ Template.Mentions template "ContextConnection") := by
  rw [Template.exists_fillFields_eq_ok_iff, Template.allSet_iff_mentions]
  simp only [get?_fields_eq_some_none_iff, and_imp]
  constructor
  · intro unmentioned unconnected
    exact unmentioned _ (isMarkerName_of_mem_unsettableFields _ (by decide)) rfl unconnected
  · rintro unmentioned _ - rfl unconnected
    exact unmentioned unconnected

theorem exists_fillForTable_eq_ok_iff (config : Config) (template : String) (table : Table) :
    (∃ filled, Template.fillForTable config.fields template table = .ok filled) ↔
      (config.context.connection = none → ¬ Template.Mentions template "ContextConnection") ∧
        (table.primaryKey? = none → ¬ Template.Mentions template "PrimaryKeyName" ∧
          ¬ Template.Mentions template "PrimaryKeyType") := by
  simp only [Template.fillForTable]
  rw [Template.exists_fillFields_eq_ok_iff, Template.allSet_iff_mentions]
  simp only [get?_merge_fields_eq_some_none_iff]
  constructor
  · intro unmentioned
    have unsettable := isMarkerName_of_mem_unsettableFields
    refine ⟨fun unconnected => ?_, fun keyless => ⟨?_, ?_⟩⟩
    · exact unmentioned _ (unsettable _ (by decide)) (.inl ⟨rfl, unconnected⟩)
    · exact unmentioned _ (unsettable _ (by decide)) (.inr ⟨by decide, keyless⟩)
    · exact unmentioned _ (unsettable _ (by decide)) (.inr ⟨by decide, keyless⟩)
  · rintro ⟨unconnected_free, keyless_free⟩ field - (⟨rfl, unconnected⟩ | ⟨member, keyless⟩)
    · exact unconnected_free unconnected
    · obtain ⟨name_free, type_free⟩ := keyless_free keyless
      rcases List.mem_pair.mp member with rfl | rfl
      · exact name_free
      · exact type_free

variable {config : Config} {source : TemplateSource} {text : TemplateName → String}

/-- Templates that are there can be loaded when those for the project do not use a connection that
is not set. -/
theorem exists_loadTemplates_iff_of_there (there : ∀ name, source name = .ok (text name)) :
    (∃ templates, config.loadTemplates source = .ok templates) ↔
      (config.context.connection = none → ∀ name ∈ TemplateName.ofProject,
        ¬ Template.Mentions (text name) "ContextConnection") := by
  have configured_eq (name : TemplateName) :
      config.configured source name = Template.fillFields config.fields (text name) := by
    rw [configured, there name]
    rfl
  rw [exists_loadTemplates_iff]
  simp only [configured_eq, exists_fillFields_eq_ok_iff]
  constructor
  · rintro ⟨project, -⟩ unconnected name member
    exact project name member unconnected
  · intro unmentioned
    exact ⟨fun name member unconnected => unmentioned unconnected name member,
      fun name _ => ⟨text name, there name⟩⟩

theorem exists_codes_iff_of_there (there : ∀ name, source name = .ok (text name))
    {templates : LoadedTemplates} (loaded : config.loadTemplates source = .ok templates)
    (tables : List Table) :
    (∃ codes, tables.mapM (templates.tableCode config) = .ok codes) ↔
      ∀ table ∈ tables, ∀ name ∈ TemplateName.ofTable,
        ∃ filled, Template.fillForTable config.fields (text name) table = .ok filled := by
  obtain ⟨-, -, modelEntity, tableRepository, -, -⟩ := (loadTemplates_eq_ok_iff templates).mp loaded
  have modelEntity_eq : text .modelEntity = templates.modelEntity :=
    Except.ok.inj ((there _).symm.trans modelEntity)
  have tableRepository_eq : text .tableRepository = templates.tableRepository :=
    Except.ok.inj ((there _).symm.trans tableRepository)
  rw [Traversal.exists_mapM_eq_ok_iff]
  refine forall₂_congr fun table _ => ?_
  simp only [LoadedTemplates.tableCode_eq_ok_iff, TemplateName.ofTable, List.forall_mem_cons,
    modelEntity_eq, tableRepository_eq]
  constructor
  · rintro ⟨code, -, -, addition, body⟩
    exact ⟨⟨_, addition⟩, ⟨_, body⟩, by simp⟩
  · rintro ⟨⟨addition, addition_eq⟩, ⟨repository, repository_eq⟩, -⟩
    exact ⟨⟨_, _, addition, repository⟩, rfl, rfl, addition_eq, repository_eq⟩

/-- What the templates of a project may not mention, since it has no value: a connection that is not
set, and the key of a table that has none. -/
structure Covers (config : Config) (tables : List Table) (text : TemplateName → String) : Prop where
  /-- Without a connection no template for the project uses it. -/
  project : config.context.connection = none → ∀ name ∈ TemplateName.ofProject,
    ¬ Template.Mentions (text name) "ContextConnection"
  /-- Without a connection no template for a table uses it either. -/
  connection : config.context.connection = none → tables ≠ [] → ∀ name ∈ TemplateName.ofTable,
    ¬ Template.Mentions (text name) "ContextConnection"
  /-- Where a table has no key, no template for a table uses one. -/
  key : (∃ table ∈ tables, table.primaryKey? = none) → ∀ name ∈ TemplateName.ofTable,
    ¬ Template.Mentions (text name) "PrimaryKeyName" ∧
      ¬ Template.Mentions (text name) "PrimaryKeyType"

theorem covers_iff (config : Config) (tables : List Table) (text : TemplateName → String) :
    config.Covers tables text ↔
      (config.context.connection = none → ∀ name ∈ TemplateName.ofProject,
        ¬ Template.Mentions (text name) "ContextConnection") ∧
      ∀ table ∈ tables, ∀ name ∈ TemplateName.ofTable,
        ∃ filled, Template.fillForTable config.fields (text name) table = .ok filled := by
  simp only [exists_fillForTable_eq_ok_iff]
  constructor
  · rintro ⟨project, connection, key⟩
    refine ⟨project, fun table member name perTable => ⟨fun unconnected => ?_, fun keyless => ?_⟩⟩
    · exact connection unconnected (List.ne_nil_of_mem member) name perTable
    · exact key ⟨table, member, keyless⟩ name perTable
  · rintro ⟨project, each_filled⟩
    refine ⟨project, fun unconnected nonempty name perTable => ?_, ?_⟩
    · obtain ⟨table, member⟩ := List.exists_mem_of_ne_nil tables nonempty
      exact (each_filled table member name perTable).1 unconnected
    · rintro ⟨table, member, keyless⟩ name perTable
      exact (each_filled table member name perTable).2 keyless

theorem exists_render_iff_covers {tables : List Table} (distinct : (tables.map (·.name)).Nodup) :
    (∃ files, config.render tables source = .ok files) ↔
      ∃ text : TemplateName → String, (∀ name, source name = .ok (text name)) ∧
        config.Covers tables text := by
  simp only [covers_iff]
  constructor
  · intro rendered
    obtain ⟨templates, codes, loaded, codes_eq⟩ :=
      (exists_render_eq_ok_iff distinct config.multiFile).mp rendered
    choose text there using exists_source_of_loadTemplates loaded
    exact ⟨text, there, (exists_loadTemplates_iff_of_there there).mp ⟨templates, loaded⟩,
      (exists_codes_iff_of_there there loaded tables).mp ⟨codes, codes_eq⟩⟩
  · rintro ⟨text, there, project, each_filled⟩
    obtain ⟨templates, loaded⟩ := (exists_loadTemplates_iff_of_there there).mpr project
    obtain ⟨codes, codes_eq⟩ := (exists_codes_iff_of_there there loaded tables).mpr each_filled
    exact (exists_render_eq_ok_iff distinct config.multiFile).mpr
      ⟨templates, codes, loaded, codes_eq⟩

/-- With a connection, and a key for each table, each value is there that a template can ask for. -/
theorem exists_render_of_keyed {tables : List Table} (distinct : (tables.map (·.name)).Nodup)
    (connected : config.context.connection ≠ none)
    (keyed : ∀ table ∈ tables, table.primaryKey? ≠ none)
    (there : ∀ name, source name = .ok (text name)) :
    ∃ files, config.render tables source = .ok files := by
  have covers : config.Covers tables text := {
    project := fun unset => absurd unset connected
    connection := fun unset => absurd unset connected
    key := fun ⟨table, member, keyless⟩ => absurd keyless (keyed table member) }
  exact (exists_render_iff_covers distinct).mpr ⟨text, there, covers⟩

/-- The error is one of the template source, or it names a field that can be without a value. -/
def MayFailWith (source : TemplateSource) (error : TemplateError) : Prop :=
  (∃ name, source name = .error error) ∨
    ∃ field ∈ unsettableFields, error = .missingFieldValue field

theorem failsOnly_source (name : TemplateName) :
    Traversal.FailsOnly (MayFailWith source) (source name) :=
  fun _ failed => .inl ⟨name, failed⟩

theorem failsOnly_fillFields {fields : FieldMap}
    (unsettable : ∀ field : String, fields.get? field = some none → field ∈ unsettableFields)
    (template : String) :
    Traversal.FailsOnly (MayFailWith source) (Template.fillFields fields template) := by
  intro error failed
  obtain ⟨name, ⟨_, _, unset, _⟩, rfl⟩ := Template.isLeftmostUnset_of_fillFields failed
  exact .inr ⟨_, unsettable _ unset, rfl⟩

theorem failsOnly_configured (name : TemplateName) :
    Traversal.FailsOnly (MayFailWith source) (config.configured source name) := by
  refine .bind (failsOnly_source name) (failsOnly_fillFields fun field unset => ?_)
  obtain ⟨rfl, -⟩ := (get?_fields_eq_some_none_iff config field).mp unset
  decide

theorem failsOnly_fillForTable (config : Config) (template : String) (table : Table) :
    Traversal.FailsOnly (MayFailWith source)
      (Template.fillForTable config.fields template table) := by
  refine failsOnly_fillFields (fun field unset => ?_) template
  rcases (get?_merge_fields_eq_some_none_iff config table field).mp unset with
    ⟨rfl, -⟩ | ⟨member, -⟩
  · decide
  · exact List.mem_cons_of_mem _ member

theorem failsOnly_loadTemplates :
    Traversal.FailsOnly (MayFailWith source) (config.loadTemplates source) :=
  .bind (failsOnly_configured .modelFrame) fun _ =>
    .bind (failsOnly_configured .repositoryFrame) fun _ =>
      .bind (failsOnly_source .modelEntity) fun _ =>
        .bind (failsOnly_source .tableRepository) fun _ =>
          .bind (failsOnly_configured .dataContext) fun _ =>
            .bind (failsOnly_configured .repositoryBase) fun _ => .pure _

theorem failsOnly_filePerTable (templates : LoadedTemplates) (tables : List Table) :
    Traversal.FailsOnly (MayFailWith source) (templates.filePerTable config tables) :=
  .bind (.mapM fun table _ => .bind (failsOnly_fillForTable config _ table) fun _ => .pure _)
    fun _ => .bind (.mapM fun table _ => .bind (failsOnly_fillForTable config _ table) fun _ =>
      .pure _) fun _ => .pure _

theorem failsOnly_filePerGroup (templates : LoadedTemplates) (tables : List Table) :
    Traversal.FailsOnly (MayFailWith source) (templates.filePerGroup config tables) := by
  refine .bind (.mapM fun table _ => ?_) fun _ => .pure _
  exact .bind (failsOnly_fillForTable config _ table) fun _ =>
    .bind (failsOnly_fillForTable config _ table) fun _ => .pure _

theorem failsOnly_render (tables : List Table) :
    Traversal.FailsOnly (MayFailWith source) (config.render tables source) := by
  refine .bind failsOnly_loadTemplates fun templates => ?_
  split
  · exact failsOnly_filePerTable templates tables
  · exact failsOnly_filePerGroup templates tables

/-- Files are rendered for a schema exactly when all six templates are there and none of them uses
the connection or the key where there is none.  Beside the errors of the source, only these three
fields are named as missing. -/
theorem renderable_iff_templates_fillable {mapper : TypeMapper} {catalog : Catalog}
    {tables : List Table} (introspected : Schema.introspect mapper catalog = .ok tables)
    (config : Config) (source : TemplateSource) :
    ((∃ files, config.render tables source = .ok files) ↔
      ∃ text : TemplateName → String, (∀ name, source name = .ok (text name)) ∧
        (config.context.connection ≠ none ∨
          (∀ name ∈ TemplateName.ofProject,
            ¬ Template.Mentions (text name) "ContextConnection") ∧
          (tables ≠ [] → ∀ name ∈ TemplateName.ofTable,
            ¬ Template.Mentions (text name) "ContextConnection")) ∧
        ((∃ table ∈ tables, ∀ column ∈ table.columns, column.name ∉ table.primaryKeyNames) →
          ∀ name ∈ TemplateName.ofTable, ¬ Template.Mentions (text name) "PrimaryKeyName" ∧
            ¬ Template.Mentions (text name) "PrimaryKeyType")) ∧
    ∀ error, config.render tables source = .error error →
      (∃ name, source name = .error error) ∨
        ∃ field ∈ ["ContextConnection", "PrimaryKeyName", "PrimaryKeyType"],
          error = .missingFieldValue field := by
  have keyless_iff : (∃ table ∈ tables, table.primaryKey? = none) ↔
      ∃ table ∈ tables, ∀ column ∈ table.columns, column.name ∉ table.primaryKeyNames := by
    refine exists_congr fun table => and_congr_right fun member => ?_
    obtain ⟨entry, read⟩ := Schema.exists_entry_of_introspect introspected member
    exact read.primaryKey?_eq_none_iff
  refine ⟨?_, failsOnly_render tables⟩
  -- Type names differ after an introspection, so each table finds its own class in both layouts.
  rw [exists_render_iff_covers (Schema.nodup_names_of_introspect introspected)]
  refine exists_congr fun text => and_congr_right fun _ => ?_
  constructor
  · rintro ⟨project, connection, key⟩
    refine ⟨?_, fun keyless => key (keyless_iff.mpr keyless)⟩
    by_cases connected : config.context.connection = none
    · exact .inr ⟨project connected, connection connected⟩
    · exact .inl connected
  · rintro ⟨connected | ⟨project, connection⟩, key⟩
    · refine ⟨?_, ?_, fun keyless => key (keyless_iff.mp keyless)⟩
      · exact fun unconnected => absurd unconnected connected
      · exact fun unconnected => absurd unconnected connected
    · exact ⟨fun _ => project, fun _ => connection, fun keyless => key (keyless_iff.mp keyless)⟩

/-- The error of a source is passed on, whatever field it names.  Beside a project, shared fields
can have any names, and one without a value is missing. -/
theorem missing_field_of_source :
    Schema.introspect .csharp (Snapshot.catalog ⟨[{ name := "log" }]⟩) =
        .ok [.ofAnswers .csharp "log" [] [] []] ∧
      { baseNamespace := "Shop" : Config }.render [.ofAnswers .csharp "log" [] [] []]
        (fun _ => .error (.missingFieldValue "Foo")) = .error (.missingFieldValue "Foo") ∧
      Template.renderRepository (.ofList [("Foo", none)]) "[Foo]" "//[Placeholder]"
        (.ofAnswers .csharp "log" [] [] []) = .error (.missingFieldValue "Foo") ∧
      "Foo" ∉ ["ContextConnection", "PrimaryKeyName", "PrimaryKeyType"] := by
  refine ⟨rfl, rfl, ?_, by decide⟩
  decide +kernel

theorem renderable_keyless_table :
    ∃ tables, Schema.introspect .csharp (Snapshot.catalog ⟨[{ name := "log" }]⟩) = .ok tables ∧
      (¬ ∃ files, { baseNamespace := "Shop" : Config }.render tables
        (fun name => .ok (if name = .tableRepository then "[PrimaryKeyName]" else "")) =
          .ok files) ∧
      ∃ files, { baseNamespace := "Shop" : Config }.render tables
        (fun name => .ok (if name = .repositoryBase then "[PrimaryKeyName]" else "")) =
          .ok files := by
  have introspected : Schema.introspect .csharp (Snapshot.catalog ⟨[{ name := "log" }]⟩) =
      .ok [.ofAnswers .csharp "log" [] [] []] := rfl
  have keyless : ∃ table ∈ [Table.ofAnswers .csharp "log" [] [] []],
      ∀ column ∈ table.columns, column.name ∉ table.primaryKeyNames := by
    simp [Table.ofAnswers]
  refine ⟨_, introspected, ?_, ?_⟩
  · intro rendered
    obtain ⟨text, there, -, key⟩ :=
      (renderable_iff_templates_fillable introspected _ _).1.mp rendered
    have text_eq : "[PrimaryKeyName]" = text .tableRepository :=
      Except.ok.inj (there .tableRepository)
    refine (key keyless .tableRepository (by decide)).1 ?_
    rw [← text_eq]
    exact ⟨[], [], rfl⟩
  · refine (renderable_iff_templates_fillable introspected _ _).1.mpr ⟨_, fun _ => rfl, ?_, ?_⟩
    · exact .inr ⟨by decide +kernel, fun _ => by decide +kernel⟩
    · exact fun _ => by decide +kernel

end Config
end DataLayer

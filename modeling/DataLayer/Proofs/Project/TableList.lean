import DataLayer.Project.Tables
import DataLayer.Proofs.Project.Check
import DataLayer.Proofs.Schema.Snapshot

/-!
# Checks and lists of tables

A check and a list of tables look at one schema.  The check counts the tables that are listed, and
it warns of exactly the columns that the list flags, whatever becomes of the templates.  Those are
the columns whose storage type has no family and is passed through.
-/

namespace DataLayer

/-- What a list of tables shows of a column in the catalog. -/
structure ColumnSummary.Shows (shown : ColumnSummary) (info : ColumnInfo) : Prop where
  name_eq : shown.name = info.name
  /-- Columns are flagged exactly if their storage type has no family. -/
  flagged_iff : "unmapped" ∈ shown.flags ↔ StorageFamily.classify? info.storageType = none
  /-- A storage type of no family is passed through, whether the column can be null or not. -/
  passed_through : "unmapped" ∈ shown.flags → shown.mappedType = info.storageType
  /-- Any other type goes by its family, and only where the values are no texts by nullability. -/
  mapped : ∀ family, StorageFamily.classify? info.storageType = some family →
    shown.mappedType = TypeMapper.csharpFamilyType family ++
      if info.nullable = true ∧ family ≠ .variableText ∧ family ≠ .longText then "?" else ""

/-- The columns that a list of tables flags in a table. -/
def TableSummary.flagged (table : TableSummary) : List ColumnSummary :=
  table.columns.filter fun column => "unmapped" ∈ column.flags

theorem Column.unmapped_mem_flags_iff (column : Column) :
    "unmapped" ∈ column.flags ↔ column.family? = none := by
  simp only [flags, List.mem_append]
  cases column.primaryKey <;> cases column.generated <;> cases column.family? <;> simp

theorem StorageFamily.isReference_eq_false_iff (family : StorageFamily) :
    family.isReference = false ↔ family ≠ .variableText ∧ family ≠ .longText := by
  cases family <;> decide

/-- A mapped type is that of the family, which only values that are no texts change to be null. -/
theorem TypeMapper.map_csharp_of_family {storageType : String} {family : StorageFamily}
    (recognised : StorageFamily.classify? storageType = some family) (nullable : Bool) :
    csharp.map storageType nullable = csharpFamilyType family ++
      if nullable = true ∧ family ≠ .variableText ∧ family ≠ .longText then "?" else "" := by
  have map_eq : csharp.map storageType nullable =
      if nullable && !family.isReference then csharpFamilyType family ++ "?"
      else csharpFamilyType family := by
    simp only [map, csharp, mapByFamily, recognised]
  rw [map_eq]
  simp only [← StorageFamily.isReference_eq_false_iff, Bool.and_eq_true, Bool.not_eq_true']
  split_ifs
  · rfl
  · exact String.append_empty.symm

theorem TypeMapper.map_csharp_of_unrecognised {storageType : String}
    (unrecognised : StorageFamily.classify? storageType = none) (nullable : Bool) :
    csharp.map storageType nullable = storageType := by
  simp only [map, csharp, mapByFamily, unrecognised]

theorem Column.IsReadFrom.shows {keys identity : List String} {info : ColumnInfo} {column : Column}
    (read : column.IsReadFrom .csharp keys identity info) : column.summary.Shows info := by
  have family_eq : column.family? = StorageFamily.classify? info.storageType := by
    rw [Column.family?, read.storageType_eq]
  have flagged_iff : "unmapped" ∈ column.summary.flags ↔
      StorageFamily.classify? info.storageType = none := by
    rw [← family_eq]
    exact column.unmapped_mem_flags_iff
  refine ⟨read.name_eq, flagged_iff, fun flagged => ?_, fun family recognised => ?_⟩
  · exact read.mappedType_eq.trans
      (TypeMapper.map_csharp_of_unrecognised (flagged_iff.mp flagged) info.nullable)
  · exact read.mappedType_eq.trans (TypeMapper.map_csharp_of_family recognised info.nullable)

theorem Table.IsReadFrom.mappedType_eq_storageType {entry : TableEntry} {table : Table}
    (read : table.IsReadFrom .csharp entry) {column : Column} (member : column ∈ table.columns)
    (unrecognised : column.family? = none) : column.mappedType = column.storageType := by
  obtain rfl := (Table.isReadFrom_iff .csharp entry table).mp read
  obtain ⟨info, -, rfl⟩ := List.mem_map.mp member
  exact TypeMapper.map_csharp_of_unrecognised unrecognised info.nullable

/-- The warnings about a table are about the columns that a list flags in it, in order. -/
theorem Table.IsReadFrom.warnings_eq {entry : TableEntry} {table : Table}
    (read : table.IsReadFrom .csharp entry) :
    table.warnings = table.summary.flagged.map fun column =>
      table.storageName ++ "." ++ column.name ++ ": storage type '" ++ column.mappedType ++
        "' is passed through unmapped" := by
  have flagged_eq : table.summary.flagged =
      (table.columns.filter (·.family?.isNone)).map (·.summary) := by
    rw [TableSummary.flagged, summary, List.filter_map]
    refine congrArg _ (List.filter_congr fun column _ => ?_)
    rw [Bool.eq_iff_iff, Function.comp_apply, decide_eq_true_iff, Option.isNone_iff_eq_none]
    exact column.unmapped_mem_flags_iff
  rw [flagged_eq, List.map_map, warnings]
  refine List.map_congr_left fun column member => ?_
  obtain ⟨column_mem, unmapped⟩ := List.mem_filter.mp member
  have verbatim : column.mappedType = column.storageType :=
    read.mappedType_eq_storageType column_mem (Option.isNone_iff_eq_none.mp unmapped)
  rw [Column.passThroughWarning, ← verbatim]
  rfl

namespace Project

variable {config : Config} {snapshot : Snapshot} {schema : List Table}

/-- What a check finds in the tables does not depend on the templates. -/
theorem checkLoaded_of_introspect (config : Config) (configPath : String) (source : TemplateSource)
    (introspected : Schema.introspect .csharp snapshot.catalog = .ok schema) :
    (checkLoaded config configPath (.ok snapshot) source).tables = some schema.length ∧
      (checkLoaded config configPath (.ok snapshot) source).warnings =
        schema.flatMap Table.warnings := by
  simp only [checkLoaded, introspected, checkTables]
  split_ifs
  · cases config.render schema source <;> exact ⟨rfl, rfl⟩
  · exact ⟨rfl, rfl⟩

theorem outcome_tables_of_introspect {tree : FileTree}
    (loaded : tree.snapshotAt config.catalogPath = .ok snapshot)
    (introspected : Schema.introspect .csharp snapshot.catalog = .ok schema) :
    Stateful.outcome (tables config) tree = (.ok (schema.map Table.summary), tree) := by
  rw [tables, Stateful.outcome_bind, FileTree.outcome_loadCatalog, loaded]
  simp only [Except.mapError, introspected, Stateful.outcome_pure]

/-- A check counts the tables that are listed, and it warns of the columns that the list flags, one
by one and in order.  The list shows the tables and columns of the catalog.  None of this depends
on the templates.  A warning names the storage type, which is what the flagged column is mapped
to. -/
theorem check_agrees_with_tables (config : Config) (configPath : String) (tree : FileTree)
    {snapshot : Snapshot} {schema : List Table}
    (loaded :
      ((Snapshot.load config.catalogPath : StateM FileTree _).run tree).1 = .ok snapshot)
    (introspected : Schema.introspect .csharp snapshot.catalog = .ok schema) :
    ∃ listed, (Stateful.outcome (tables config) tree).1 = .ok listed ∧
      ((check config configPath : StateM FileTree _).run tree).1.tables = some listed.length ∧
      (((check config configPath : StateM FileTree _).run tree).1.warnings =
        listed.flatMap fun table => table.flagged.map fun column =>
          table.storageName ++ "." ++ column.name ++ ": storage type '" ++ column.mappedType ++
            "' is passed through unmapped") ∧
      List.Forall₂ (fun (entry : TableEntry) (shown : TableSummary) =>
          shown.storageName = entry.name ∧ shown.name = Text.upperFirst entry.name ∧
            List.Forall₂ (fun info column => column.Shows info) entry.columns shown.columns)
        snapshot.tables listed := by
  have loaded : tree.snapshotAt config.catalogPath = .ok snapshot := by
    rwa [FileTree.run_load] at loaded
  obtain ⟨-, each_read⟩ := (Snapshot.introspect_eq_ok_iff schema).mp introspected
  rw [run_check, loaded, outcome_tables_of_introspect loaded introspected]
  obtain ⟨count_eq, warnings_eq⟩ :=
    checkLoaded_of_introspect config configPath (tree.templatesOf config) introspected
  refine ⟨_, rfl, ?_, ?_, ?_⟩
  · rw [count_eq, List.length_map]
  · rw [warnings_eq, List.flatMap_map]
    refine List.flatMap_congr fun table member => ?_
    obtain ⟨entry, read⟩ := Schema.exists_entry_of_introspect introspected member
    exact read.warnings_eq
  · rw [List.forall₂_map_right_iff]
    refine each_read.imp fun entry table read => ⟨read.storageName_eq, read.name_eq, ?_⟩
    exact List.forall₂_map_right_iff.mpr (read.columns.imp fun _ _ column_read => column_read.shows)

/-- A catalog with a storage type of no family. -/
def placesText : String :=
  "[[tables]]\nname = \"places\"\n" ++
    "[[tables.columns]]\nname = \"shape\"\ntype = \"geography\"\nnullable = true\n" ++
    "[[tables.columns]]\nname = \"height\"\ntype = \"int\"\nnullable = true\n"

/-- The columns of its table. -/
def placesColumns : List ColumnInfo := [
  { name := "shape", storageType := "geography", nullable := true },
  { name := "height", storageType := "int", nullable := true }]

/-- A project whose templates are not there. -/
def placesConfig : Config where
  baseNamespace := "Shop"
  catalogPath := "schema.toml"
  templateDir := some "missing"

/-- The files of that project. -/
def placesTree : FileTree :=
  .ofCatalog placesText

theorem parse_placesText : Snapshot.parse .toml "schema.toml" placesText =
    .ok ⟨[{ name := "places", columns := placesColumns }]⟩ := by
  have document_eq : Toml.document? placesText = some (.record [
      ("tables", .sequence [.record [("name", .text "places"), ("columns", .sequence [
        .record [("name", .text "shape"), ("type", .text "geography"),
          ("nullable", .boolean true)] true,
        .record [("name", .text "height"), ("type", .text "int"),
          ("nullable", .boolean true)] true])] true])] true) := by
    decide +kernel
  rw [Snapshot.parse, DocumentFormat.read, document_eq]
  simp [placesColumns, Snapshot.ofValue, snapshotShape, readTable, tableShape, readColumn,
    columnShape, RecordShape.read, DocumentFormat.visitOrder, sortByName, List.mergeSort,
    RecordShape.readNamed, RecordShape.required, Value.asText, Value.asSequence,
    Value.asBoolean, Value.asOptional, bind, Except.bind, pure, Except.pure, Except.map]

theorem templatesOf_placesConfig :
    placesTree.templatesOf placesConfig .modelFrame =
      .error (.unreadable .modelFrame "missing/ModelFrame.txt" FileError.notFound.message) := by
  have path_eq : TemplateSource.pathIn "missing" .modelFrame = "missing/ModelFrame.txt" := by
    decide +kernel
  have unread : placesTree.readText "missing/ModelFrame.txt" = .error .notFound := by
    rw [placesTree, FileTree.readText, FileTree.follow, FileTree.locate, FileTree.start_ofCatalog]
    rfl
  simp only [FileTree.templatesOf, FileTree.templateIn, placesConfig, path_eq, unread]

/-- Of two columns that can be null one is flagged, and no template is needed for that. -/
theorem check_agrees_with_tables_without_templates :
    ∃ listed : List TableSummary,
      ((check placesConfig "dalgen.toml" : StateM FileTree _).run placesTree).1.isValid = false ∧
      (Stateful.outcome (tables placesConfig) placesTree).1 = .ok listed ∧
      listed.map (fun table => table.columns.map (·.mappedType)) = [["geography", "int?"]] ∧
      ((check placesConfig "dalgen.toml" : StateM FileTree _).run placesTree).1.tables = some 1 ∧
      ((check placesConfig "dalgen.toml" : StateM FileTree _).run placesTree).1.warnings =
        ["places.shape: storage type 'geography' is passed through unmapped"] := by
  have snapshot_eq : placesTree.snapshotAt placesConfig.catalogPath =
      .ok ⟨[{ name := "places", columns := placesColumns }]⟩ :=
    FileTree.snapshotAt_ofCatalog parse_placesText
  have loaded : ((Snapshot.load placesConfig.catalogPath : StateM FileTree _).run placesTree).1 =
      .ok ⟨[{ name := "places", columns := placesColumns }]⟩ := by
    rw [FileTree.run_load, snapshot_eq]
  have introspected : Schema.introspect .csharp
      (Snapshot.catalog ⟨[{ name := "places", columns := placesColumns }]⟩) =
        .ok [.ofAnswers .csharp "places" [] [] placesColumns] := rfl
  obtain ⟨listed, listed_eq, count_eq, warnings_eq, -⟩ :=
    check_agrees_with_tables placesConfig "dalgen.toml" placesTree loaded introspected
  obtain rfl : [(Table.ofAnswers .csharp "places" [] [] placesColumns).summary] = listed := by
    rw [outcome_tables_of_introspect snapshot_eq introspected] at listed_eq
    exact Except.ok.inj listed_eq
  refine ⟨_, ?_, listed_eq, rfl, count_eq, warnings_eq.trans rfl⟩
  rw [Bool.eq_false_iff, run_check, ne_eq, isValid_checkLoaded_iff]
  rintro ⟨_, tables, files, -, -, rendered⟩
  obtain ⟨text, read_template⟩ :=
    templateErrors_eq_nil_iff.mp (templateErrors_eq_nil_of_render rendered) .modelFrame
  rw [templatesOf_placesConfig] at read_template
  cases read_template

end Project
end DataLayer

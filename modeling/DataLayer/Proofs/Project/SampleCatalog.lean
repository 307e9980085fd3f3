import DataLayer.Catalog.Decode
import DataLayer.Project.Scaffold
import DataLayer.Proofs.Document.Lines
import DataLayer.Proofs.Generation.Renderable

/-!
# The sample catalog

The sample catalog of a new project describes two tables.
-/

namespace DataLayer
namespace Scaffold

/-- The tables of the sample catalog. -/
def sample : Snapshot where
  tables := [
    { name := "customers"
      primaryKey := ["id"]
      identity := ["id"]
      columns := [
        ⟨"id", "int", false, none⟩,
        ⟨"name", "nvarchar", false, some 100⟩,
        ⟨"email", "varchar", true, some 255⟩] },
    { name := "orders"
      primaryKey := ["id"]
      identity := ["id"]
      columns := [
        ⟨"id", "int", false, none⟩,
        ⟨"customer_id", "int", false, none⟩,
        ⟨"placed", "datetime", false, none⟩,
        ⟨"total", "money", true, none⟩,
        ⟨"note", "varchar", true, some (-1)⟩] }]

/-- The value of the sample catalog. -/
def sampleDocument : Value :=
  .record [("tables", .sequence [
    .record [("name", .text "customers"), ("primary_key", .sequence [.text "id"]),
      ("identity", .sequence [.text "id"]),
      ("columns", .sequence [
        .record [("name", .text "id"), ("type", .text "int")] true,
        .record [("name", .text "name"), ("type", .text "nvarchar"), ("length", .integer 100)] true,
        .record [("name", .text "email"), ("type", .text "varchar"), ("nullable", .boolean true),
          ("length", .integer 255)] true])] true,
    .record [("name", .text "orders"), ("primary_key", .sequence [.text "id"]),
      ("identity", .sequence [.text "id"]),
      ("columns", .sequence [
        .record [("name", .text "id"), ("type", .text "int")] true,
        .record [("name", .text "customer_id"), ("type", .text "int")] true,
        .record [("name", .text "placed"), ("type", .text "datetime")] true,
        .record [("name", .text "total"), ("type", .text "money"),
          ("nullable", .boolean true)] true,
        .record [("name", .text "note"), ("type", .text "varchar"), ("nullable", .boolean true),
          ("length", .integer (-1))] true])] true])] true

theorem document?_sample :
    Toml.document? (Text.unlines sampleCatalogLines) = some sampleDocument := by
  have noMark : (Text.unlines sampleCatalogLines).toList.head? ≠ some '\uFEFF' := by
    rw [sampleCatalogLines, Text.toList_unlines_cons]
    exact (by decide : some '#' ≠ some '\uFEFF')
  rw [Toml.document?, Toml.dropByteOrderMark_of_head? noMark, Text.toList_unlines]
  decide +kernel

theorem ofValue_sample : Snapshot.ofValue .toml sampleDocument = .ok sample := by
  simp [sampleDocument, sample, Snapshot.ofValue, snapshotShape, readTable, tableShape, readColumn,
    columnShape, RecordShape.read, DocumentFormat.visitOrder, sortByName, List.mergeSort,
    RecordShape.readNamed, RecordShape.required, Value.asText, Value.asSequence, Value.asInt32,
    Value.asBoolean, Value.asOptional, bind, Except.bind, pure, Except.pure, Except.map]

/-- The text of the sample catalog reads as two tables. -/
theorem parse_sample (origin : String) :
    Snapshot.parse .toml origin (Text.unlines sampleCatalogLines) = .ok sample := by
  rw [Snapshot.parse, DocumentFormat.read, document?_sample]
  simp only [ofValue_sample]

theorem introspect_sample :
    ∃ tables, Schema.introspect .csharp sample.catalog = .ok tables ∧
      tables.map (·.name) = ["Customers", "Orders"] ∧
      ∀ table ∈ tables, table.primaryKey? ≠ none := by
  have summary : (Schema.introspect .csharp sample.catalog).map
      (fun tables => (tables.map (·.name), tables.all (·.primaryKey?.isSome))) =
        .ok (["Customers", "Orders"], true) := by
    decide +kernel
  obtain ⟨tables, tables_eq, summary_eq⟩ := (Traversal.map_eq_ok_iff _ _ _).mp summary
  obtain ⟨names_eq, keyed⟩ := Prod.mk.inj summary_eq
  refine ⟨tables, tables_eq, names_eq, fun table member => ?_⟩
  exact Option.isSome_iff_ne_none.mp (List.all_eq_true.mp keyed table member)

/-- The groups and names of the files for the two tables, beside the name of the data context. -/
def sampleFiles (contextName : String) (multiFile : Bool) : List (OutputGroup × String) :=
  if multiFile then
    [(.models, contextName), (.models, "Customers"), (.models, "Orders"),
      (.repositories, "Repository"), (.repositories, "Customers"), (.repositories, "Orders")]
  else [(.models, contextName), (.repositories, "Repository")]

/-- A project with a connection renders the sample catalog with any templates that are there. -/
theorem exists_render_sample {config : Config} (connected : config.context.connection ≠ none)
    {source : TemplateSource} {text : TemplateName → String}
    (there : ∀ name, source name = .ok (text name)) :
    ∃ tables files, Schema.introspect .csharp sample.catalog = .ok tables ∧ tables.length = 2 ∧
      config.render tables source = .ok files ∧
      files.map (fun file => (file.group, file.name)) =
        sampleFiles config.context.name config.multiFile := by
  obtain ⟨tables, introspected, names_eq, keyed⟩ := introspect_sample
  have distinct := Schema.nodup_names_of_introspect introspected
  have count : tables.length = 2 := by
    rw [← List.length_map (fun table : Table => table.name), names_eq]
    rfl
  obtain ⟨files, rendered⟩ := Config.exists_render_of_keyed distinct connected keyed there
  refine ⟨tables, files, introspected, count, rendered, ?_⟩
  have table_names (group : OutputGroup) :
      tables.map (fun table => (group, table.name)) =
        [(group, "Customers"), (group, "Orders")] := by
    have named := congrArg (List.map (group, ·)) names_eq
    rwa [List.map_map] at named
  rw [Config.map_name_of_render distinct rendered, table_names, table_names]
  rfl

end Scaffold
end DataLayer

import DataLayer.Catalog.Decode
import DataLayer.Proofs.Document.Fields

/-!
# Decoding snapshots

What a snapshot is read as is decided level by level by what the records say: a column by its own
record, a table by its record and its columns, the snapshot by its tables.  So a snapshot can be
written down in many ways, with the names of a record in any order and with defaults left out, and
all of them are read as that snapshot.
-/

namespace DataLayer

open RecordShape

namespace ColumnEntry

/-- The name of the column, if the entry holds it. -/
def name? : ColumnEntry → Option String
  | .name value => some value
  | _ => none

/-- The name of the storage type, if the entry holds it. -/
def storageType? : ColumnEntry → Option String
  | .storageType value => some value
  | _ => none

/-- Whether the column can be null, if the entry says so. -/
def nullable? : ColumnEntry → Option Bool
  | .nullable value => some value
  | _ => none

/-- The declared length, if the entry holds it. -/
def length? : ColumnEntry → Option (Option Int)
  | .length value => some value
  | _ => none

theorem picks_name : columnShape.Picks "name" Value.asText name? :=
  picks_of_field (by decide) .name (by simp [columnShape]) (fun _ => rfl)
    (by simp [columnShape, Traversal.map_eq_ok_iff, name?, or_imp, forall_and])

theorem picks_storageType : columnShape.Picks "type" Value.asText storageType? :=
  picks_of_field (by decide) .storageType (by simp [columnShape]) (fun _ => rfl)
    (by simp [columnShape, Traversal.map_eq_ok_iff, storageType?, or_imp, forall_and])

theorem picks_nullable : columnShape.Picks "nullable" Value.asBoolean nullable? :=
  picks_of_field (by decide) .nullable (by simp [columnShape]) (fun _ => rfl)
    (by simp [columnShape, Traversal.map_eq_ok_iff, nullable?])

theorem picks_length :
    columnShape.Picks "length" (Value.asOptional Value.asInt32) length? :=
  picks_of_field (by decide) .length (by simp [columnShape]) (fun _ => rfl)
    (by simp [columnShape, Traversal.map_eq_ok_iff, length?, or_imp, forall_and])

end ColumnEntry

theorem readColumn_record_eq_ok_iff (format : DocumentFormat) (entries : List (String × Value))
    (closed : Bool) (column : ColumnInfo) :
    readColumn format (.record entries closed) = .ok column ↔
      closed = true ∧ (entries.map Prod.fst).Nodup ∧
        (∀ named ∈ entries, columnShape.Readable named) ∧
        stated? entries "name" Value.asText = some column.name ∧
        stated? entries "type" Value.asText = some column.storageType ∧
        (stated? entries "nullable" Value.asBoolean).getD false = column.nullable ∧
        (stated? entries "length" (Value.asOptional Value.asInt32)).join = column.length := by
  refine read_record_eq_ok_iff fun distinct found reads => ?_
  rw [← ColumnEntry.picks_name.findSome?_eq distinct reads,
    ← ColumnEntry.picks_storageType.findSome?_eq distinct reads,
    ← ColumnEntry.picks_nullable.findSome?_eq distinct reads,
    ← ColumnEntry.picks_length.findSome?_eq distinct reads]
  simp only [Traversal.bind_eq_ok_iff, required_eq_ok_iff, Traversal.pure_eq_ok_iff]
  constructor
  · rintro ⟨name, name_eq, storageType, storageType_eq, rfl⟩
    exact ⟨name_eq, storageType_eq, rfl, rfl⟩
  · rintro ⟨name_eq, storageType_eq, nullable_eq, length_eq⟩
    refine ⟨_, name_eq, _, storageType_eq, ?_⟩
    obtain ⟨name, storageType, nullable, length⟩ := column
    exact congrArg₂ (ColumnInfo.mk name storageType) nullable_eq length_eq

namespace TableField

/-- The name of the table, if the entry holds it. -/
def name? : TableField → Option String
  | .name value => some value
  | _ => none

/-- The columns of the primary key, if the entry holds them. -/
def primaryKey? : TableField → Option (List String)
  | .primaryKey value => some value
  | _ => none

/-- The columns whose values the database makes, if the entry holds them. -/
def identity? : TableField → Option (List String)
  | .identity value => some value
  | _ => none

/-- All columns, if the entry holds them. -/
def columns? : TableField → Option (List ColumnInfo)
  | .columns value => some value
  | _ => none

variable (format : DocumentFormat)

theorem picks_name : (tableShape format).Picks "name" Value.asText name? :=
  picks_of_field (by simp [fieldNames, tableShape]) .name (by simp [tableShape]) (fun _ => rfl)
    (by simp [tableShape, Traversal.map_eq_ok_iff, name?, or_imp, forall_and])

theorem picks_primaryKey :
    (tableShape format).Picks "primary_key" (Value.asSequence Value.asText) primaryKey? :=
  picks_of_field (by simp [fieldNames, tableShape]) .primaryKey (by simp [tableShape])
    (fun _ => rfl)
    (by simp [tableShape, Traversal.map_eq_ok_iff, primaryKey?, or_imp, forall_and])

theorem picks_identity :
    (tableShape format).Picks "identity" (Value.asSequence Value.asText) identity? :=
  picks_of_field (by simp [fieldNames, tableShape]) .identity (by simp [tableShape]) (fun _ => rfl)
    (by simp [tableShape, Traversal.map_eq_ok_iff, identity?, or_imp, forall_and])

theorem picks_columns :
    (tableShape format).Picks "columns" (Value.asSequence (readColumn format)) columns? :=
  picks_of_field (by simp [fieldNames, tableShape]) .columns (by simp [tableShape]) (fun _ => rfl)
    (by simp [tableShape, Traversal.map_eq_ok_iff, columns?, or_imp, forall_and])

end TableField

theorem readTable_record_eq_ok_iff (format : DocumentFormat) (entries : List (String × Value))
    (closed : Bool) (table : TableEntry) :
    readTable format (.record entries closed) = .ok table ↔
      closed = true ∧ (entries.map Prod.fst).Nodup ∧
        (∀ named ∈ entries, (tableShape format).Readable named) ∧
        stated? entries "name" Value.asText = some table.name ∧
        (stated? entries "primary_key" (Value.asSequence Value.asText)).getD [] = table.primaryKey ∧
        (stated? entries "identity" (Value.asSequence Value.asText)).getD [] = table.identity ∧
        (stated? entries "columns" (Value.asSequence (readColumn format))).getD [] =
          table.columns := by
  refine read_record_eq_ok_iff fun distinct found reads => ?_
  rw [← (TableField.picks_name format).findSome?_eq distinct reads,
    ← (TableField.picks_primaryKey format).findSome?_eq distinct reads,
    ← (TableField.picks_identity format).findSome?_eq distinct reads,
    ← (TableField.picks_columns format).findSome?_eq distinct reads]
  simp only [Traversal.bind_eq_ok_iff, required_eq_ok_iff, Traversal.pure_eq_ok_iff]
  constructor
  · rintro ⟨name, name_eq, rfl⟩
    exact ⟨name_eq, rfl, rfl, rfl⟩
  · rintro ⟨name_eq, primaryKey_eq, identity_eq, columns_eq⟩
    refine ⟨_, name_eq, ?_⟩
    obtain ⟨name, primaryKey, identity, columns⟩ := table
    obtain rfl : _ = primaryKey := primaryKey_eq
    exact congrArg₂ (TableEntry.mk name _) identity_eq columns_eq

theorem Snapshot.picks_tables (format : DocumentFormat) :
    (snapshotShape format).Picks "tables" (Value.asSequence (readTable format)) some := by
  refine picks_of_field (by simp [fieldNames, snapshotShape]) id ?_ (fun _ => rfl) ?_
  · have unwrapped (outcome : Except DocumentProblem (List TableEntry)) :
        outcome.map id = outcome := by cases outcome <;> rfl
    simp [snapshotShape, unwrapped]
  · simp [snapshotShape]

theorem Snapshot.ofValue_record_eq_ok_iff (format : DocumentFormat)
    (entries : List (String × Value)) (closed : Bool) (snapshot : Snapshot) :
    Snapshot.ofValue format (.record entries closed) = .ok snapshot ↔
      closed = true ∧ (entries.map Prod.fst).Nodup ∧
        (∀ named ∈ entries, (snapshotShape format).Readable named) ∧
        (stated? entries "tables" (Value.asSequence (readTable format))).getD [] =
          snapshot.tables := by
  refine read_record_eq_ok_iff fun distinct found reads => ?_
  rw [← (Snapshot.picks_tables format).findSome?_eq distinct reads]
  have head_eq : found.findSome? some = found.head? := by cases found <;> rfl
  rw [head_eq]
  constructor
  · intro read
    rw [← Except.ok.inj read]
  · intro tables_eq
    rw [tables_eq]

end DataLayer

import DataLayer.Proofs.Catalog.Decoding

/-!
# Written forms of snapshots

A snapshot is written down as a tree of records.  The names of a record can come in any order, and
what has its default may be given or left out.  Every such tree is read as the snapshot, in either
notation, and no tree is read that has a name too many, lacks one that it needs, or has a length
that does not fit.
-/

namespace DataLayer

open RecordShape

/-- The names of a record are names of fields, in any order and none of them twice. -/
structure NamesFields (entries : List (String × Value)) (fields : List String) : Prop where
  /-- No name comes twice. -/
  distinct : (entries.map Prod.fst).Nodup
  /-- Every name is that of a field. -/
  known : ∀ name ∈ entries.map Prod.fst, name ∈ fields

/-- A record says what is wanted under a name, or it leaves the name out, which stands for the
default. -/
def States (entries : List (String × Value)) (name : String) (wanted : Value → Prop)
    (isDefault : Prop) : Prop :=
  (∃ value, entries.lookup name = some value ∧ wanted value) ∨
    entries.lookup name = none ∧ isDefault

/-- The number is a whole number of 32 bits. -/
def IsInt32 (number : Int) : Prop :=
  -2147483648 ≤ number ∧ number ≤ 2147483647

/-- Values that stand for a declared length. -/
inductive LengthForm (format : DocumentFormat) : Option Int → Value → Prop where
  /-- A length is a whole number. -/
  | given {length : Int} (fits : IsInt32 length) : LengthForm format (some length) (.integer length)
  /-- No length is null, in JSON. -/
  | null (json : format = .json) : LengthForm format none .null

/-- Records that stand for a column. -/
inductive ColumnForm (format : DocumentFormat) : ColumnInfo → Value → Prop where
  /-- Name and storage type are needed. -/
  | record {column : ColumnInfo} {entries : List (String × Value)}
    (names : NamesFields entries ["name", "type", "nullable", "length"])
    (name : entries.lookup "name" = some (.text column.name))
    (storageType : entries.lookup "type" = some (.text column.storageType))
    (nullable : States entries "nullable" (· = .boolean column.nullable) (column.nullable = false))
    (length : States entries "length" (LengthForm format column.length) (column.length = none)) :
    ColumnForm format column (.record entries true)

/-- Records that stand for a table. -/
inductive TableForm (format : DocumentFormat) : TableEntry → Value → Prop where
  /-- The name is needed. -/
  | record {table : TableEntry} {entries : List (String × Value)}
    (names : NamesFields entries ["name", "primary_key", "identity", "columns"])
    (name : entries.lookup "name" = some (.text table.name))
    (primaryKey : States entries "primary_key" (· = .sequence (table.primaryKey.map .text))
      (table.primaryKey = []))
    (identity : States entries "identity" (· = .sequence (table.identity.map .text))
      (table.identity = []))
    (columns : States entries "columns"
      (fun value => ∃ items, value = .sequence items ∧
        List.Forall₂ (ColumnForm format) table.columns items)
      (table.columns = [])) :
    TableForm format table (.record entries true)

/-- Records that stand for a snapshot. -/
inductive SnapshotForm (format : DocumentFormat) : Snapshot → Value → Prop where
  /-- Nothing is needed. -/
  | record {snapshot : Snapshot} {entries : List (String × Value)}
    (names : NamesFields entries ["tables"])
    (tables : States entries "tables"
      (fun value => ∃ items, value = .sequence items ∧
        List.Forall₂ (TableForm format) snapshot.tables items)
      (snapshot.tables = [])) :
    SnapshotForm format snapshot (.record entries true)

/-- Records that no column can be read from. -/
inductive ColumnFault : Value → Prop where
  /-- A name is unknown. -/
  | unknown {entries : List (String × Value)} {closed : Bool} {name : String}
    (member : name ∈ entries.map Prod.fst) (other : name ∉ ["name", "type", "nullable", "length"]) :
    ColumnFault (.record entries closed)
  /-- The name of the column is missing. -/
  | nameless {entries : List (String × Value)} {closed : Bool}
    (absent : "name" ∉ entries.map Prod.fst) : ColumnFault (.record entries closed)
  /-- The storage type is missing. -/
  | typeless {entries : List (String × Value)} {closed : Bool}
    (absent : "type" ∉ entries.map Prod.fst) : ColumnFault (.record entries closed)
  /-- The length is something else than a whole number of 32 bits. -/
  | length {entries : List (String × Value)} {closed : Bool} {value : Value}
    (member : ("length", value) ∈ entries) (given : value ≠ .null)
    (outside : ∀ number, value = .integer number → ¬ IsInt32 number) :
    ColumnFault (.record entries closed)

/-- Records that no table can be read from. -/
inductive TableFault : Value → Prop where
  /-- A name is unknown. -/
  | unknown {entries : List (String × Value)} {closed : Bool} {name : String}
    (member : name ∈ entries.map Prod.fst)
    (other : name ∉ ["name", "primary_key", "identity", "columns"]) :
    TableFault (.record entries closed)
  /-- The name of the table is missing. -/
  | nameless {entries : List (String × Value)} {closed : Bool}
    (absent : "name" ∉ entries.map Prod.fst) : TableFault (.record entries closed)
  /-- A column cannot be read. -/
  | column {entries : List (String × Value)} {closed : Bool} {items : List Value} {item : Value}
    (member : ("columns", .sequence items) ∈ entries) (item_mem : item ∈ items)
    (fault : ColumnFault item) : TableFault (.record entries closed)

/-- Records that no snapshot can be read from. -/
inductive SnapshotFault : Value → Prop where
  /-- A name is unknown. -/
  | unknown {entries : List (String × Value)} {closed : Bool} {name : String}
    (member : name ∈ entries.map Prod.fst) (other : name ∉ ["tables"]) :
    SnapshotFault (.record entries closed)
  /-- A table cannot be read. -/
  | table {entries : List (String × Value)} {closed : Bool} {items : List Value} {item : Value}
    (member : ("tables", .sequence items) ∈ entries) (item_mem : item ∈ items)
    (fault : TableFault item) : SnapshotFault (.record entries closed)

/-! ## Reading forms -/

theorem Value.asInt32_eq_ok_iff (value : Value) (number : Int) :
    value.asInt32 = .ok number ↔ value = .integer number ∧ IsInt32 number := by
  cases value with
  | integer found =>
      rw [asInt32]
      split_ifs with fits
      · simp only [Except.ok.injEq, Value.integer.injEq]
        exact ⟨fun same => ⟨same, same ▸ fits⟩, And.left⟩
      · simp only [Value.integer.injEq, false_iff, not_and]
        rintro rfl
        exact fits
  | _ => simp [asInt32]

variable {format : DocumentFormat}

namespace States

variable {entries : List (String × Value)} {name : String} {wanted : Value → Prop}
  {isDefault : Prop} {α Entry : Type} {read : Value → Except DocumentProblem α} {content usual : α}

theorem readable (states : States entries name wanted isDefault)
    (reads : ∀ value, wanted value → read value = .ok content) (wrap : α → Entry) :
    ∀ value, entries.lookup name = some value → ∃ entry, (read value).map wrap = .ok entry := by
  intro value under
  rcases states with ⟨given, given_eq, wanted_given⟩ | ⟨nothing, -⟩
  · obtain rfl : given = value := Option.some.inj (given_eq.symm.trans under)
    exact ⟨wrap content, by rw [reads given wanted_given, Except.map]⟩
  · simp [nothing] at under

/-- What the record says comes to the same, given or left out. -/
theorem getD_stated? (states : States entries name wanted isDefault)
    (reads : ∀ value, wanted value → read value = .ok content)
    (default_eq : isDefault → usual = content) :
    (stated? entries name read).getD usual = content := by
  rcases states with ⟨given, given_eq, wanted_given⟩ | ⟨nothing, isDefault⟩
  · rw [stated?, given_eq, Option.bind_some, reads given wanted_given, Except.toOption,
      Option.getD_some]
  · rw [stated?, nothing, Option.bind_none, Option.getD_none, default_eq isDefault]

end States

theorem stated?_text {entries : List (String × Value)} {name content : String}
    (under : entries.lookup name = some (.text content)) :
    stated? entries name Value.asText = some content := by
  rw [stated?, under]
  rfl

theorem readable_text {Entry : Type} {entries : List (String × Value)} {name content : String}
    (under : entries.lookup name = some (.text content)) (wrap : String → Entry) :
    ∀ value, entries.lookup name = some value → ∃ entry, value.asText.map wrap = .ok entry := by
  intro value given
  obtain rfl : .text content = value := Option.some.inj (under.symm.trans given)
  exact ⟨wrap content, rfl⟩

theorem asSequence_of_texts (texts : List String) (value : Value)
    (value_eq : value = .sequence (texts.map .text)) :
    value.asSequence Value.asText = .ok texts := by
  rw [value_eq]
  refine (Traversal.mapM_eq_ok_iff _ _ _).mpr ?_
  rw [List.forall₂_map_left_iff]
  exact List.forall₂_same.mpr fun text _ => rfl

theorem asSequence_of_forms {α : Type} (form : α → Value → Prop)
    (read : Value → Except DocumentProblem α)
    (reads : ∀ content value, form content value → read value = .ok content) (contents : List α)
    (value : Value)
    (written : ∃ items, value = .sequence items ∧ List.Forall₂ form contents items) :
    value.asSequence read = .ok contents := by
  obtain ⟨items, rfl, forms⟩ := written
  exact (Traversal.mapM_eq_ok_iff _ _ _).mpr (forms.imp reads).flip

theorem LengthForm.read {length : Option Int} {value : Value}
    (form : LengthForm format length value) : value.asOptional Value.asInt32 = .ok length := by
  cases form with
  | @given length fits =>
      have number_eq : (Value.integer length).asInt32 = .ok length :=
        (Value.asInt32_eq_ok_iff _ _).mpr ⟨rfl, fits⟩
      rw [Value.asOptional, number_eq, Except.map]
      exact nofun
  | null json => rfl

theorem ColumnForm.read {column : ColumnInfo} {value : Value}
    (form : ColumnForm format column value) : readColumn format value = .ok column := by
  obtain ⟨names, name, storageType, nullable, length⟩ := form
  have nullable_reads : ∀ value : Value, value = .boolean column.nullable →
      value.asBoolean = .ok column.nullable := by
    rintro _ rfl
    rfl
  have length_reads : ∀ value, LengthForm format column.length value →
      value.asOptional Value.asInt32 = .ok column.length := fun _ => LengthForm.read
  refine (readColumn_record_eq_ok_iff _ _ _ _).mpr ⟨rfl, names.distinct, ?_, stated?_text name,
    stated?_text storageType, nullable.getD_stated? nullable_reads Eq.symm, ?_⟩
  · refine readable_of_known names.distinct (by decide) names.known ?_
    simp only [columnShape, List.forall_mem_cons]
    exact ⟨readable_text name _, readable_text storageType _, nullable.readable nullable_reads _,
      length.readable length_reads _, by simp⟩
  · have join_eq (said : Option (Option Int)) : said.join = said.getD none := by
      cases said <;> rfl
    rw [join_eq]
    exact length.getD_stated? length_reads Eq.symm

theorem TableForm.read {table : TableEntry} {value : Value}
    (form : TableForm format table value) : readTable format value = .ok table := by
  obtain ⟨names, name, primaryKey, identity, columns⟩ := form
  have texts_read := asSequence_of_texts
  have columns_read := asSequence_of_forms (ColumnForm format) (readColumn format)
    (fun _ _ => ColumnForm.read) table.columns
  refine (readTable_record_eq_ok_iff _ _ _ _).mpr ⟨rfl, names.distinct, ?_, stated?_text name,
    primaryKey.getD_stated? (texts_read _) Eq.symm, identity.getD_stated? (texts_read _) Eq.symm,
    columns.getD_stated? columns_read Eq.symm⟩
  refine readable_of_known names.distinct (by simp [fieldNames, tableShape]) names.known ?_
  simp only [tableShape, List.forall_mem_cons]
  exact ⟨readable_text name _, primaryKey.readable (texts_read _) _,
    identity.readable (texts_read _) _, columns.readable columns_read _, by simp⟩

theorem SnapshotForm.read {snapshot : Snapshot} {value : Value}
    (form : SnapshotForm format snapshot value) : Snapshot.ofValue format value = .ok snapshot := by
  obtain ⟨names, tables⟩ := form
  have tables_read := asSequence_of_forms (TableForm format) (readTable format)
    (fun _ _ => TableForm.read) snapshot.tables
  refine (Snapshot.ofValue_record_eq_ok_iff _ _ _ _).mpr ⟨rfl, names.distinct, ?_,
    tables.getD_stated? tables_read Eq.symm⟩
  refine readable_of_known names.distinct (by simp [fieldNames, snapshotShape]) names.known ?_
  simp only [snapshotShape, List.forall_mem_singleton]
  intro value under
  obtain ⟨found, read⟩ := tables.readable tables_read id value under
  obtain ⟨found, read, -⟩ := (Traversal.map_eq_ok_iff _ _ _).mp read
  exact ⟨found, read⟩

section

variable {Entry : Type} {shape : RecordShape Entry} {entries : List (String × Value)}

theorem mem_fieldNames_of_readable (readable : ∀ named ∈ entries, shape.Readable named)
    {name : String} (member : name ∈ entries.map Prod.fst) : name ∈ shape.fieldNames := by
  obtain ⟨named, named_mem, rfl⟩ := List.mem_map.mp member
  obtain ⟨entry, reads⟩ := readable named named_mem
  obtain ⟨field, field_mem, name_eq, -⟩ := reads.exists_field
  exact List.mem_map.mpr ⟨field, field_mem, name_eq⟩

theorem exists_content_of_readable {α : Type} {name : String}
    {read : Value → Except DocumentProblem α} {pick : Entry → Option α}
    (picks : shape.Picks name read pick) (readable : ∀ named ∈ entries, shape.Readable named)
    {value : Value} (member : (name, value) ∈ entries) : ∃ content, read value = .ok content := by
  obtain ⟨entry, reads⟩ := readable _ member
  obtain ⟨content, content_eq, -⟩ := picks.found value entry reads
  exact ⟨content, content_eq⟩

theorem mem_names_of_stated? {α : Type} {name : String} {read : Value → Except DocumentProblem α}
    {content : α} (said : stated? entries name read = some content) :
    name ∈ entries.map Prod.fst := by
  obtain ⟨value, under, -⟩ := Option.bind_eq_some_iff.mp said
  obtain ⟨front, back, rfl, -⟩ := List.lookup_eq_some_iff.mp under
  simp

end

theorem ColumnFault.refused {value : Value} (fault : ColumnFault value) (column : ColumnInfo) :
    readColumn format value ≠ .ok column := by
  intro read
  cases fault with
  | unknown member other =>
      obtain ⟨-, -, readable, -⟩ := (readColumn_record_eq_ok_iff _ _ _ _).mp read
      exact other (mem_fieldNames_of_readable readable member)
  | nameless absent =>
      obtain ⟨-, -, -, name, -⟩ := (readColumn_record_eq_ok_iff _ _ _ _).mp read
      exact absent (mem_names_of_stated? name)
  | typeless absent =>
      obtain ⟨-, -, -, -, storageType, -⟩ := (readColumn_record_eq_ok_iff _ _ _ _).mp read
      exact absent (mem_names_of_stated? storageType)
  | @length _ _ value member given outside =>
      obtain ⟨-, -, readable, -⟩ := (readColumn_record_eq_ok_iff _ _ _ _).mp read
      obtain ⟨length, length_eq⟩ :=
        exists_content_of_readable ColumnEntry.picks_length readable member
      rw [Value.asOptional] at length_eq
      · obtain ⟨number, number_eq, -⟩ := (Traversal.map_eq_ok_iff _ _ _).mp length_eq
        obtain ⟨value_eq, fits⟩ := (Value.asInt32_eq_ok_iff _ _).mp number_eq
        exact outside number value_eq fits
      · exact given

theorem TableFault.refused {value : Value} (fault : TableFault value) (table : TableEntry) :
    readTable format value ≠ .ok table := by
  intro read
  cases fault with
  | unknown member other =>
      obtain ⟨-, -, readable, -⟩ := (readTable_record_eq_ok_iff _ _ _ _).mp read
      exact other (mem_fieldNames_of_readable readable member)
  | nameless absent =>
      obtain ⟨-, -, -, name, -⟩ := (readTable_record_eq_ok_iff _ _ _ _).mp read
      exact absent (mem_names_of_stated? name)
  | column member item_mem fault =>
      obtain ⟨-, -, readable, -⟩ := (readTable_record_eq_ok_iff _ _ _ _).mp read
      obtain ⟨columns, columns_eq⟩ :=
        exists_content_of_readable (TableField.picks_columns format) readable member
      obtain ⟨column, column_eq⟩ :=
        (Traversal.exists_mapM_eq_ok_iff _ _).mp ⟨columns, columns_eq⟩ _ item_mem
      exact fault.refused column column_eq

theorem SnapshotFault.refused {value : Value} (fault : SnapshotFault value)
    (snapshot : Snapshot) : Snapshot.ofValue format value ≠ .ok snapshot := by
  intro read
  cases fault with
  | unknown member other =>
      obtain ⟨-, -, readable, -⟩ := (Snapshot.ofValue_record_eq_ok_iff _ _ _ _).mp read
      exact other (mem_fieldNames_of_readable readable member)
  | table member item_mem fault =>
      obtain ⟨-, -, readable, -⟩ := (Snapshot.ofValue_record_eq_ok_iff _ _ _ _).mp read
      obtain ⟨tables, tables_eq⟩ :=
        exists_content_of_readable (Snapshot.picks_tables format) readable member
      obtain ⟨table, table_eq⟩ :=
        (Traversal.exists_mapM_eq_ok_iff _ _).mp ⟨tables, tables_eq⟩ _ item_mem
      exact fault.refused table table_eq

namespace Snapshot

/-- A tree of records that stands for a snapshot is read as the snapshot, in either notation,
whatever the order of names and whichever defaults are given; null for a length is left to JSON.  A
tree is refused if a record in it has an unknown name, if the name of a table or column or the type
of a column is missing, or if a length is no whole number of 32 bits. -/
theorem ofValue_forms (format : DocumentFormat) (value : Value) :
    (∀ snapshot, SnapshotForm format snapshot value →
      ofValue format value = .ok snapshot ∧
        ∀ origin text, format.StandsFor text value → parse format origin text = .ok snapshot) ∧
    (SnapshotFault value → ∃ problem, ofValue format value = .error problem ∧
      ∀ origin text, format.StandsFor text value →
        parse format origin text = .error (.malformed format origin problem)) := by
  constructor
  · intro snapshot form
    refine ⟨form.read, fun origin text stands => ?_⟩
    rw [parse, DocumentFormat.read_of_standsFor stands, form.read]
  · intro fault
    cases read : ofValue format value with
    | ok snapshot => exact absurd read (fault.refused snapshot)
    | error problem =>
        refine ⟨problem, rfl, fun origin text stands => ?_⟩
        rw [parse, DocumentFormat.read_of_standsFor stands, read]

/-- The value of a document with one table, whose one column has a length as given. -/
def logValue (length : Value) : Value :=
  .record [("tables", .sequence [.record [
    ("columns", .sequence [.record [
      ("type", .text "varchar"), ("length", length), ("name", .text "line")] true]),
    ("identity", .sequence []),
    ("name", .text "log")] true])] true

/-- A snapshot with one table, whose one column has a length as given. -/
def logSnapshot (length : Option Int) : Snapshot :=
  ⟨[{ name := "log", columns := [{ name := "line", storageType := "varchar", length }] }]⟩

theorem snapshotForm_logValue {format : DocumentFormat} {length : Option Int} {value : Value}
    (form : LengthForm format length value) :
    SnapshotForm format (logSnapshot length) (logValue value) := by
  have column : ColumnForm format { name := "line", storageType := "varchar", length }
      (.record [("type", .text "varchar"), ("length", value), ("name", .text "line")] true) :=
    .record ⟨by simp, by simp⟩ rfl rfl (.inr ⟨rfl, rfl⟩) (.inl ⟨value, rfl, form⟩)
  have table : TableForm format { name := "log", columns := [_] } (.record [
      ("columns", .sequence [_]), ("identity", .sequence []), ("name", .text "log")] true) :=
    .record ⟨by simp, by simp⟩ rfl (.inr ⟨rfl, rfl⟩) (.inl ⟨_, rfl, rfl⟩)
      (.inl ⟨_, rfl, _, rfl, .cons column .nil⟩)
  exact .record ⟨by simp, by simp⟩ (.inl ⟨_, rfl, _, rfl, .cons table .nil⟩)

/-- Null is read as no length in JSON, and the greatest length is read from TOML.  The next number
is refused. -/
theorem ofValue_forms_of_log :
    SnapshotForm .json (logSnapshot none) (logValue .null) ∧
      ofValue .json (logValue .null) = .ok (logSnapshot none) ∧
      SnapshotForm .toml (logSnapshot (some 2147483647)) (logValue (.integer 2147483647)) ∧
      ofValue .toml (logValue (.integer 2147483647)) = .ok (logSnapshot (some 2147483647)) ∧
      SnapshotFault (logValue (.integer 2147483648)) ∧
      ∃ problem, ofValue .toml (logValue (.integer 2147483648)) = .error problem := by
  have absent : SnapshotForm .json (logSnapshot none) (logValue .null) :=
    snapshotForm_logValue (.null rfl)
  have greatest :
      SnapshotForm .toml (logSnapshot (some 2147483647)) (logValue (.integer 2147483647)) :=
    snapshotForm_logValue (.given (by simp [IsInt32]))
  have outside : ∀ number, Value.integer 2147483648 = .integer number → ¬ IsInt32 number := by
    rintro _ ⟨⟩
    simp [IsInt32]
  have column_fault : ColumnFault (.record [("type", .text "varchar"),
      ("length", .integer 2147483648), ("name", .text "line")] true) :=
    .length (List.mem_cons_of_mem _ List.mem_cons_self) nofun outside
  have beyond : SnapshotFault (logValue (.integer 2147483648)) :=
    .table List.mem_cons_self List.mem_cons_self
      (.column List.mem_cons_self List.mem_cons_self column_fault)
  obtain ⟨problem, refused, -⟩ := (ofValue_forms .toml _).2 beyond
  exact ⟨absent, ((ofValue_forms .json _).1 _ absent).1, greatest,
    ((ofValue_forms .toml _).1 _ greatest).1, beyond, problem, refused⟩

end Snapshot
end DataLayer

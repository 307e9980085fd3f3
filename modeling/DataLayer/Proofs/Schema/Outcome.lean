import DataLayer.Proofs.Schema.Description
import DataLayer.Proofs.Schema.Introspection

/-!
# The outcome of an introspection

Introspection asks one question after another and stops at the first that fails.  A table whose type
name came up before is refused before anything is asked about it.  So the outcome is determined: it
succeeds exactly when every question is answered and all type names differ, and else it fails with
the error of the first step that could not be taken.
-/

namespace DataLayer

/-- The catalog answers all questions about a table as the entry says. -/
structure Catalog.Describes (catalog : Catalog) (entry : TableEntry) : Prop where
  /-- The answer about the primary key. -/
  primaryKeyNames : catalog.primaryKeyNames entry.name = .ok entry.primaryKey
  /-- The answer about numbered columns. -/
  identityColumnNames : catalog.identityColumnNames entry.name = .ok entry.identity
  /-- The answer about all columns. -/
  columns : catalog.columns entry.name = .ok entry.columns

theorem Catalog.Describes.unique {catalog : Catalog} {entry other : TableEntry}
    (described : catalog.Describes entry) (other_described : catalog.Describes other)
    (same : entry.name = other.name) : entry = other := by
  obtain ⟨name, keys, identity, columns⟩ := entry
  obtain ⟨_, otherKeys, otherIdentity, otherColumns⟩ := other
  obtain rfl : name = _ := same
  obtain rfl : keys = otherKeys :=
    Except.ok.inj (described.primaryKeyNames.symm.trans other_described.primaryKeyNames)
  obtain rfl : identity = otherIdentity :=
    Except.ok.inj (described.identityColumnNames.symm.trans other_described.identityColumnNames)
  obtain rfl : columns = otherColumns :=
    Except.ok.inj (described.columns.symm.trans other_described.columns)
  rfl

namespace Schema

/-- How reading the table of a name fails behind the tables of other names: the error is that of the
first step that cannot be taken. -/
inductive Refuses (catalog : Catalog) (front : List String) (name : String) : CatalogError → Prop
  /-- Exactly one of the other names has the same type name. -/
  | duplicate (first : String) (member : first ∈ front)
      (same : Text.upperFirst first = Text.upperFirst name)
      (only : ∀ other ∈ front, Text.upperFirst other = Text.upperFirst name → other = first) :
      Refuses catalog front name (.duplicateTable (Text.upperFirst name) first name)
  /-- The question about the primary key fails. -/
  | primaryKeyNames (error : CatalogError)
      (new : ∀ other ∈ front, Text.upperFirst other ≠ Text.upperFirst name)
      (failed : catalog.primaryKeyNames name = .error error) : Refuses catalog front name error
  /-- The question about numbered columns fails. -/
  | identityColumnNames (error : CatalogError) (keys : List String)
      (new : ∀ other ∈ front, Text.upperFirst other ≠ Text.upperFirst name)
      (keys_eq : catalog.primaryKeyNames name = .ok keys)
      (failed : catalog.identityColumnNames name = .error error) : Refuses catalog front name error
  /-- The question about all columns fails. -/
  | columns (error : CatalogError) (keys identity : List String)
      (new : ∀ other ∈ front, Text.upperFirst other ≠ Text.upperFirst name)
      (keys_eq : catalog.primaryKeyNames name = .ok keys)
      (identity_eq : catalog.identityColumnNames name = .ok identity)
      (failed : catalog.columns name = .error error) : Refuses catalog front name error

variable {mapper : TypeMapper} {catalog : Catalog}

theorem readTable_eq_ok_iff_describes (name : String) (table : Table) :
    readTable mapper catalog name = .ok table ↔
      ∃ entry : TableEntry, entry.name = name ∧ catalog.Describes entry ∧
        table.IsReadFrom mapper entry := by
  rw [readTable_eq_ok_iff]
  constructor
  · rintro ⟨keys, identity, columns, keys_eq, identity_eq, columns_eq, rfl⟩
    exact ⟨⟨name, keys, identity, columns⟩, rfl, ⟨keys_eq, identity_eq, columns_eq⟩,
      (Table.isReadFrom_iff mapper _ _).mpr rfl⟩
  · rintro ⟨entry, rfl, ⟨keys_eq, identity_eq, columns_eq⟩, read⟩
    have table_eq := (Table.isReadFrom_iff mapper entry table).mp read
    exact ⟨_, _, _, keys_eq, identity_eq, columns_eq, table_eq.symm⟩

theorem exists_readTable_eq_ok_iff (name : String) :
    (∃ table, readTable mapper catalog name = .ok table) ↔
      ∃ entry : TableEntry, entry.name = name ∧ catalog.Describes entry := by
  simp only [readTable_eq_ok_iff_describes]
  constructor
  · rintro ⟨table, entry, name_eq, described, -⟩
    exact ⟨entry, name_eq, described⟩
  · rintro ⟨entry, name_eq, described⟩
    exact ⟨_, entry, name_eq, described, (Table.isReadFrom_iff mapper entry _).mpr rfl⟩

theorem readTable_eq_error_iff (name : String) (error : CatalogError) :
    readTable mapper catalog name = .error error ↔
      catalog.primaryKeyNames name = .error error ∨
        ∃ keys, catalog.primaryKeyNames name = .ok keys ∧
          (catalog.identityColumnNames name = .error error ∨
            ∃ identity, catalog.identityColumnNames name = .ok identity ∧
              catalog.columns name = .error error) := by
  simp only [readTable, Traversal.bind_eq_error_iff, Traversal.pure_ne_error, and_false,
    exists_false, or_false]

/-- Read the table of a name, unless its type name was there before. -/
def readNext (mapper : TypeMapper) (catalog : Catalog) (seen : List (String × String))
    (name : String) : Except CatalogError Table :=
  match seen.lookup (Text.upperFirst name) with
  | some first => .error (.duplicateTable (Text.upperFirst name) first name)
  | none => readTable mapper catalog name

/-- The type names that are there behind the tables of some names, the last one in front. -/
def seenBehind (seen : List (String × String)) (front : List String) : List (String × String) :=
  (front.map fun name => (Text.upperFirst name, name)).reverse ++ seen

theorem seenBehind_cons (seen : List (String × String)) (name : String) (front : List String) :
    seenBehind seen (name :: front) = seenBehind ((Text.upperFirst name, name) :: seen) front := by
  simp [seenBehind]

theorem readTables_cons (seen : List (String × String)) (name : String) (rest : List String) :
    readTables mapper catalog seen (name :: rest) = (do
      let table ← readNext mapper catalog seen name
      let tables ← readTables mapper catalog ((Text.upperFirst name, name) :: seen) rest
      return table :: tables) := by
  rw [readTables, readNext]
  cases seen.lookup (Text.upperFirst name) <;> rfl

/-- Reading stops at the first name whose table cannot be read. -/
theorem readTables_eq_error_iff (seen : List (String × String)) (names : List String)
    (error : CatalogError) :
    readTables mapper catalog seen names = .error error ↔
      ∃ front name back tables, names = front ++ name :: back ∧
        readTables mapper catalog seen front = .ok tables ∧
        readNext mapper catalog (seenBehind seen front) name = .error error := by
  induction names generalizing seen with
  | nil => simp [readTables]
  | cons name rest ih =>
      simp only [readTables_cons, Traversal.bind_eq_error_iff, Traversal.pure_ne_error, and_false,
        exists_false, or_false]
      constructor
      · rintro (failed | ⟨table, read, later⟩)
        · exact ⟨[], name, rest, [], rfl, rfl, failed⟩
        · obtain ⟨front, failing, back, tables, rfl, front_read, failed⟩ := (ih _).mp later
          refine ⟨name :: front, failing, back, table :: tables, rfl, ?_, ?_⟩
          · rw [readTables_cons, read, front_read]
            rfl
          · rw [seenBehind_cons]
            exact failed
      · rintro ⟨front, failing, back, tables, split, front_read, failed⟩
        cases front with
        | nil =>
            obtain ⟨rfl, rfl⟩ := List.cons.inj split
            exact .inl failed
        | cons head front =>
            obtain ⟨rfl, rfl⟩ := List.cons.inj split
            rw [seenBehind_cons] at failed
            simp only [readTables_cons, Traversal.bind_eq_ok_iff, Traversal.pure_eq_ok_iff]
              at front_read
            obtain ⟨table, read, others, others_read, -⟩ := front_read
            exact .inr ⟨table, read, (ih _).mpr ⟨front, failing, back, others, rfl, others_read,
              failed⟩⟩

theorem lookup_seenBehind_eq_none_iff (front : List String) (typeName : String) :
    (seenBehind [] front).lookup typeName = none ↔
      ∀ other ∈ front, Text.upperFirst other ≠ typeName := by
  simp [seenBehind, List.lookup_eq_none_iff, ne_comm]

/-- The earlier name of a type name is found, since there is only one. -/
theorem lookup_seenBehind_eq_some_iff {front : List String}
    (distinct : (front.map Text.upperFirst).Nodup) (typeName first : String) :
    (seenBehind [] front).lookup typeName = some first ↔
      first ∈ front ∧ Text.upperFirst first = typeName := by
  have seen_eq : seenBehind [] front =
      (front.map fun name => (Text.upperFirst name, name)).reverse := List.append_nil _
  constructor
  · intro found
    obtain ⟨before, behind, split, -⟩ := List.lookup_eq_some_iff.mp found
    have entry_mem : (typeName, first) ∈ seenBehind [] front := by simp [split]
    rw [seen_eq, List.mem_reverse, List.mem_map] at entry_mem
    obtain ⟨name, member, entry_eq⟩ := entry_mem
    obtain ⟨rfl, rfl⟩ := Prod.mk.inj entry_eq
    exact ⟨member, rfl⟩
  · rintro ⟨member, rfl⟩
    have names_distinct :
        ((front.map fun name => (Text.upperFirst name, name)).map Prod.fst).Nodup := by
      rw [List.map_map]
      exact distinct
    rw [seen_eq, ← NamedMap.get?_ofList]
    exact NamedMap.get?_ofList_of_mem names_distinct (List.mem_map_of_mem member)

theorem readNext_eq_error_iff {front : List String}
    (distinct : (front.map Text.upperFirst).Nodup) (name : String) (error : CatalogError) :
    readNext mapper catalog (seenBehind [] front) name = .error error ↔
      Refuses catalog front name error := by
  rw [readNext]
  cases found : (seenBehind [] front).lookup (Text.upperFirst name) with
  | some first =>
      obtain ⟨member, same⟩ := (lookup_seenBehind_eq_some_iff distinct _ _).mp found
      have only (other : String) (other_mem : other ∈ front)
          (other_same : Text.upperFirst other = Text.upperFirst name) : other = first :=
        List.inj_on_of_nodup_map distinct other_mem member (other_same.trans same.symm)
      constructor
      · rintro ⟨⟩
        exact .duplicate first member same only
      · intro refused
        cases refused with
        | duplicate other other_mem other_same =>
            rw [only other other_mem other_same]
        | primaryKeyNames _ new => exact absurd same (new first member)
        | identityColumnNames _ _ new => exact absurd same (new first member)
        | columns _ _ _ new => exact absurd same (new first member)
  | none =>
      have new := (lookup_seenBehind_eq_none_iff front _).mp found
      simp only [readTable_eq_error_iff]
      constructor
      · rintro (failed | ⟨keys, keys_eq, failed | ⟨identity, identity_eq, failed⟩⟩)
        · exact .primaryKeyNames error new failed
        · exact .identityColumnNames error keys new keys_eq failed
        · exact .columns error keys identity new keys_eq identity_eq failed
      · intro refused
        cases refused with
        | duplicate first member same => exact absurd same (new first member)
        | primaryKeyNames _ _ failed => exact .inl failed
        | identityColumnNames _ keys _ keys_eq failed => exact .inr ⟨keys, keys_eq, .inl failed⟩
        | columns _ keys identity _ keys_eq identity_eq failed =>
            exact .inr ⟨keys, keys_eq, .inr ⟨identity, identity_eq, failed⟩⟩

theorem forall₂_readTable_iff (names : List String) (tables : List Table) :
    List.Forall₂ (fun name table => readTable mapper catalog name = .ok table) names tables ↔
      ∃ entries : List TableEntry, entries.map (·.name) = names ∧
        List.Forall₂ (fun entry table => catalog.Describes entry ∧ table.IsReadFrom mapper entry)
          entries tables := by
  simp only [readTable_eq_ok_iff_describes]
  constructor
  · intro each_read
    induction each_read with
    | nil => exact ⟨[], rfl, List.Forall₂.nil⟩
    | cons read _ ih =>
        obtain ⟨entry, rfl, described⟩ := read
        obtain ⟨entries, rfl, others_described⟩ := ih
        exact ⟨entry :: entries, rfl, List.Forall₂.cons described others_described⟩
  · rintro ⟨entries, rfl, each_described⟩
    rw [List.forall₂_map_left_iff]
    exact each_described.imp fun entry table described => ⟨entry, rfl, described⟩

/-- An introspection that succeeds has one table for each entry of the catalog. -/
theorem introspect_eq_ok_iff_describes (tables : List Table) :
    introspect mapper catalog = .ok tables ↔
      ∃ entries : List TableEntry, catalog.tableNames = .ok (entries.map (·.name)) ∧
        (entries.map fun entry => Text.upperFirst entry.name).Nodup ∧
        List.Forall₂ (fun entry table => catalog.Describes entry ∧ table.IsReadFrom mapper entry)
          entries tables := by
  simp only [introspect_eq_ok_iff, forall₂_readTable_iff]
  constructor
  · rintro ⟨_, listed, ⟨entries, rfl, each_described⟩, distinct⟩
    rw [List.map_map] at distinct
    exact ⟨entries, listed, distinct, each_described⟩
  · rintro ⟨entries, listed, distinct, each_described⟩
    refine ⟨_, listed, ⟨entries, rfl, each_described⟩, ?_⟩
    rw [List.map_map]
    exact distinct

/-- Tables can be read from the start when all questions about them are answered and no type name
comes twice. -/
theorem exists_readTables_nil_eq_ok_iff (names : List String) :
    (∃ tables, readTables mapper catalog [] names = .ok tables) ↔
      (∀ name ∈ names, ∃ entry : TableEntry, entry.name = name ∧ catalog.Describes entry) ∧
        (names.map Text.upperFirst).Nodup := by
  simp only [readTables_eq_ok_iff, List.lookup_nil, implies_true, and_true, exists_and_right,
    ← Traversal.mapM_eq_ok_iff, Traversal.exists_mapM_eq_ok_iff, exists_readTable_eq_ok_iff]

theorem exists_introspect_eq_ok_iff :
    (∃ tables, introspect mapper catalog = .ok tables) ↔
      ∃ names, catalog.tableNames = .ok names ∧
        (∀ name ∈ names, ∃ entry : TableEntry, entry.name = name ∧ catalog.Describes entry) ∧
        (names.map Text.upperFirst).Nodup := by
  simp only [introspect, Traversal.bind_eq_ok_iff]
  constructor
  · rintro ⟨tables, names, listed, read⟩
    exact ⟨names, listed, (exists_readTables_nil_eq_ok_iff names).mp ⟨tables, read⟩⟩
  · rintro ⟨names, listed, readable⟩
    obtain ⟨tables, read⟩ := (exists_readTables_nil_eq_ok_iff names).mpr readable
    exact ⟨tables, names, listed, read⟩

/-- An introspection fails with the error of the list of tables, or with that of the first table
that is refused. -/
theorem introspect_eq_error_iff (error : CatalogError) :
    introspect mapper catalog = .error error ↔
      catalog.tableNames = .error error ∨
        ∃ front name back, catalog.tableNames = .ok (front ++ name :: back) ∧
          (∀ other ∈ front, ∃ entry : TableEntry, entry.name = other ∧ catalog.Describes entry) ∧
          (front.map Text.upperFirst).Nodup ∧ Refuses catalog front name error := by
  rw [introspect, Traversal.bind_eq_error_iff]
  refine or_congr_right ?_
  simp only [readTables_eq_error_iff]
  constructor
  · rintro ⟨_, listed, front, name, back, tables, rfl, front_read, failed⟩
    obtain ⟨each_described, distinct⟩ :=
      (exists_readTables_nil_eq_ok_iff front).mp ⟨tables, front_read⟩
    exact ⟨front, name, back, listed, each_described, distinct,
      (readNext_eq_error_iff distinct name error).mp failed⟩
  · rintro ⟨front, name, back, listed, each_described, distinct, refused⟩
    obtain ⟨tables, front_read⟩ :=
      (exists_readTables_nil_eq_ok_iff front).mpr ⟨each_described, distinct⟩
    exact ⟨_, listed, front, name, back, tables, rfl, front_read,
      (readNext_eq_error_iff distinct name error).mpr refused⟩

theorem exists_entry_of_introspect {tables : List Table}
    (introspected : introspect mapper catalog = .ok tables) {table : Table}
    (member : table ∈ tables) : ∃ entry : TableEntry, table.IsReadFrom mapper entry := by
  obtain ⟨entries, -, -, each_read⟩ := (introspect_eq_ok_iff_describes tables).mp introspected
  obtain ⟨i, table_lt, rfl⟩ := List.getElem_of_mem member
  exact ⟨_, (each_read.get (each_read.length_eq ▸ table_lt) table_lt).2⟩

/-- An introspection succeeds exactly when every question is answered and all type names differ.
Its tables then say what the catalog says, in the same order, and a failure is that of the first
step that cannot be taken. -/
theorem introspect_outcome (mapper : TypeMapper) (catalog : Catalog) :
    ((∃ tables, introspect mapper catalog = .ok tables) ↔
      ∃ names, catalog.tableNames = .ok names ∧
        (∀ name ∈ names, ∃ entry : TableEntry, entry.name = name ∧ catalog.Describes entry) ∧
        (names.map Text.upperFirst).Nodup) ∧
    (∀ tables, introspect mapper catalog = .ok tables ↔
      ∃ entries : List TableEntry, catalog.tableNames = .ok (entries.map (·.name)) ∧
        (entries.map fun entry => Text.upperFirst entry.name).Nodup ∧
        List.Forall₂ (fun entry table => catalog.Describes entry ∧ table.IsReadFrom mapper entry)
          entries tables) ∧
    ∀ error, introspect mapper catalog = .error error ↔
      catalog.tableNames = .error error ∨
        ∃ front name back, catalog.tableNames = .ok (front ++ name :: back) ∧
          (∀ other ∈ front, ∃ entry : TableEntry, entry.name = other ∧ catalog.Describes entry) ∧
          (front.map Text.upperFirst).Nodup ∧ Refuses catalog front name error :=
  ⟨exists_introspect_eq_ok_iff, introspect_eq_ok_iff_describes, introspect_eq_error_iff⟩

end Schema
end DataLayer

import DataLayer.Schema.Introspect
import Mathlib.Data.List.Forall2
import Mathlib.Data.List.Nodup

/-!
# What a table of the schema says

A table of the schema says what the catalog says about it: its keys are the listed names without
repetitions, its columns are the listed ones in order, and each column knows its type in the target
language and whether it is a key or numbered by the database.  Exactly one table says that.
-/

namespace DataLayer

/-- The kept texts are the given ones, each once, in the order of first occurrence. -/
structure IsFirstOccurrences (texts kept : List String) : Prop where
  /-- No text is lost and none is added. -/
  mem_iff : ∀ text, text ∈ kept ↔ text ∈ texts
  /-- Each text stands behind those that came up before it. -/
  ordered : kept.Pairwise fun earlier later => texts.idxOf earlier < texts.idxOf later

@[simp]
theorem mem_distinct {text : String} {texts : List String} :
    text ∈ distinct texts ↔ text ∈ texts := by
  induction texts with
  | nil => rfl
  | cons first rest ih =>
      by_cases same : text = first <;> simp [distinct, same, ih]

theorem ordered_distinct (texts : List String) :
    (distinct texts).Pairwise fun earlier later => texts.idxOf earlier < texts.idxOf later := by
  induction texts with
  | nil => exact List.Pairwise.nil
  | cons first rest ih =>
      rw [distinct, List.pairwise_cons]
      constructor
      · intro later member
        have later_ne : later ≠ first := by simpa using (List.mem_filter.mp member).2
        simp [List.idxOf_cons_ne rest later_ne.symm]
      · refine List.Pairwise.imp_of_mem ?_ (ih.filter (· != first))
        intro earlier later earlier_mem later_mem before
        have earlier_ne : earlier ≠ first := by simpa using (List.mem_filter.mp earlier_mem).2
        have later_ne : later ≠ first := by simpa using (List.mem_filter.mp later_mem).2
        rw [List.idxOf_cons_ne rest earlier_ne.symm, List.idxOf_cons_ne rest later_ne.symm]
        exact Nat.succ_lt_succ before

namespace IsFirstOccurrences

variable {texts kept other : List String}

theorem nodup (occurrences : IsFirstOccurrences texts kept) : kept.Nodup :=
  occurrences.ordered.imp fun before => ne_of_apply_ne texts.idxOf (Nat.ne_of_lt before)

theorem unique (first : IsFirstOccurrences texts kept) (second : IsFirstOccurrences texts other) :
    kept = other := by
  have same_members : kept.Perm other :=
    (List.perm_ext_iff_of_nodup first.nodup second.nodup).mpr fun text =>
      (first.mem_iff text).trans (second.mem_iff text).symm
  refine same_members.eq_of_pairwise ?_ first.ordered second.ordered
  intro earlier later _ _ before after
  exact absurd before (Nat.lt_asymm after)

end IsFirstOccurrences

theorem isFirstOccurrences_distinct (texts : List String) :
    IsFirstOccurrences texts (distinct texts) :=
  ⟨fun _ => mem_distinct, ordered_distinct texts⟩

theorem isFirstOccurrences_iff (texts kept : List String) :
    IsFirstOccurrences texts kept ↔ kept = distinct texts := by
  constructor
  · intro occurrences
    exact occurrences.unique (isFirstOccurrences_distinct texts)
  · rintro rfl
    exact isFirstOccurrences_distinct texts

example : distinct ["b", "a", "b", "c", "a"] = ["b", "a", "c"] := by decide

/-- The column says what a catalog says about it, in a table with the given keys and numbered
columns. -/
structure Column.IsReadFrom (mapper : TypeMapper) (keys identity : List String) (info : ColumnInfo)
    (column : Column) : Prop where
  name_eq : column.name = info.name
  storageType_eq : column.storageType = info.storageType
  /-- The mapper gives the type in the target language. -/
  mappedType_eq : column.mappedType = mapper.map info.storageType info.nullable
  nullable_eq : column.nullable = info.nullable
  /-- A column is a key exactly when it is listed as one. -/
  primaryKey_iff : column.primaryKey = true ↔ info.name ∈ keys
  /-- A column is generated exactly when it is listed as numbered. -/
  generated_iff : column.generated = true ↔ info.name ∈ identity
  length_eq : column.length = info.length

/-- The table says what a catalog says about it. -/
structure Table.IsReadFrom (mapper : TypeMapper) (entry : TableEntry) (table : Table) : Prop where
  /-- The name in the catalog is kept. -/
  storageName_eq : table.storageName = entry.name
  /-- The type name is the capitalised one. -/
  name_eq : table.name = Text.upperFirst entry.name
  /-- The keys are listed once each. -/
  primaryKeyNames : IsFirstOccurrences entry.primaryKey table.primaryKeyNames
  /-- The numbered columns are listed once each. -/
  identityColumnNames : IsFirstOccurrences entry.identity table.identityColumnNames
  /-- The columns are those of the catalog, in order. -/
  columns : List.Forall₂ (Column.IsReadFrom mapper entry.primaryKey entry.identity) entry.columns
    table.columns

theorem Column.isReadFrom_iff (mapper : TypeMapper) (keys identity : List String)
    (info : ColumnInfo) (column : Column) :
    column.IsReadFrom mapper keys identity info ↔
      ofInfo mapper (distinct keys) (distinct identity) info = column := by
  constructor
  · rintro ⟨name_eq, storageType_eq, mappedType_eq, nullable_eq, primaryKey_iff, generated_iff,
      length_eq⟩
    have primaryKey_eq : column.primaryKey = (distinct keys).contains info.name := by
      rw [Bool.eq_iff_iff, primaryKey_iff, List.contains_iff_mem, mem_distinct]
    have generated_eq : column.generated = (distinct identity).contains info.name := by
      rw [Bool.eq_iff_iff, generated_iff, List.contains_iff_mem, mem_distinct]
    rw [ofInfo, ← mappedType_eq, ← primaryKey_eq, ← generated_eq, ← name_eq, ← storageType_eq,
      ← nullable_eq, ← length_eq]
  · rintro rfl
    constructor <;> simp [ofInfo]

theorem Column.forall₂_isReadFrom_iff (mapper : TypeMapper) (keys identity : List String)
    (infos : List ColumnInfo) (columns : List Column) :
    List.Forall₂ (Column.IsReadFrom mapper keys identity) infos columns ↔
      infos.map (ofInfo mapper (distinct keys) (distinct identity)) = columns := by
  have isReadFrom_eq : Column.IsReadFrom mapper keys identity =
      fun info column => ofInfo mapper (distinct keys) (distinct identity) info = column :=
    funext₂ fun info column => propext (isReadFrom_iff mapper keys identity info column)
  rw [isReadFrom_eq, ← List.forall₂_eq_eq_eq, List.forall₂_map_left_iff]

theorem Table.isReadFrom_iff (mapper : TypeMapper) (entry : TableEntry) (table : Table) :
    table.IsReadFrom mapper entry ↔
      ofAnswers mapper entry.name entry.primaryKey entry.identity entry.columns = table := by
  constructor
  · rintro ⟨storageName_eq, name_eq, primaryKeyNames, identityColumnNames, columns⟩
    rw [isFirstOccurrences_iff] at primaryKeyNames identityColumnNames
    rw [Column.forall₂_isReadFrom_iff] at columns
    rw [ofAnswers, columns, ← primaryKeyNames, ← identityColumnNames, ← name_eq, ← storageName_eq]
  · rintro rfl
    exact ⟨rfl, rfl, isFirstOccurrences_distinct _, isFirstOccurrences_distinct _,
      (Column.forall₂_isReadFrom_iff mapper _ _ _ _).mpr rfl⟩

theorem Table.IsReadFrom.primaryKey_iff {mapper : TypeMapper} {entry : TableEntry} {table : Table}
    (read : table.IsReadFrom mapper entry) {column : Column} (member : column ∈ table.columns) :
    column.primaryKey = true ↔ column.name ∈ table.primaryKeyNames := by
  obtain rfl := (Table.isReadFrom_iff mapper entry table).mp read
  obtain ⟨info, -, rfl⟩ := List.mem_map.mp member
  simp [Column.ofInfo, ofAnswers]

theorem Table.IsReadFrom.primaryKey?_eq_none_iff {mapper : TypeMapper} {entry : TableEntry}
    {table : Table} (read : table.IsReadFrom mapper entry) :
    table.primaryKey? = none ↔ ∀ column ∈ table.columns, column.name ∉ table.primaryKeyNames := by
  rw [primaryKey?, List.find?_eq_none]
  exact forall₂_congr fun column member => not_congr (read.primaryKey_iff member)

end DataLayer

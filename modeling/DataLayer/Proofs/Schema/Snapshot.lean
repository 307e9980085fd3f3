import DataLayer.Proofs.Schema.Outcome

/-!
# Introspecting a snapshot

A snapshot lists its tables by position and answers questions about them by name, in whatever case.
Where all type names differ, all names do, so each question finds the entry that it is about by its
exact name, also beside entries whose names differ in case alone.
-/

namespace DataLayer
namespace Snapshot

variable {snapshot : Snapshot}

theorem findTable_of_mem (distinct : (snapshot.tables.map (·.name)).Nodup) {entry : TableEntry}
    (member : entry ∈ snapshot.tables) : snapshot.findTable entry.name = .ok entry := by
  have found : snapshot.tables.find? (·.name == entry.name) = some entry := by
    obtain ⟨before, behind, split⟩ := List.append_of_mem member
    rw [split, List.map_append, List.map_cons] at distinct
    rw [List.find?_eq_some_iff_append]
    refine ⟨beq_self_eq_true entry.name, before, behind, split, ?_⟩
    intro other other_mem
    have other_named : other.name ∈ before.map (·.name) := List.mem_map_of_mem other_mem
    have name_ne : other.name ≠ entry.name :=
      (List.nodup_append.mp distinct).2.2 _ other_named _ List.mem_cons_self
    simpa using name_ne
  rw [findTable, table?, found]
  rfl

theorem mem_of_findTable {name : String} {entry : TableEntry}
    (found : snapshot.findTable name = .ok entry) : entry ∈ snapshot.tables := by
  rw [findTable] at found
  cases table_eq : snapshot.table? name with
  | none => simp [table_eq] at found
  | some table =>
      obtain rfl : table = entry := by simpa [table_eq] using found
      rw [table?, Option.or_eq_some_iff] at table_eq
      rcases table_eq with exact | ⟨-, similar⟩
      · exact List.mem_of_find?_eq_some exact
      · exact List.mem_of_find?_eq_some similar

/-- An entry is found by every name that the snapshot lists. -/
theorem exists_findTable_of_mem {name : String} (listed : name ∈ snapshot.tables.map (·.name)) :
    ∃ entry, snapshot.findTable name = .ok entry := by
  obtain ⟨entry, member, rfl⟩ := List.mem_map.mp listed
  rw [findTable, table?]
  cases found : snapshot.tables.find? (·.name == entry.name) with
  | some other => exact ⟨other, rfl⟩
  | none =>
      have missed := List.find?_eq_none.mp found entry member
      simp at missed

theorem describes_of_mem (distinct : (snapshot.tables.map (·.name)).Nodup) {entry : TableEntry}
    (member : entry ∈ snapshot.tables) : snapshot.catalog.Describes entry := by
  have found := findTable_of_mem distinct member
  constructor <;> simp [catalog, found, Except.map]

/-- The type names of a snapshot's tables. -/
def typeNames (snapshot : Snapshot) : List String :=
  snapshot.tables.map fun entry => Text.upperFirst entry.name

theorem nodup_names_of_typeNames (distinct : snapshot.typeNames.Nodup) :
    (snapshot.tables.map (·.name)).Nodup := by
  refine List.Nodup.of_map Text.upperFirst ?_
  rw [List.map_map]
  exact distinct

theorem entries_eq_tables (distinct : snapshot.typeNames.Nodup) {entries : List TableEntry}
    (described : ∀ entry ∈ entries, snapshot.catalog.Describes entry)
    (names_eq : entries.map (·.name) = snapshot.tables.map (·.name)) :
    entries = snapshot.tables := by
  have names_distinct := nodup_names_of_typeNames distinct
  have same_length : entries.length = snapshot.tables.length := by
    simpa using congrArg List.length names_eq
  refine List.ext_getElem same_length fun i entry_lt table_lt => ?_
  have same_name : entries[i].name = snapshot.tables[i].name := by
    have name_eq := congrArg (·[i]?) names_eq
    simpa [entry_lt, table_lt] using name_eq
  exact (described _ (List.getElem_mem entry_lt)).unique
    (describes_of_mem names_distinct (List.getElem_mem table_lt)) same_name

variable {mapper : TypeMapper}

/-- Introspecting a snapshot reads each table from its own entry, if all type names differ. -/
theorem introspect_eq_ok_iff (tables : List Table) :
    Schema.introspect mapper snapshot.catalog = .ok tables ↔
      snapshot.typeNames.Nodup ∧
        List.Forall₂ (fun entry table => table.IsReadFrom mapper entry) snapshot.tables tables := by
  rw [Schema.introspect_eq_ok_iff_describes]
  constructor
  · rintro ⟨entries, listed, distinct, each_read⟩
    obtain ⟨described, each_read⟩ := (List.forall₂_and_left _ _).mp each_read
    have names_eq : entries.map (·.name) = snapshot.tables.map (·.name) :=
      (Except.ok.inj listed).symm
    have typeNames_eq :
        entries.map (fun entry => Text.upperFirst entry.name) = snapshot.typeNames := by
      simpa [typeNames, Function.comp_def] using congrArg (List.map Text.upperFirst) names_eq
    rw [typeNames_eq] at distinct
    obtain rfl := entries_eq_tables distinct described names_eq
    exact ⟨distinct, each_read⟩
  · rintro ⟨distinct, each_read⟩
    refine ⟨snapshot.tables, rfl, distinct, ?_⟩
    have names_distinct := nodup_names_of_typeNames distinct
    exact (List.forall₂_and_left _ _).mpr
      ⟨fun entry member => describes_of_mem names_distinct member, each_read⟩

theorem exists_introspect_eq_ok_iff :
    (∃ tables, Schema.introspect mapper snapshot.catalog = .ok tables) ↔
      snapshot.typeNames.Nodup := by
  simp only [introspect_eq_ok_iff, exists_and_left, and_iff_left_iff_imp]
  intro _
  refine ⟨snapshot.tables.map fun entry =>
    .ofAnswers mapper entry.name entry.primaryKey entry.identity entry.columns, ?_⟩
  rw [List.forall₂_map_right_iff, List.forall₂_same]
  exact fun entry _ => (Table.isReadFrom_iff mapper entry _).mpr rfl

theorem nodup_typeNames_iff :
    snapshot.typeNames.Nodup ↔
      ∀ first second : TableEntry, [first, second].Sublist snapshot.tables →
      Text.upperFirst first.name ≠ Text.upperFirst second.name := by
  rw [typeNames, List.Nodup, List.pairwise_map, List.pairwise_iff_forall_sublist]

theorem exists_entries_of_introspect_eq_error {error : CatalogError}
    (failed : Schema.introspect mapper snapshot.catalog = .error error) :
    ∃ first second : TableEntry, [first, second].Sublist snapshot.tables ∧
      Text.upperFirst first.name = Text.upperFirst second.name ∧
      error = .duplicateTable (Text.upperFirst second.name) first.name second.name := by
  rcases (Schema.introspect_eq_error_iff error).mp failed with listed | refusal
  · simp [catalog] at listed
  · obtain ⟨front, name, back, listed, -, -, refused⟩ := refusal
    have names_eq : snapshot.tables.map (·.name) = front ++ name :: back := Except.ok.inj listed
    have name_mem : name ∈ snapshot.tables.map (·.name) := by simp [names_eq]
    obtain ⟨found, found_eq⟩ := exists_findTable_of_mem name_mem
    cases refused with
    | duplicate first member same =>
        obtain ⟨before, behind, tables_eq, rfl, behind_eq⟩ := List.map_eq_append_iff.mp names_eq
        obtain ⟨second, rest, rfl, rfl, -⟩ := List.map_eq_cons_iff.mp behind_eq
        obtain ⟨firstEntry, first_mem, rfl⟩ := List.mem_map.mp member
        refine ⟨firstEntry, second, ?_, same, rfl⟩
        rw [tables_eq]
        exact (List.singleton_sublist.mpr first_mem).append
          (List.singleton_sublist.mpr List.mem_cons_self)
    | primaryKeyNames _ _ failed => simp [catalog, found_eq, Except.map] at failed
    | identityColumnNames _ _ _ _ failed => simp [catalog, found_eq, Except.map] at failed
    | columns _ _ _ _ _ _ failed => simp [catalog, found_eq, Except.map] at failed

/-- Under distinct type names a table says what the entry at its place says and no other one. -/
theorem isReadFrom_iff_place (distinct : snapshot.typeNames.Nodup) {tables : List Table}
    (each_read : List.Forall₂ (fun entry table => table.IsReadFrom mapper entry) snapshot.tables
      tables) (i j : Nat) (table : Table) (entry : TableEntry) (table_at : tables[i]? = some table)
    (entry_at : snapshot.tables[j]? = some entry) : table.IsReadFrom mapper entry ↔ i = j := by
  obtain ⟨table_lt, rfl⟩ := List.getElem?_eq_some_iff.mp table_at
  have own_lt : i < snapshot.tables.length := each_read.length_eq ▸ table_lt
  have own_read : tables[i].IsReadFrom mapper snapshot.tables[i] := each_read.get own_lt table_lt
  constructor
  · intro read
    have same_name : snapshot.tables[i].name = entry.name :=
      own_read.storageName_eq.symm.trans read.storageName_eq
    have names_distinct := nodup_names_of_typeNames distinct
    rw [← List.getElem?_inj (by simpa using own_lt) names_distinct]
    simp [entry_at, own_lt, same_name]
  · rintro rfl
    obtain ⟨_, rfl⟩ := List.getElem?_eq_some_iff.mp entry_at
    exact own_read

/-- The introspection of a snapshot fails exactly when two entries have one type name.  Else each
table says what the entry at its place says, and what no other entry says. -/
theorem introspect_snapshot_by_place (mapper : TypeMapper) (snapshot : Snapshot) :
    (∀ error, Schema.introspect mapper snapshot.catalog = .error error →
      ∃ name first second, error = .duplicateTable name first second) ∧
    ((∃ error, Schema.introspect mapper snapshot.catalog = .error error) ↔
      ∃ first second : TableEntry, [first, second].Sublist snapshot.tables ∧
        Text.upperFirst first.name = Text.upperFirst second.name) ∧
    ∀ tables, Schema.introspect mapper snapshot.catalog = .ok tables →
      tables.length = snapshot.tables.length ∧
        ∀ (i j : Nat) (table : Table) (entry : TableEntry), tables[i]? = some table →
          snapshot.tables[j]? = some entry → (table.IsReadFrom mapper entry ↔ i = j) := by
  refine ⟨?_, ?_, ?_⟩
  · intro error failed
    obtain ⟨first, second, -, -, rfl⟩ := exists_entries_of_introspect_eq_error failed
    exact ⟨_, _, _, rfl⟩
  · constructor
    · rintro ⟨error, failed⟩
      obtain ⟨first, second, places, same, -⟩ := exists_entries_of_introspect_eq_error failed
      exact ⟨first, second, places, same⟩
    · rintro ⟨first, second, places, same⟩
      cases introspected : Schema.introspect mapper snapshot.catalog with
      | error error => exact ⟨error, rfl⟩
      | ok tables =>
          have distinct := exists_introspect_eq_ok_iff.mp ⟨tables, introspected⟩
          exact absurd same (nodup_typeNames_iff.mp distinct first second places)
  · intro tables introspected
    obtain ⟨distinct, each_read⟩ := (introspect_eq_ok_iff tables).mp introspected
    exact ⟨each_read.length_eq.symm, isReadFrom_iff_place distinct each_read⟩

/-- Names that differ in case alone, but not in their first letter, stay apart. -/
example :
    (Schema.introspect .csharp (catalog ⟨[
      { name := "oRDERS", primaryKey := ["id"] },
      { name := "orders", primaryKey := ["code"] }]⟩)).map
        (·.map fun table => (table.name, table.primaryKeyNames)) =
      .ok [("ORDERS", ["id"]), ("Orders", ["code"])] := by
  rfl

end Snapshot
end DataLayer

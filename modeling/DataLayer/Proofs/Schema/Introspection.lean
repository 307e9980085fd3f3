import DataLayer.Proofs.NamedMap
import DataLayer.Proofs.Traversal
import DataLayer.Schema.Introspect

/-!
# Introspected tables

An introspection that succeeds has read every table that the catalog lists, and no two of them have
the same type name.
-/

namespace DataLayer
namespace Schema

variable {mapper : TypeMapper} {catalog : Catalog}

theorem readTable_eq_ok_iff (storageName : String) (table : Table) :
    readTable mapper catalog storageName = .ok table ↔
      ∃ keys identity columns, catalog.primaryKeyNames storageName = .ok keys ∧
        catalog.identityColumnNames storageName = .ok identity ∧
        catalog.columns storageName = .ok columns ∧
        table = .ofAnswers mapper storageName keys identity columns := by
  simp only [readTable, Traversal.bind_eq_ok_iff, Traversal.pure_eq_ok_iff]
  constructor
  · rintro ⟨keys, keys_eq, identity, identity_eq, columns, columns_eq, rfl⟩
    exact ⟨keys, identity, columns, keys_eq, identity_eq, columns_eq, rfl⟩
  · rintro ⟨keys, identity, columns, keys_eq, identity_eq, columns_eq, rfl⟩
    exact ⟨keys, keys_eq, identity, identity_eq, columns, columns_eq, rfl⟩

theorem name_of_readTable {storageName : String} {table : Table}
    (read : readTable mapper catalog storageName = .ok table) :
    table.name = Text.upperFirst storageName := by
  obtain ⟨keys, identity, columns, -, -, -, rfl⟩ := (readTable_eq_ok_iff storageName table).mp read
  rw [Table.ofAnswers]

theorem readTables_cons_eq_ok_iff (seen : List (String × String)) (name : String)
    (rest : List String) (tables : List Table) :
    readTables mapper catalog seen (name :: rest) = .ok tables ↔
      seen.lookup (Text.upperFirst name) = none ∧
        ∃ table others, readTable mapper catalog name = .ok table ∧
          readTables mapper catalog ((Text.upperFirst name, name) :: seen) rest = .ok others ∧
          tables = table :: others := by
  rw [readTables]
  cases seen.lookup (Text.upperFirst name) with
  | some first => simp
  | none =>
      simp only [Traversal.bind_eq_ok_iff, Traversal.pure_eq_ok_iff, true_and]
      constructor
      · rintro ⟨table, read, others, following, rfl⟩
        exact ⟨table, others, read, following, rfl⟩
      · rintro ⟨table, others, read, following, rfl⟩
        exact ⟨table, read, others, following, rfl⟩

/-- Tables can be read in order when each of them can be read and each type name is new. -/
theorem readTables_eq_ok_iff (seen : List (String × String)) (names : List String)
    (tables : List Table) :
    readTables mapper catalog seen names = .ok tables ↔
      List.Forall₂ (fun name table => readTable mapper catalog name = .ok table) names tables ∧
        (names.map Text.upperFirst).Nodup ∧
        ∀ name ∈ names, seen.lookup (Text.upperFirst name) = none := by
  induction names generalizing seen tables with
  | nil => cases tables <;> simp [readTables]
  | cons name rest ih =>
      have unseen_iff (other : String) :
          ((Text.upperFirst name, name) :: seen).lookup (Text.upperFirst other) = none ↔
            Text.upperFirst other ≠ Text.upperFirst name ∧
              seen.lookup (Text.upperFirst other) = none := by
        rw [NamedMap.lookup_entry_cons]
        split_ifs with same <;> simp [same]
      rw [readTables_cons_eq_ok_iff, List.map_cons, List.nodup_cons, List.forall_mem_cons,
        List.forall₂_cons_left_iff]
      constructor
      · rintro ⟨unseen, table, others, read, following, rfl⟩
        obtain ⟨each_read, distinct, all_unseen⟩ := (ih _ others).mp following
        have new_name : Text.upperFirst name ∉ rest.map Text.upperFirst := by
          intro member
          obtain ⟨other, other_mem, same⟩ := List.mem_map.mp member
          exact ((unseen_iff other).mp (all_unseen other other_mem)).1 same
        exact ⟨⟨table, others, read, each_read, rfl⟩, ⟨new_name, distinct⟩, unseen,
          fun other member => ((unseen_iff other).mp (all_unseen other member)).2⟩
      · rintro ⟨⟨table, others, read, each_read, rfl⟩, ⟨new_name, distinct⟩, unseen, all_unseen⟩
        refine ⟨unseen, table, others, read, (ih _ others).mpr ⟨each_read, distinct, ?_⟩, rfl⟩
        intro other member
        have other_new : Text.upperFirst other ≠ Text.upperFirst name := by
          intro same
          exact new_name (same ▸ List.mem_map_of_mem member)
        exact (unseen_iff other).mpr ⟨other_new, all_unseen other member⟩

theorem introspect_eq_ok_iff (tables : List Table) :
    introspect mapper catalog = .ok tables ↔
      ∃ names, catalog.tableNames = .ok names ∧
        List.Forall₂ (fun name table => readTable mapper catalog name = .ok table) names tables ∧
        (names.map Text.upperFirst).Nodup := by
  simp only [introspect, Traversal.bind_eq_ok_iff, readTables_eq_ok_iff]
  simp

theorem nodup_names_of_introspect {tables : List Table}
    (introspected : introspect mapper catalog = .ok tables) : (tables.map (·.name)).Nodup := by
  obtain ⟨names, -, each_read, distinct⟩ := (introspect_eq_ok_iff tables).mp introspected
  have names_eq : tables.map (·.name) = names.map Text.upperFirst :=
    Traversal.map_eq_map_of_forall₂ each_read fun _ _ read => name_of_readTable read
  rwa [names_eq]

end Schema
end DataLayer

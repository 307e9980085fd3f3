import DataLayer.Proofs.NamedMap
import DataLayer.Proofs.Text.LetterCase
import DataLayer.Proofs.Traversal
import DataLayer.Schema.Introspect

/-!
# Respelled storage types

The family of a storage type does not depend on the case of its letters.  So two snapshots in which
only recognised storage types are spelled differently are introspected alike: the tables are the
same but for that spelling, or the error is the same.
-/

namespace DataLayer

/-- One storage type name, or two spellings of a recognised one. -/
def StorageFamily.IsRespelled (spelling other : String) : Prop :=
  other = spelling ∨ (classify? spelling).isSome = true ∧ Text.sameLetters spelling other = true

/-- The same column but for the spelling of a recognised storage type. -/
def ColumnInfo.IsRespelled (first second : ColumnInfo) : Prop :=
  ∃ spelling, StorageFamily.IsRespelled first.storageType spelling ∧
    second = { first with storageType := spelling }

/-- The same entry but for the spelling of recognised storage types. -/
def TableEntry.IsRespelled (first second : TableEntry) : Prop :=
  ∃ columns, List.Forall₂ ColumnInfo.IsRespelled first.columns columns ∧
    second = { first with columns }

/-- The same snapshot but for the spelling of recognised storage types. -/
def Snapshot.IsRespelled (first second : Snapshot) : Prop :=
  List.Forall₂ TableEntry.IsRespelled first.tables second.tables

/-- The same column of the schema but for the spelling of a recognised storage type. -/
def Column.IsRespelled (first second : Column) : Prop :=
  ∃ spelling, StorageFamily.IsRespelled first.storageType spelling ∧
    second = { first with storageType := spelling }

/-- The same table of the schema but for the spelling of recognised storage types. -/
def Table.IsRespelled (first second : Table) : Prop :=
  ∃ columns, List.Forall₂ Column.IsRespelled first.columns columns ∧
    second = { first with columns }

namespace StorageFamily

variable {spelling other : String}

theorem IsRespelled.classify?_eq (respelled : IsRespelled spelling other) :
    classify? other = classify? spelling := by
  rcases respelled with rfl | ⟨-, same⟩
  · rfl
  · rw [Text.sameLetters, beq_iff_eq] at same
    rw [classify?, classify?, same]

theorem classify?_eq_some_iff (storageType : String) (family : StorageFamily) :
    classify? storageType = some family ↔ (Text.foldCase storageType, family) ∈ spellings := by
  have distinct : (spellings.map Prod.fst).Nodup := by
    decide
  constructor
  · intro found
    obtain ⟨front, back, split, -⟩ := List.lookup_eq_some_iff.mp found
    rw [split]
    exact List.mem_append_right front List.mem_cons_self
  · exact NamedMap.lookup_of_mem distinct

theorem isAlpha_of_mem_spellings :
    ∀ entry ∈ spellings, ∀ c ∈ entry.1.toList, c.isAlpha = true := by
  have all_letters : (spellings.all fun entry => entry.1.toList.all Char.isAlpha) = true := by
    decide +kernel
  simpa only [List.all_eq_true] using all_letters

/-- Recognised storage type names consist of letters. -/
theorem isAlpha_of_classify? (recognised : (classify? spelling).isSome = true) :
    ∀ c ∈ (Text.foldCase spelling).toList, c.isAlpha = true := by
  obtain ⟨family, found⟩ := Option.isSome_iff_exists.mp recognised
  have listed := (classify?_eq_some_iff spelling family).mp found
  exact isAlpha_of_mem_spellings (Text.foldCase spelling, family) listed

theorem isRespelling_of_sameLetters (recognised : (classify? spelling).isSome = true)
    (same : Text.sameLetters spelling other = true) :
    Text.IsRespelling spelling.toList other.toList :=
  .of_sameLetters (isAlpha_of_classify? recognised) same

end StorageFamily

theorem TypeMapper.map_of_isRespelled {mapper : TypeMapper} (byFamily : mapper.ownRule = none)
    {spelling other : String} (respelled : StorageFamily.IsRespelled spelling other)
    (nullable : Bool) : mapper.map other nullable = mapper.map spelling nullable := by
  rw [map, map, byFamily]
  rcases respelled with rfl | ⟨recognised, same⟩
  · rfl
  · have classify?_eq := StorageFamily.IsRespelled.classify?_eq (.inr ⟨recognised, same⟩)
    obtain ⟨family, found⟩ := Option.isSome_iff_exists.mp recognised
    simp only [mapByFamily, classify?_eq, found]

namespace Table.IsRespelled

variable {first second : Table}

/-- Templates cannot tell the tables apart. -/
theorem fields_eq (respelled : first.IsRespelled second) : second.fields = first.fields := by
  obtain ⟨columns, pairs, rfl⟩ := respelled
  have key_rel := Traversal.find?_rel pairs Column.primaryKey Column.primaryKey (by
    rintro left _ ⟨spelling, -, rfl⟩
    rfl)
  have names_eq : columns.map (·.name) = first.columns.map (·.name) :=
    Traversal.map_eq_map_of_forall₂ pairs (by
      rintro left _ ⟨spelling, -, rfl⟩
      rfl)
  have keyName_eq : (columns.find? (·.primaryKey)).map (·.name) =
      (first.columns.find? (·.primaryKey)).map (·.name) :=
    Traversal.map_eq_map_of_rel key_rel (by
      rintro left _ ⟨spelling, -, rfl⟩
      rfl)
  have keyType_eq : (columns.find? (·.primaryKey)).map (·.mappedType) =
      (first.columns.find? (·.primaryKey)).map (·.mappedType) :=
    Traversal.map_eq_map_of_rel key_rel (by
      rintro left _ ⟨spelling, -, rfl⟩
      rfl)
  simp only [fields, primaryKey?, names_eq, keyName_eq, keyType_eq]

end Table.IsRespelled

namespace Snapshot

variable {first second : Snapshot}

theorem findTable_alike (respelled : first.IsRespelled second) (name : String) :
    Traversal.Alike TableEntry.IsRespelled (first.findTable name) (second.findTable name) := by
  have exact_rel := Traversal.find?_rel respelled (·.name == name) (·.name == name) (by
      rintro left _ ⟨columns, -, rfl⟩
      rfl)
  have loose_rel := Traversal.find?_rel respelled (fun table => Text.sameLetters table.name name)
    (fun table => Text.sameLetters table.name name) (by
      rintro left _ ⟨columns, -, rfl⟩
      rfl)
  have found_rel : Option.Rel TableEntry.IsRespelled (first.table? name) (second.table? name) :=
    Traversal.or_rel exact_rel loose_rel
  unfold findTable
  generalize first.table? name = found at found_rel ⊢
  generalize second.table? name = otherFound at found_rel ⊢
  cases found_rel with
  | none => exact .error _
  | some pair => exact .ok pair

theorem readTable_alike {mapper : TypeMapper} (byFamily : mapper.ownRule = none)
    (respelled : first.IsRespelled second) (name : String) :
    Traversal.Alike Table.IsRespelled (Schema.readTable mapper first.catalog name)
      (Schema.readTable mapper second.catalog name) := by
  have found := findTable_alike respelled name
  have keys_alike : Traversal.Alike Eq (first.catalog.primaryKeyNames name)
      (second.catalog.primaryKeyNames name) := by
    refine found.map ?_
    rintro left _ ⟨columns, -, rfl⟩
    rfl
  have identity_alike : Traversal.Alike Eq (first.catalog.identityColumnNames name)
      (second.catalog.identityColumnNames name) := by
    refine found.map ?_
    rintro left _ ⟨columns, -, rfl⟩
    rfl
  have columns_alike : Traversal.Alike (List.Forall₂ ColumnInfo.IsRespelled)
      (first.catalog.columns name) (second.catalog.columns name) := by
    refine found.map ?_
    rintro left _ ⟨columns, pairs, rfl⟩
    exact pairs
  refine keys_alike.bind ?_
  rintro keys _ rfl
  refine identity_alike.bind ?_
  rintro identity _ rfl
  refine columns_alike.bind fun columns others pairs => ?_
  refine .ok ⟨_, ?_, rfl⟩
  simp only [Table.ofAnswers, List.forall₂_map_left_iff, List.forall₂_map_right_iff]
  refine pairs.imp ?_
  rintro left _ ⟨spelling, respelled, rfl⟩
  refine ⟨spelling, respelled, ?_⟩
  simp only [Column.ofInfo, TypeMapper.map_of_isRespelled byFamily respelled]

/-- Respelled snapshots are introspected alike. -/
theorem introspect_alike {mapper : TypeMapper} (byFamily : mapper.ownRule = none)
    (respelled : first.IsRespelled second) :
    Traversal.Alike (List.Forall₂ Table.IsRespelled) (Schema.introspect mapper first.catalog)
      (Schema.introspect mapper second.catalog) := by
  have names_eq : second.tables.map (·.name) = first.tables.map (·.name) :=
    Traversal.map_eq_map_of_forall₂ respelled (by
      rintro left _ ⟨columns, -, rfl⟩
      rfl)
  have read_alike (names : List String) (seen : List (String × String)) :
      Traversal.Alike (List.Forall₂ Table.IsRespelled)
        (Schema.readTables mapper first.catalog seen names)
        (Schema.readTables mapper second.catalog seen names) := by
    induction names generalizing seen with
    | nil => exact .ok .nil
    | cons name rest ih =>
        rw [Schema.readTables, Schema.readTables]
        cases seen.lookup (Text.upperFirst name) with
        | some earlier => exact .error _
        | none =>
            refine (readTable_alike byFamily respelled name).bind fun table other pair => ?_
            exact (ih _).bind fun tables others pairs => .ok (.cons pair pairs)
  have listed_eq : second.catalog.tableNames = first.catalog.tableNames := by
    rw [catalog, catalog, names_eq]
  rw [Schema.introspect, Schema.introspect, listed_eq]
  exact read_alike (first.tables.map (·.name)) []

end Snapshot
end DataLayer

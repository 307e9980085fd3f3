import DataLayer.Proofs.Schema.Outcome
import DataLayer.Proofs.Text.Uppercase

/-!
# Type names in a catalog

A type name stays as it is when it is capitalised, so a table whose name in the catalog is the type
name of another one takes the same type name.  A catalog with both cannot be introspected: the later
of the two is refused, unless reading the tables has failed before.
-/

namespace DataLayer
namespace Schema

/-- Reading the named tables in order fails with the error at one of the tables in front of a
place. -/
def FailsBefore (catalog : Catalog) (names : List String) (place : Nat) (error : CatalogError) :
    Prop :=
  ∃ step < place, ∃ name, names[step]? = some name ∧
    Refuses catalog (names.take step) name error

variable {catalog : Catalog} {names : List String} {earlier later : Nat} {first second : String}

theorem not_nodup_typeNames (before : earlier < later) (first_eq : names[earlier]? = some first)
    (second_eq : names[later]? = some second)
    (same : Text.upperFirst first = Text.upperFirst second) :
    ¬ (names.map Text.upperFirst).Nodup := by
  intro distinct
  have later_lt : later < (names.map Text.upperFirst).length := by
    rw [List.length_map]
    exact (List.getElem?_eq_some_iff.mp second_eq).1
  refine List.nodup_iff_getElem?_ne_getElem?.mp distinct earlier later before later_lt ?_
  rw [List.getElem?_map, List.getElem?_map, first_eq, second_eq, Option.map_some, Option.map_some,
    same]

theorem Refuses.eq_duplicateTable {front : List String} {error : CatalogError}
    (refused : Refuses catalog front second error) (member : first ∈ front)
    (same : Text.upperFirst first = Text.upperFirst second) :
    error = .duplicateTable (Text.upperFirst second) first second := by
  cases refused with
  | duplicate found _ _ only => rw [only first member same]
  | primaryKeyNames _ new => exact absurd same (new first member)
  | identityColumnNames _ _ new => exact absurd same (new first member)
  | columns _ _ _ new => exact absurd same (new first member)

theorem exists_refusal_of_same_typeName (mapper : TypeMapper)
    (listed : catalog.tableNames = .ok names) (before : earlier < later)
    (first_eq : names[earlier]? = some first) (second_eq : names[later]? = some second)
    (same : Text.upperFirst first = Text.upperFirst second) :
    ∃ error, introspect mapper catalog = .error error ∧
      (error = .duplicateTable (Text.upperFirst second) first second ∨
        FailsBefore catalog names later error) := by
  cases outcome : introspect mapper catalog with
  | ok tables =>
      obtain ⟨_, listed_again, -, distinct⟩ := (introspect_eq_ok_iff tables).mp outcome
      obtain rfl := Except.ok.inj (listed.symm.trans listed_again)
      exact absurd distinct (not_nodup_typeNames before first_eq second_eq same)
  | error error =>
      refine ⟨error, rfl, ?_⟩
      rcases (introspect_eq_error_iff error).mp outcome with
        unlisted | ⟨front, name, back, listed_again, -, distinct, refused⟩
      · rw [listed] at unlisted
        nomatch unlisted
      obtain rfl := Except.ok.inj (listed.symm.trans listed_again)
      have name_eq : (front ++ name :: back)[front.length]? = some name := by simp
      rcases Nat.lt_trichotomy front.length later with stopped | rfl | passed
      · refine .inr ⟨front.length, stopped, name, name_eq, ?_⟩
        rwa [List.take_left]
      · obtain rfl : name = second := Option.some.inj (name_eq.symm.trans second_eq)
        rw [List.getElem?_append_left before] at first_eq
        exact .inl (refused.eq_duplicateTable (List.mem_of_getElem? first_eq) same)
      · -- Both would have been read, although only tables of distinct type names are.
        rw [List.getElem?_append_left (Nat.lt_trans before passed)] at first_eq
        rw [List.getElem?_append_left passed] at second_eq
        exact absurd distinct (not_nodup_typeNames before first_eq second_eq same)

/-- Type names are those that capitalising leaves as they are: it changes nothing when it is done
again, every table of a schema has such a name, and a catalog that lists a name at one place and its
type name at another is refused at the later of the two places, if not before. -/
theorem typeNames_stay_capitalised (mapper : TypeMapper) (catalog : Catalog) :
    (∀ text, Text.upperFirst (Text.upperFirst text) = Text.upperFirst text) ∧
      (∀ tables, introspect mapper catalog = .ok tables →
        ∀ table ∈ tables, Text.upperFirst table.name = table.name) ∧
      ∀ names i j name, catalog.tableNames = .ok names → i ≠ j → names[i]? = some name →
        names[j]? = some (Text.upperFirst name) →
        ∃ error, introspect mapper catalog = .error error ∧
          ((∃ first second, names[min i j]? = some first ∧ names[max i j]? = some second ∧
              error = .duplicateTable (Text.upperFirst name) first second) ∨
            FailsBefore catalog names (max i j) error) := by
  refine ⟨Text.upperFirst_upperFirst, ?_, ?_⟩
  · intro tables introspected table member
    obtain ⟨entry, read⟩ := exists_entry_of_introspect introspected member
    rw [read.name_eq, Text.upperFirst_upperFirst]
  · intro names i j name listed apart name_eq typeName_eq
    have same := Text.upperFirst_upperFirst name
    rcases Nat.lt_or_gt_of_ne apart with before | behind
    · obtain ⟨error, failed, refused⟩ :=
        exists_refusal_of_same_typeName mapper listed before name_eq typeName_eq same.symm
      rw [Nat.min_eq_left (Nat.le_of_lt before), Nat.max_eq_right (Nat.le_of_lt before)]
      refine ⟨error, failed, refused.imp_left fun duplicate => ?_⟩
      exact ⟨name, _, name_eq, typeName_eq, by rw [duplicate, same]⟩
    · obtain ⟨error, failed, refused⟩ :=
        exists_refusal_of_same_typeName mapper listed behind typeName_eq name_eq same
      rw [Nat.min_eq_right (Nat.le_of_lt behind), Nat.max_eq_left (Nat.le_of_lt behind)]
      refine ⟨error, failed, refused.imp_left fun duplicate => ?_⟩
      exact ⟨_, name, typeName_eq, name_eq, duplicate⟩

/-- The uppercase form of the first letter can take several characters. -/
theorem typeNames_stay_capitalised_of_sharp_s :
    (∃ tables, introspect .csharp (Snapshot.catalog ⟨[{ name := "ßeta" }, { name := "ǆ" }]⟩) =
        .ok tables ∧
      tables.map (·.name) = ["SSeta", "Ǆ"] ∧
      ∀ table ∈ tables, Text.upperFirst table.name = table.name) ∧
    ∃ names error, names = ["ßeta", "x", "SSeta"] ∧ names[0]? = some "ßeta" ∧
      names[2]? = some (Text.upperFirst "ßeta") ∧
      introspect .csharp (Snapshot.catalog ⟨names.map fun name => { name }⟩) = .error error ∧
      ((∃ first second, names[min 0 2]? = some first ∧ names[max 0 2]? = some second ∧
          error = .duplicateTable (Text.upperFirst "ßeta") first second) ∨
        FailsBefore (Snapshot.catalog ⟨names.map fun name => { name }⟩) names (max 0 2) error) := by
  constructor
  · refine ⟨[.ofAnswers .csharp "ßeta" [] [] [], .ofAnswers .csharp "ǆ" [] [] []], rfl,
      by decide +kernel, ?_⟩
    exact (typeNames_stay_capitalised .csharp
      (Snapshot.catalog ⟨[{ name := "ßeta" }, { name := "ǆ" }]⟩)).2.1 _ rfl
  · have typeName_eq : ["ßeta", "x", "SSeta"][2]? = some (Text.upperFirst "ßeta") := by
      decide +kernel
    obtain ⟨error, failed, refused⟩ := (typeNames_stay_capitalised .csharp
      (Snapshot.catalog ⟨["ßeta", "x", "SSeta"].map fun name => { name }⟩)).2.2
      ["ßeta", "x", "SSeta"] 0 2 "ßeta" rfl (by decide) rfl typeName_eq
    exact ⟨_, error, rfl, rfl, typeName_eq, failed, refused⟩

end Schema
end DataLayer

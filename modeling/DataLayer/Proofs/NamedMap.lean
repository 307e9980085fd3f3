import DataLayer.NamedMap
import Mathlib.Data.List.Nodup
import Mathlib.Data.List.Perm.Subperm

/-!
# Ordered maps as functions of names

A name has the value that was written under it last.  Merging maps is associative, and two maps
agree exactly when every name has the same value in both, whatever the order of the names.
-/

namespace DataLayer
namespace NamedMap

variable {α : Type}

@[simp]
theorem get?_empty (name : String) : (empty : NamedMap α).get? name = none := rfl

theorem lookup_entry_cons {κ : Type} [BEq κ] [LawfulBEq κ] [DecidableEq κ] (entry : κ × α)
    (rest : List (κ × α)) (name : κ) :
    (entry :: rest).lookup name = if name = entry.1 then some entry.2 else rest.lookup name := by
  rw [List.lookup_cons]
  by_cases same : name = entry.1
  · simp [same]
  · simp [same, beq_false_of_ne same]

theorem lookup_eq_none_iff_notMem {entries : List (String × α)} {name : String} :
    entries.lookup name = none ↔ name ∉ entries.map Prod.fst := by
  simp only [List.lookup_eq_none_iff, List.mem_map, bne_iff_ne, not_exists, not_and]
  exact forall₂_congr fun entry _ => ne_comm

theorem lookup_of_mem {entries : List (String × α)} (distinct : (entries.map Prod.fst).Nodup)
    {named : String × α} (member : named ∈ entries) : entries.lookup named.1 = some named.2 := by
  induction entries with
  | nil => simp at member
  | cons entry rest ih =>
      rw [List.map_cons, List.nodup_cons] at distinct
      rw [lookup_entry_cons]
      rcases List.mem_cons.mp member with rfl | below
      · rw [if_pos rfl]
      · have name_ne : named.1 ≠ entry.1 := fun same =>
          distinct.1 (same ▸ List.mem_map_of_mem below)
        rw [if_neg name_ne, ih distinct.2 below]

theorem lookup_insertEntry (name other : String) (value : α) (entries : List (String × α)) :
    (insertEntry name value entries).lookup other =
      if other = name then some value else entries.lookup other := by
  induction entries with
  | nil => simp [insertEntry, lookup_entry_cons]
  | cons entry rest ih =>
      by_cases there : entry.1 = name
      · by_cases same : other = name <;> simp [insertEntry, lookup_entry_cons, there, same]
      · by_cases found : other = entry.1
        · simp [insertEntry, lookup_entry_cons, there, found]
        · simp [insertEntry, lookup_entry_cons, there, found, ih]

@[simp]
theorem get?_insert (map : NamedMap α) (name other : String) (value : α) :
    (map.insert name value).get? other = if other = name then some value else map.get? other :=
  lookup_insertEntry name other value map.entries

/-- Under distinct names it does not matter from which end a name is looked up. -/
theorem lookup_reverse {entries : List (String × α)} (distinct : (entries.map Prod.fst).Nodup)
    (name : String) : entries.reverse.lookup name = entries.lookup name := by
  induction entries with
  | nil => rfl
  | cons entry rest ih =>
      rw [List.map_cons, List.nodup_cons] at distinct
      rw [List.reverse_cons, List.lookup_append, ih distinct.2, lookup_entry_cons,
        lookup_entry_cons]
      split_ifs with same
      · have absent : rest.lookup name = none :=
          lookup_eq_none_iff_notMem.mpr (same ▸ distinct.1)
        rw [absent]
        rfl
      · simp

theorem get?_insertAll (map : NamedMap α) (entries : List (String × α)) (name : String) :
    (map.insertAll entries).get? name = (entries.reverse.lookup name).or (map.get? name) := by
  induction entries generalizing map with
  | nil => simp [insertAll]
  | cons entry rest ih =>
      have rest_eq := ih (map.insert entry.1 entry.2)
      rw [insertAll] at rest_eq ⊢
      rw [List.foldl_cons, rest_eq, List.reverse_cons, List.lookup_append]
      by_cases same : name = entry.1 <;> simp [lookup_entry_cons, same]

/-- In a merged map the values of the second map win. -/
theorem get?_merge (map other : NamedMap α) (name : String) :
    (map.merge other).get? name = (other.get? name).or (map.get? name) := by
  rw [merge, get?_insertAll, lookup_reverse other.names_nodup, get?, get?]

theorem get?_ofList (entries : List (String × α)) (name : String) :
    (ofList entries).get? name = entries.reverse.lookup name := by
  rw [ofList, get?_insertAll, get?_empty, Option.or_none]

/-- A name has the value behind which it is not written again. -/
theorem get?_ofList_eq_some_iff (entries : List (String × α)) (name : String) (value : α) :
    (ofList entries).get? name = some value ↔
      ∃ front back, entries = front ++ (name, value) :: back ∧ name ∉ back.map Prod.fst := by
  rw [get?_ofList, List.lookup_eq_some_iff]
  have notMem_iff (back : List (String × α)) :
      name ∉ back.map Prod.fst ↔ ∀ entry ∈ back.reverse, (name != entry.1) = true := by
    simp only [List.mem_map, List.mem_reverse, bne_iff_ne, not_exists, not_and]
    exact forall₂_congr fun entry _ => ne_comm
  simp only [notMem_iff]
  constructor
  · rintro ⟨before, behind, reverse_eq, others⟩
    refine ⟨behind.reverse, before.reverse, ?_, by simpa using others⟩
    rw [← List.reverse_reverse entries, reverse_eq]
    simp
  · rintro ⟨front, back, rfl, others⟩
    exact ⟨back.reverse, front.reverse, by simp, others⟩

theorem mem_of_get?_ofList {entries : List (String × α)} {name : String} {value : α}
    (found : (ofList entries).get? name = some value) : (name, value) ∈ entries := by
  obtain ⟨front, back, rfl, -⟩ := (get?_ofList_eq_some_iff entries name value).mp found
  exact List.mem_append_right front List.mem_cons_self

theorem get?_ofList_of_mem {entries : List (String × α)}
    (distinct : (entries.map Prod.fst).Nodup) {entry : String × α} (member : entry ∈ entries) :
    (ofList entries).get? entry.1 = some entry.2 := by
  obtain ⟨before, behind, rfl⟩ := List.append_of_mem member
  rw [List.map_append, List.map_cons] at distinct
  exact (get?_ofList_eq_some_iff _ _ _).mpr
    ⟨before, behind, rfl, (List.nodup_cons.mp (List.Nodup.of_append_right distinct)).1⟩

theorem get?_eq_none_iff (map : NamedMap α) (name : String) :
    map.get? name = none ↔ name ∉ map.names :=
  lookup_eq_none_iff_notMem

theorem names_insert (map : NamedMap α) (name : String) (value : α) :
    (map.insert name value).names =
      if name ∈ map.names then map.names else map.names ++ [name] := by
  have entries_eq (entries : List (String × α)) :
      (insertEntry name value entries).map Prod.fst =
        if name ∈ entries.map Prod.fst then entries.map Prod.fst
        else entries.map Prod.fst ++ [name] := by
    induction entries with
    | nil => rfl
    | cons entry rest ih =>
        by_cases same : entry.1 = name
        · simp [insertEntry, same]
        · rw [insertEntry, if_neg same, List.map_cons, ih]
          simp only [List.map_cons, List.mem_cons, Ne.symm same, false_or]
          split_ifs <;> rfl
  exact entries_eq map.entries

/-- Names that are new come behind the others, in their own order. -/
theorem names_insertAll (map : NamedMap α) {entries : List (String × α)}
    (distinct : (entries.map Prod.fst).Nodup) :
    (map.insertAll entries).names =
      map.names ++ (entries.map Prod.fst).filter (· ∉ map.names) := by
  induction entries generalizing map with
  | nil => simp [insertAll]
  | cons entry rest ih =>
      rw [List.map_cons, List.nodup_cons] at distinct
      have rest_eq := ih (map.insert entry.1 entry.2) distinct.2
      rw [insertAll] at rest_eq ⊢
      rw [List.foldl_cons, rest_eq, names_insert, List.map_cons]
      by_cases known : entry.1 ∈ map.names
      · simp [known]
      · have others : (rest.map Prod.fst).filter (· ∉ map.names ++ [entry.1]) =
            (rest.map Prod.fst).filter (· ∉ map.names) := by
          refine List.filter_congr fun name member => ?_
          have name_ne : name ≠ entry.1 := fun same => distinct.1 (same ▸ member)
          simp [name_ne]
        rw [if_neg known, others]
        simp [known]

theorem names_merge (map other : NamedMap α) :
    (map.merge other).names = map.names ++ other.names.filter (· ∉ map.names) :=
  names_insertAll map other.names_nodup

/-- A map is determined by the order of its names and by their values. -/
theorem eq_of_names {map other : NamedMap α} (names_eq : map.names = other.names)
    (same : ∀ name, map.get? name = other.get? name) : map = other := by
  have entries_eq : map.entries = other.entries := by
    have same_length : map.entries.length = other.entries.length := by
      simpa [names] using congrArg List.length names_eq
    refine List.ext_getElem same_length fun i left_lt right_lt => ?_
    have name_eq : map.entries[i].1 = other.entries[i].1 := by
      have at_i := congrArg (·[i]?) names_eq
      simpa [names, left_lt, right_lt] using at_i
    have left_value := lookup_of_mem map.names_nodup (List.getElem_mem left_lt)
    have right_value := lookup_of_mem other.names_nodup (List.getElem_mem right_lt)
    have value_eq := same map.entries[i].1
    rw [get?, get?, left_value, name_eq, right_value] at value_eq
    exact Prod.ext name_eq (Option.some.inj value_eq)
  cases map
  cases other
  simpa using entries_eq

@[simp]
theorem merge_empty (map : NamedMap α) : map.merge empty = map := rfl

@[simp]
theorem empty_merge (map : NamedMap α) : empty.merge map = map := by
  refine eq_of_names ?_ fun name => ?_
  · rw [names_merge]
    simp [names, empty]
  · rw [get?_merge, get?_empty, Option.or_none]

theorem merge_assoc (first second third : NamedMap α) :
    (first.merge second).merge third = first.merge (second.merge third) := by
  refine eq_of_names ?_ fun name => ?_
  · simp only [names_merge, List.filter_append, List.filter_filter, List.append_assoc]
    congr 2
    refine List.filter_congr fun name _ => ?_
    by_cases there : name ∈ first.names <;> simp [there]
  · simp only [get?_merge, Option.or_assoc]

/-- Two maps agree when they give every name the same value. -/
theorem agrees_iff [DecidableEq α] (map other : NamedMap α) :
    map.agrees other = true ↔ ∀ name, map.get? name = other.get? name := by
  rw [agrees, Bool.and_eq_true, beq_iff_eq, List.all_eq_true]
  simp only [beq_iff_eq]
  constructor
  · rintro ⟨same_length, held⟩ name
    have names_subset : map.names ⊆ other.names := by
      intro held_name member
      obtain ⟨entry, entry_mem, rfl⟩ := List.mem_map.mp member
      by_contra absent
      rw [← get?_eq_none_iff, held entry entry_mem] at absent
      cases absent
    have names_perm : map.names.Perm other.names := by
      refine (map.names_nodup.subperm names_subset).perm_of_length_le ?_
      simp [names, same_length]
    cases found : map.get? name with
    | none =>
        rw [get?_eq_none_iff, names_perm.mem_iff, ← get?_eq_none_iff] at found
        exact found.symm
    | some value =>
        obtain ⟨front, back, entries_eq, -⟩ := List.lookup_eq_some_iff.mp found
        have member : (name, value) ∈ map.entries := by simp [entries_eq]
        exact (held _ member).symm
  · intro same
    have names_perm : map.names.Perm other.names := by
      refine (List.perm_ext_iff_of_nodup map.names_nodup other.names_nodup).mpr fun name => ?_
      have none_iff : name ∉ map.names ↔ name ∉ other.names := by
        rw [← get?_eq_none_iff, ← get?_eq_none_iff, same]
      exact not_iff_not.mp none_iff
    refine ⟨by simpa [names] using names_perm.length_eq, fun entry member => ?_⟩
    rw [← same]
    exact lookup_of_mem map.names_nodup member

end NamedMap
end DataLayer

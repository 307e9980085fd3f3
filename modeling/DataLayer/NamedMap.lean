/-!
# Ordered maps by name

Values under names, kept in the order in which the names first came up.  Writing to a name that is
there replaces its value and leaves the name in its place.  Two maps count as equal when they give
every name the same value, whatever the order.
-/

namespace DataLayer

/-- Values under pairwise distinct names, in the order of first mention. -/
structure NamedMap (α : Type) where
  /-- The names with their values. -/
  entries : List (String × α)
  /-- No name comes twice. -/
  names_nodup : (entries.map Prod.fst).Nodup

namespace NamedMap

variable {α : Type}

/-- The map without names. -/
def empty : NamedMap α :=
  ⟨[], List.nodup_nil⟩

instance : Inhabited (NamedMap α) :=
  ⟨empty⟩

/-- The names, in order of first mention. -/
def names (map : NamedMap α) : List String :=
  map.entries.map Prod.fst

/-- The value under a name. -/
def get? (map : NamedMap α) (name : String) : Option α :=
  map.entries.lookup name

/-- Write a value into a list of named values: in place where the name is there, else at the end. -/
def insertEntry (name : String) (value : α) : List (String × α) → List (String × α)
  | [] => [(name, value)]
  | entry :: rest =>
    if entry.1 = name then (name, value) :: rest else entry :: insertEntry name value rest

theorem mem_names_insertEntry {name other : String} {value : α} {entries : List (String × α)} :
    other ∈ (insertEntry name value entries).map Prod.fst ↔
      other = name ∨ other ∈ entries.map Prod.fst := by
  induction entries with
  | nil => simp [insertEntry]
  | cons entry rest ih =>
    by_cases same : entry.1 = name
    · simp [insertEntry, same]
    · simp only [insertEntry, same, if_false, List.map_cons, List.mem_cons, ih]
      constructor
      · rintro (h | h | h) <;> simp [h]
      · rintro (h | h | h) <;> simp [h]

theorem nodup_names_insertEntry {name : String} {value : α} {entries : List (String × α)}
    (distinct : (entries.map Prod.fst).Nodup) :
    ((insertEntry name value entries).map Prod.fst).Nodup := by
  induction entries with
  | nil => simp [insertEntry]
  | cons entry rest ih =>
    rw [List.map_cons, List.nodup_cons] at distinct
    by_cases same : entry.1 = name
    · subst same
      simpa [insertEntry] using distinct
    · rw [insertEntry, if_neg same, List.map_cons, List.nodup_cons, mem_names_insertEntry, not_or]
      exact ⟨⟨same, distinct.1⟩, ih distinct.2⟩

/-- Write a value under a name. -/
def insert (map : NamedMap α) (name : String) (value : α) : NamedMap α :=
  ⟨insertEntry name value map.entries, nodup_names_insertEntry map.names_nodup⟩

/-- Write named values one after another, so the last one under a name stays. -/
def insertAll (map : NamedMap α) (entries : List (String × α)) : NamedMap α :=
  entries.foldl (fun written entry => written.insert entry.1 entry.2) map

/-- The map that holds named values written one after another. -/
def ofList (entries : List (String × α)) : NamedMap α :=
  empty.insertAll entries

/-- Write everything another map holds. -/
def merge (map other : NamedMap α) : NamedMap α :=
  map.insertAll other.entries

/-- The maps hold the same names with the same values, in whatever order. -/
def agrees [DecidableEq α] (map other : NamedMap α) : Bool :=
  map.entries.length == other.entries.length &&
    map.entries.all fun entry => other.get? entry.1 == some entry.2

end NamedMap
end DataLayer

import DataLayer.Files.Tree
import DataLayer.Proofs.NamedMap

/-!
# Places of a file system

Putting something at a place changes what is there and nothing else.  It happens in place, so
putting at every place what is there in the end changes nothing at all.
-/

namespace DataLayer
namespace FileTree

variable {tree : FileTree} {place other : Location} {entry : FileEntry}

theorem lookup_setEntry_self (place : Location) (entry : FileEntry)
    (entries : List (Location × FileEntry)) :
    (setEntry place entry entries).lookup place = some entry := by
  induction entries with
  | nil => simp [setEntry]
  | cons first rest ih =>
      rw [setEntry]
      split_ifs with same
      · rw [NamedMap.lookup_entry_cons, if_pos rfl]
      · rw [NamedMap.lookup_entry_cons, if_neg (Ne.symm same), ih]

theorem lookup_setEntry_of_ne (apart : other ≠ place) (entry : FileEntry)
    (entries : List (Location × FileEntry)) :
    (setEntry place entry entries).lookup other = entries.lookup other := by
  induction entries with
  | nil => rw [setEntry, NamedMap.lookup_entry_cons, if_neg apart]
  | cons first rest ih =>
      rw [setEntry]
      split_ifs with same
      · rw [NamedMap.lookup_entry_cons, NamedMap.lookup_entry_cons, if_neg apart,
          if_neg (same ▸ apart)]
      · rw [NamedMap.lookup_entry_cons, NamedMap.lookup_entry_cons, ih]

theorem setEntry_of_lookup {entries : List (Location × FileEntry)}
    (there : entries.lookup place = some entry) : setEntry place entry entries = entries := by
  induction entries with
  | nil => simp at there
  | cons first rest ih =>
      rw [NamedMap.lookup_entry_cons] at there
      rw [setEntry]
      by_cases same : first.1 = place
      · rw [if_pos same.symm] at there
        rw [if_pos same, ← same, ← Option.some.inj there]
      · rw [if_neg (Ne.symm same)] at there
        rw [if_neg same, ih there]

theorem setEntry_setEntry (place : Location) (entry newer : FileEntry)
    (entries : List (Location × FileEntry)) :
    setEntry place newer (setEntry place entry entries) = setEntry place newer entries := by
  induction entries with
  | nil => simp [setEntry]
  | cons first rest ih =>
      rw [setEntry, setEntry]
      split_ifs with same
      · rw [setEntry, if_pos rfl]
      · rw [setEntry, if_neg same, ih]

theorem setEntry_comm (apart : other ≠ place) {entries : List (Location × FileEntry)}
    (there : entries.lookup place ≠ none) (entry later : FileEntry) :
    setEntry other later (setEntry place entry entries) =
      setEntry place entry (setEntry other later entries) := by
  induction entries with
  | nil => simp at there
  | cons first rest ih =>
      rw [NamedMap.lookup_entry_cons] at there
      by_cases same : first.1 = place
      · simp [setEntry, same, apart.symm]
      · rw [if_neg (Ne.symm same)] at there
        by_cases met : first.1 = other
        · simp [setEntry, met, apart]
        · simp [setEntry, same, met, ih there]

theorem get?_set_self (nonroot : place ≠ []) (tree : FileTree) (entry : FileEntry) :
    (tree.set place entry).get? place = some entry := by
  rw [get?, if_neg nonroot]
  exact lookup_setEntry_self place entry tree.entries

theorem get?_set_of_ne (apart : other ≠ place) (tree : FileTree) (entry : FileEntry) :
    (tree.set place entry).get? other = tree.get? other := by
  simp only [get?, set, lookup_setEntry_of_ne apart]

theorem set_of_get? (nonroot : place ≠ []) (there : tree.get? place = some entry) :
    tree.set place entry = tree := by
  rw [get?, if_neg nonroot] at there
  rw [set, setEntry_of_lookup there]

/-- Put something at several places, one after another. -/
def setAll (tree : FileTree) (writes : List (Location × FileEntry)) : FileTree :=
  writes.foldl (fun reached write => reached.set write.1 write.2) tree

theorem setAll_cons (tree : FileTree) (first : Location × FileEntry)
    (rest : List (Location × FileEntry)) :
    tree.setAll (first :: rest) = (tree.set first.1 first.2).setAll rest := rfl

theorem setAll_set_of_mem {writes : List (Location × FileEntry)}
    (member : place ∈ writes.map Prod.fst) (nonroot : place ≠ []) (tree : FileTree)
    (there : tree.get? place ≠ none) (entry : FileEntry) :
    (tree.set place entry).setAll writes = tree.setAll writes := by
  induction writes generalizing tree with
  | nil => simp at member
  | cons first rest ih =>
      rw [setAll_cons, setAll_cons]
      by_cases same : first.1 = place
      · simp only [same, set, setEntry_setEntry]
      · have later : place ∈ rest.map Prod.fst := by simpa [Ne.symm same] using member
        have still_there : (tree.set first.1 first.2).get? place ≠ none := by
          rwa [get?_set_of_ne (Ne.symm same)]
        rw [get?, if_neg nonroot] at there
        rw [← ih later (tree.set first.1 first.2) still_there]
        simp only [set, setEntry_comm same there]

/-- What is written last at a place stands behind all else that is written there. -/
theorem lookup_reverse_cons (first : Location × FileEntry) (rest : List (Location × FileEntry))
    (place : Location) :
    (first :: rest).reverse.lookup place =
      (rest.reverse.lookup place).or (if place = first.1 then some first.2 else none) := by
  rw [List.reverse_cons, List.lookup_append, NamedMap.lookup_entry_cons, List.lookup_nil]

/-- To set places again, each in the end to what is there, changes nothing. -/
theorem setAll_eq_self {writes : List (Location × FileEntry)}
    (nonroot : ∀ write ∈ writes, write.1 ≠ [])
    (there : ∀ place entry, writes.reverse.lookup place = some entry →
      tree.get? place = some entry) :
    tree.setAll writes = tree := by
  induction writes with
  | nil => rfl
  | cons first rest ih =>
      rw [List.forall_mem_cons] at nonroot
      simp only [lookup_reverse_cons] at there
      have rest_there (place : Location) (entry : FileEntry)
          (found : rest.reverse.lookup place = some entry) : tree.get? place = some entry := by
        apply there place entry
        rw [found, Option.some_or]
      -- The first write is undone by a later one, or it puts there what is there already.
      have rest_eq : tree.setAll (first :: rest) = tree.setAll rest := by
        rw [setAll_cons]
        cases again : rest.reverse.lookup first.1 with
        | some entry =>
            obtain ⟨front, back, reversed_eq, -⟩ := List.lookup_eq_some_iff.mp again
            have member : (first.1, entry) ∈ rest := by
              rw [← List.mem_reverse, reversed_eq]
              simp
            have first_there : tree.get? first.1 ≠ none := by simp [rest_there first.1 entry again]
            exact setAll_set_of_mem (List.mem_map_of_mem member) nonroot.1 tree first_there first.2
        | none =>
            have first_there : tree.get? first.1 = some first.2 := by
              apply there first.1 first.2
              rw [again, if_pos rfl, Option.none_or]
            rw [set_of_get? nonroot.1 first_there]
      rw [rest_eq]
      exact ih nonroot.2 rest_there

end FileTree
end DataLayer

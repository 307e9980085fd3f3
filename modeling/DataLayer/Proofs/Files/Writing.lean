import DataLayer.Files.Write
import DataLayer.Proofs.Files.Folders
import DataLayer.Proofs.Stateful
import Mathlib.Data.List.Infix

/-!
# Writing files

A file that is written replaces what was at its place, in folders that are made where nothing was.
No other place changes.  Afterwards it can be written again, and then only its text is replaced.
-/

namespace DataLayer
namespace FileTree

variable {tree after middle : FileTree} {place : Location} {path other content : String}

theorem write_eq_ok_iff (tree after : FileTree) (path : String) (entry : FileEntry) :
    tree.write path entry = .ok after ↔
      ∃ folder name, tree.locateLast path = .ok (folder, name) ∧ isMarker name = false ∧
        path.endsWith "/" = false ∧ name.utf8ByteSize ≤ 255 ∧
        tree.get? (folder ++ [name]) ≠ some .folder ∧
        tree.set (folder ++ [name]) entry = after := by
  rw [write, Traversal.bind_eq_ok_iff]
  constructor
  · rintro ⟨⟨folder, name⟩, located, written⟩
    refine ⟨folder, name, located, ?_⟩
    dsimp only at written
    split_ifs at written with marker long
    rw [not_or] at marker
    refine ⟨by simpa using marker.1, by simpa using marker.2, Nat.le_of_not_lt long, ?_⟩
    split at written
    · contradiction
    · rename_i free
      exact ⟨free, Except.ok.inj written⟩
  · rintro ⟨folder, name, located, named, open_end, short, free, after_eq⟩
    refine ⟨(folder, name), located, ?_⟩
    simp only [named, open_end, Nat.not_lt.mpr short]
    split
    · contradiction
    · split
      · contradiction
      · rw [after_eq]
        rfl

/-- The folders around a path, made where they are missing. -/
def madeAround (tree : FileTree) (path : String) : Except FileError Unit × FileTree :=
  match Path.parent? path with
  | none => (.ok (), tree)
  | some parent => (FileStore.makeFolders parent : StateM FileTree _).run tree

theorem outcome_write_eq_ok_iff (file : PlannedFile) (tree after : FileTree) (answer : WriteResult)
    (always : file.overwrite = .always) :
    Stateful.outcome file.write tree = (.ok answer, after) ↔
      answer = .written ∧ Stateful.outcome file.force tree = (.ok (), after) := by
  rw [PlannedFile.write, always]
  change Stateful.outcome (file.force >>= fun _ => pure WriteResult.written) tree = _ ↔ _
  rw [Stateful.outcome_bind]
  generalize Stateful.outcome file.force tree = forced
  obtain ⟨result, reached⟩ := forced
  cases result with
  | error cause => simp
  | ok _ => simp [eq_comm]

theorem grows_of_madeAround {result : Except FileError Unit}
    (made : tree.madeAround path = (result, middle)) :
    Grows (tree.start path) (Path.steps path).dropLast tree middle := by
  rw [madeAround] at made
  cases around : Path.parent? path with
  | none =>
      rw [around] at made
      obtain ⟨-, rfl⟩ := Prod.mk.inj made
      exact .refl _ _ tree
  | some parent =>
      have attempt := Attempts.makeFoldersUpTo (parent.length + 1) tree parent
      rw [around] at made
      change (FileStore.makeFoldersUpTo _ parent : StateM FileTree _).run tree = _ at made
      rw [made] at attempt
      exact attempt.grows.around around

/-- The folder around a path is there. -/
def IsOpen (tree : FileTree) (path : String) : Prop :=
  ∀ parent, Path.parent? path = some parent → parent = "" ∨ tree.isFolder parent = true

theorem isOpen_of_madeAround (made : tree.madeAround path = (.ok (), middle)) :
    middle.IsOpen path := by
  intro parent around
  have attempt := Attempts.makeFoldersUpTo (parent.length + 1) tree parent
  rw [madeAround, around] at made
  change (FileStore.makeFoldersUpTo _ parent : StateM FileTree _).run tree = _ at made
  rw [made] at attempt
  exact attempt.there rfl

theorem madeAround_of_isOpen (opened : tree.IsOpen path) :
    tree.madeAround path = (.ok (), tree) := by
  rw [madeAround]
  cases around : Path.parent? path with
  | none => rfl
  | some parent => exact run_makeFolders_of_there (opened parent around)

theorem run_writeText (tree : FileTree) (path content : String) :
    (FileStore.writeText path content : StateM FileTree _).run tree =
      match tree.write path (.text content) with
      | .ok written => (.ok (), written)
      | .error cause => (.error cause, tree) := rfl

/-- The folders around a file are made, and then the file is written. -/
theorem outcome_writeText (file : PlannedFile) (middle : FileTree) :
    Stateful.outcome (do
      match ← FileStore.writeText (m := StateM FileTree) file.path file.content with
      | .error cause => throw (.fileFailed file.path cause)
      | .ok () => pure () : ExceptT WriteError (StateM FileTree) Unit) middle =
    match middle.write file.path (.text file.content) with
      | .error cause => (.error (.fileFailed file.path cause), middle)
      | .ok after => (.ok (), after) := by
  rw [Stateful.outcome_bind, Stateful.outcome_liftM, run_writeText]
  cases middle.write file.path (.text file.content) <;> rfl

theorem outcome_force (file : PlannedFile) (tree : FileTree) :
    Stateful.outcome file.force tree =
      match tree.madeAround file.path with
      | (.error cause, middle) =>
        (.error (.folderFailed ((Path.parent? file.path).getD "") cause), middle)
      | (.ok _, middle) =>
        match middle.write file.path (.text file.content) with
        | .error cause => (.error (.fileFailed file.path cause), middle)
        | .ok after => (.ok (), after) := by
  rw [PlannedFile.force, madeAround]
  cases Path.parent? file.path with
  | none => exact outcome_writeText file tree
  | some parent =>
      change Stateful.outcome (liftM (FileStore.makeFolders parent) >>= _) tree = _
      rw [Stateful.outcome_bind, Stateful.outcome_liftM]
      dsimp only
      generalize (FileStore.makeFolders parent : StateM FileTree _).run tree = made
      obtain ⟨result, middle⟩ := made
      cases result with
      | error cause => rfl
      | ok _ => exact outcome_writeText file middle

theorem outcome_force_eq_ok_iff (file : PlannedFile) (tree after : FileTree) :
    Stateful.outcome file.force tree = (.ok (), after) ↔
      ∃ middle, tree.madeAround file.path = (.ok (), middle) ∧
        middle.write file.path (.text file.content) = .ok after := by
  rw [outcome_force]
  generalize tree.madeAround file.path = made
  obtain ⟨result, middle⟩ := made
  cases result with
  | error cause => simp
  | ok _ => cases written : middle.write file.path (.text file.content) <;> simp [written]

/-- Even where a file cannot be written, only folders on its way are made. -/
theorem grows_of_force_error {file : PlannedFile} {error : WriteError}
    (failed : Stateful.outcome file.force tree = (.error error, after)) :
    Grows (tree.start file.path) (Path.steps file.path).dropLast tree after := by
  rw [outcome_force] at failed
  cases made : tree.madeAround file.path with
  | mk result middle =>
      rw [made] at failed
      have grows := grows_of_madeAround made
      cases result with
      | error cause =>
          obtain ⟨-, rfl⟩ := Prod.mk.inj failed
          exact grows
      | ok _ =>
          cases written : middle.write file.path (.text file.content) with
          | ok _ => simp [written] at failed
          | error cause =>
              simp only [written] at failed
              obtain ⟨-, rfl⟩ := Prod.mk.inj failed
              exact grows

/-! ## What is at each place afterwards -/

/-- The places that a path passes before its last segment. -/
def wayTo (tree : FileTree) (path : String) : List Location :=
  (Path.steps path).dropLast.inits.map fun front => front.foldl enter (tree.start path)

/-- What is at each place when a file was written there, given by its path and text.  Folders are
made on the way where nothing was. -/
def putText (tree : FileTree) (view : Location → Option FileEntry) (file : String × String) :
    Location → Option FileEntry := fun place =>
  if place = tree.placeOf file.1 then some (.text file.2)
  else if place ∈ tree.wayTo file.1 ∧ view place = none then some .folder
  else view place

theorem mem_wayTo_iff (tree : FileTree) (path : String) (place : Location) :
    place ∈ tree.wayTo path ↔
      ∃ front, front <+: (Path.steps path).dropLast ∧
        front.foldl enter (tree.start path) = place := by
  simp only [wayTo, List.mem_map, List.mem_inits]

theorem Keeps.putText (keeps : Keeps tree after) : after.putText = tree.putText := by
  have way_eq (path : String) : after.wayTo path = tree.wayTo path := by
    rw [wayTo, wayTo, keeps.start]
  funext view file place
  rw [FileTree.putText, FileTree.putText, keeps.placeOf, way_eq]

/-- A text is at the path, and the folders around it are there. -/
structure HoldsText (tree : FileTree) (path : String) : Prop where
  opened : tree.IsOpen path
  located : ∃ folder name, tree.locateLast path = .ok (folder, name) ∧ isMarker name = false ∧
    path.endsWith "/" = false ∧ name.utf8ByteSize ≤ 255 ∧
    ∃ content, tree.get? (folder ++ [name]) = some (.text content)

theorem Keeps.isOpen (keeps : Keeps tree after) (opened : tree.IsOpen path) :
    after.IsOpen path := by
  intro parent around
  rcases opened parent around with empty | there
  · exact .inl empty
  · exact .inr (keeps.isFolder there)

theorem Keeps.holdsText (keeps : Keeps tree after) (holds : tree.HoldsText path) :
    after.HoldsText path where
  opened := keeps.isOpen holds.opened
  located := by
    obtain ⟨folder, name, located, named, open_end, short, content, there⟩ := holds.located
    obtain ⟨newer, there_after⟩ := keeps.text _ content there
    exact ⟨folder, name, keeps.locateLast (ne_empty_of_name named) located, named, open_end, short,
      newer, there_after⟩

theorem keeps_set_text (nonroot : place ≠ []) (free : tree.get? place ≠ some .folder)
    (content : String) : Keeps tree (tree.set place (.text content)) where
  home := rfl
  folder other there := by
    have apart : other ≠ place := by
      rintro rfl
      exact free there
    rw [get?_set_of_ne apart, there]
  text other older there := by
    by_cases same : other = place
    · exact ⟨content, by rw [same, get?_set_self nonroot]⟩
    · exact ⟨older, by rw [get?_set_of_ne same, there]⟩

/-- A text was put at a path: this is all that has changed, and it can be replaced again. -/
structure PutsText (tree : FileTree) (file : String × String) (after : FileTree) : Prop where
  keeps : Keeps tree after
  places : after.get? = tree.putText tree.get? file
  holds : after.HoldsText file.1

theorem putsText_of_write (grows : Grows (tree.start path) (Path.steps path).dropLast tree middle)
    (opened : middle.IsOpen path) (written : middle.write path (.text content) = .ok after) :
    PutsText tree (path, content) after := by
  obtain ⟨folder, name, located, named, open_end, short, free, rfl⟩ :=
    (write_eq_ok_iff _ _ _ _).mp written
  have nonroot : folder ++ [name] ≠ [] := by simp
  have kept := keeps_set_text nonroot free content
  have target_eq : tree.placeOf path = folder ++ [name] := by
    rw [← grows.keeps.placeOf, placeOf_of_locateLast located named]
  refine ⟨grows.keeps.trans kept, ?_, kept.isOpen opened, ?_⟩
  · funext place
    rw [putText, target_eq]
    by_cases same : place = folder ++ [name]
    · rw [if_pos same, same, get?_set_self nonroot]
    · rw [if_neg same, get?_set_of_ne same]
      by_cases passed : place ∈ tree.wayTo path
      · -- A folder must have been on the way, or the text could not have been written.
        have there : middle.get? place = some .folder := by
          obtain ⟨front, front_passed, rfl⟩ := (mem_wayTo_iff _ _ _).mp passed
          rw [← grows.keeps.start]
          exact folder_of_locateLast located named front_passed
        rcases grows.grown place with stays | ⟨absent, -⟩
        · rw [there] at stays
          rw [there, ← stays]
          simp
        · rw [there, if_pos ⟨passed, absent⟩]
      · rw [if_neg (by simp [passed])]
        rcases grows.grown place with stays | ⟨-, -, front_passed⟩
        · exact stays
        · exact absurd ((mem_wayTo_iff _ _ _).mpr front_passed) passed
  · have located_after := kept.locateLast (ne_empty_of_name named) located
    exact ⟨folder, name, located_after, named, open_end, short, content,
      get?_set_self nonroot middle (.text content)⟩

theorem putsText_of_force {file : PlannedFile}
    (forced : Stateful.outcome file.force tree = (.ok (), after)) :
    PutsText tree (file.path, file.content) after := by
  obtain ⟨middle, made, written⟩ := (outcome_force_eq_ok_iff file tree after).mp forced
  exact putsText_of_write (grows_of_madeAround made) (isOpen_of_madeAround made) written

/-- Where a text is already it is replaced, and that is all. -/
theorem HoldsText.outcome_force {file : PlannedFile} (holds : tree.HoldsText file.path) :
    Stateful.outcome file.force tree =
      (.ok (), tree.set (tree.placeOf file.path) (.text file.content)) := by
  obtain ⟨folder, name, located, named, open_end, short, older, there⟩ := holds.located
  have written : tree.write file.path (.text file.content) =
      .ok (tree.set (folder ++ [name]) (.text file.content)) :=
    (write_eq_ok_iff _ _ _ _).mpr
      ⟨folder, name, located, named, open_end, short, by simp [there], rfl⟩
  rw [placeOf_of_locateLast located named]
  exact (outcome_force_eq_ok_iff _ _ _).mpr ⟨tree, madeAround_of_isOpen holds.opened, written⟩

theorem HoldsText.there (holds : tree.HoldsText path) :
    ∃ content, tree.get? (tree.placeOf path) = some (.text content) := by
  obtain ⟨folder, name, located, named, -, -, there⟩ := holds.located
  rw [placeOf_of_locateLast located named]
  exact there

theorem HoldsText.place_ne_root (holds : tree.HoldsText path) : tree.placeOf path ≠ [] := by
  intro root
  obtain ⟨content, there⟩ := holds.there
  simp [root, get?] at there

theorem HoldsText.keeps_set (holds : tree.HoldsText path) (content : String) :
    Keeps tree (tree.set (tree.placeOf path) (.text content)) := by
  obtain ⟨older, there⟩ := holds.there
  exact keeps_set_text holds.place_ne_root (by simp [there]) content

/-! ## Several files -/

/-- The places of files with their texts. -/
def textsAt (tree : FileTree) (files : List (String × String)) : List (Location × FileEntry) :=
  files.map fun file => (tree.placeOf file.1, .text file.2)

theorem textsAt_cons (tree : FileTree) (file : String × String) (rest : List (String × String)) :
    tree.textsAt (file :: rest) = (tree.placeOf file.1, .text file.2) :: tree.textsAt rest := rfl

theorem foldl_putText_of_notMem {files : List (String × String)} {entry : FileEntry}
    (untouched : ∀ file ∈ files, tree.placeOf file.1 ≠ place) {view : Location → Option FileEntry}
    (there : view place = some entry) : files.foldl tree.putText view place = some entry := by
  induction files generalizing view with
  | nil => exact there
  | cons file rest ih =>
      rw [List.forall_mem_cons] at untouched
      rw [List.foldl_cons]
      apply ih untouched.2
      rw [putText, if_neg (Ne.symm untouched.1), there, if_neg (by simp)]

/-- Texts are at the places of the files, and where they were. -/
theorem exists_text_foldl_putText_iff (files : List (String × String))
    (view : Location → Option FileEntry) :
    (∃ content, files.foldl tree.putText view place = some (.text content)) ↔
      place ∈ files.map (fun file => tree.placeOf file.1) ∨
        ∃ content, view place = some (.text content) := by
  induction files generalizing view with
  | nil => simp
  | cons file rest ih =>
      have put_iff : (∃ content, tree.putText view file place = some (.text content)) ↔
          place = tree.placeOf file.1 ∨ ∃ content, view place = some (.text content) := by
        rw [putText]
        split_ifs with same way
        · simp [same]
        · simp [same, way.2]
        · simp [same]
      rw [List.foldl_cons, ih, put_iff, List.map_cons, List.mem_cons]
      tauto

/-- Of several files that go to one place the last one stays there. -/
theorem foldl_putText_of_lookup {files : List (String × String)} {entry : FileEntry}
    (last : (tree.textsAt files).reverse.lookup place = some entry)
    (view : Location → Option FileEntry) : files.foldl tree.putText view place = some entry := by
  induction files generalizing view with
  | nil => simp [textsAt] at last
  | cons file rest ih =>
      rw [textsAt_cons, lookup_reverse_cons] at last
      rw [List.foldl_cons]
      cases later : (tree.textsAt rest).reverse.lookup place with
      | some other =>
          rw [later, Option.some_or] at last
          exact ih (later.trans last) _
      | none =>
          have untouched : ∀ other ∈ rest, tree.placeOf other.1 ≠ place := by
            intro other member same
            rw [List.lookup_eq_none_iff] at later
            have apart := later _ (List.mem_reverse.mpr (List.mem_map_of_mem member))
            simp [same] at apart
          rw [later, Option.none_or] at last
          split_ifs at last with same
          apply foldl_putText_of_notMem untouched
          rw [putText, if_pos same]
          exact last

/-- To write again all files that were written changes nothing. -/
theorem setAll_textsAt_eq_self {files : List (String × String)} (keeps : Keeps tree after)
    (places : after.get? = files.foldl tree.putText tree.get?)
    (holds : ∀ file ∈ files, after.HoldsText file.1) :
    after.setAll (after.textsAt files) = after := by
  apply setAll_eq_self
  · intro write member
    obtain ⟨file, file_mem, rfl⟩ := List.mem_map.mp member
    exact (holds file file_mem).place_ne_root
  · intro place entry last
    have textsAt_eq : after.textsAt files = tree.textsAt files := by
      simp only [textsAt, keeps.placeOf]
    rw [textsAt_eq] at last
    rw [places]
    exact foldl_putText_of_lookup last tree.get?

end FileTree
end DataLayer

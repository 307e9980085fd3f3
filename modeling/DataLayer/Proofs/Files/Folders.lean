import DataLayer.Proofs.Files.Places

/-!
# Making folders

Making the folders that a path goes through adds folders where nothing was, only at places that the
path passes, whether it succeeds or not.
-/

namespace DataLayer
namespace FileTree

variable {tree after later : FileTree} {place start : Location} {path : String}
  {steps more : List String}

/-- Folders were added where nothing was, at places that the steps pass. -/
structure Grows (start : Location) (steps : List String) (tree after : FileTree) : Prop where
  home : after.home = tree.home
  /-- Each place is as it was, or it is new and passed by the steps. -/
  grown : ∀ place, after.get? place = tree.get? place ∨
    tree.get? place = none ∧ after.get? place = some .folder ∧
      ∃ front, front <+: steps ∧ front.foldl enter start = place

namespace Grows

theorem refl (start : Location) (steps : List String) (tree : FileTree) :
    Grows start steps tree tree where
  home := rfl
  grown _ := .inl rfl

theorem trans (first : Grows start steps tree after) (second : Grows start steps after later) :
    Grows start steps tree later where
  home := second.home.trans first.home
  grown place := by
    rcases second.grown place with kept | ⟨absent, added, passed⟩
    · rw [kept]
      exact first.grown place
    · rcases first.grown place with kept | ⟨_, there, _⟩
      · rw [kept] at absent
        exact .inr ⟨absent, added, passed⟩
      · rw [there] at absent
        contradiction

theorem mono (passed : steps <+: more) (grows : Grows start steps tree after) :
    Grows start more tree after where
  home := grows.home
  grown place := by
    rcases grows.grown place with kept | ⟨absent, added, front, front_passed, place_eq⟩
    · exact .inl kept
    · exact .inr ⟨absent, added, front, front_passed.trans passed, place_eq⟩

theorem get?_of_some (grows : Grows start steps tree after) {entry : FileEntry}
    (there : tree.get? place = some entry) : after.get? place = some entry := by
  rcases grows.grown place with kept | ⟨absent, -⟩
  · rw [kept, there]
  · rw [there] at absent
    contradiction

theorem keeps (grows : Grows start steps tree after) : Keeps tree after where
  home := grows.home
  folder _ there := grows.get?_of_some there
  text _ content there := ⟨content, grows.get?_of_some there⟩

theorem around {parent : String} (found : Path.parent? path = some parent)
    (grows : Grows (tree.start parent) (Path.steps parent) tree after) :
    Grows (tree.start path) (Path.steps path).dropLast tree after := by
  rw [Path.steps_parent? found, start, Path.startsWith_slash_parent? found] at grows
  exact grows

end Grows

theorem run_makeFolder (tree : FileTree) (path : String) :
    (FileStore.makeFolder path : StateM FileTree _).run tree =
      match tree.makeFolder path with
      | .ok changed => (.ok (), changed)
      | .error cause => (.error cause, tree) := rfl

theorem makeFolder_eq_ok_iff (tree after : FileTree) (path : String) :
    tree.makeFolder path = .ok after ↔
      ∃ folder name, tree.locateLast path = .ok (folder, name) ∧ isMarker name = false ∧
        name.utf8ByteSize ≤ 255 ∧ tree.get? (folder ++ [name]) = none ∧
        tree.set (folder ++ [name]) .folder = after := by
  rw [makeFolder, Traversal.bind_eq_ok_iff]
  constructor
  · rintro ⟨⟨folder, name⟩, located, made⟩
    refine ⟨folder, name, located, ?_⟩
    cases there : tree.get? (folder ++ [name]) with
    | some entry =>
        simp only [there] at made
        split_ifs at made
    | none =>
        simp only [there] at made
        split_ifs at made with marker long
        exact ⟨by simpa using marker, Nat.le_of_not_lt long, rfl, by simpa using made⟩
  · rintro ⟨folder, name, located, named, short, absent, after_eq⟩
    refine ⟨(folder, name), located, ?_⟩
    simp [named, Nat.not_lt.mpr short, absent, after_eq]

/-- A folder is made at the place of its path, where nothing was. -/
theorem Grows.of_makeFolder (made : tree.makeFolder path = .ok after) :
    Grows (tree.start path) (Path.steps path) tree after := by
  obtain ⟨folder, name, located, named, -, absent, rfl⟩ := (makeFolder_eq_ok_iff _ _ _).mp made
  refine ⟨rfl, fun place => ?_⟩
  by_cases same : place = folder ++ [name]
  · subst same
    refine .inr ⟨absent, get?_set_self (by simp) tree .folder, Path.steps path, List.prefix_rfl, ?_⟩
    exact placeOf_of_locateLast located named
  · exact .inl (get?_set_of_ne same tree .folder)

theorem isFolder_of_makeFolder (made : tree.makeFolder path = .ok after) :
    after.isFolder path = true := by
  have keeps := (Grows.of_makeFolder made).keeps
  obtain ⟨folder, name, located, named, short, -, rfl⟩ := (makeFolder_eq_ok_iff _ _ _).mp made
  have located_after := keeps.locateLast (ne_empty_of_name named) located
  obtain ⟨faultless, there, front, blanks, segments_eq, blank, walked⟩ :=
    (locateLast_eq_ok_iff _ path folder (ne_empty_of_name named)).mp located_after
  have made_there : (tree.set (folder ++ [name]) .folder).get? (folder ++ [name]) =
      some .folder := get?_set_self (by simp) tree .folder
  have stepped := (step_eq_ok_iff _ _ _ _).mpr ⟨there, short, (enter_name named folder).symm⟩
  have walked_on := (walk_append_iff _ _ _ front (name :: blanks)).mpr ⟨folder, walked,
    (walk_cons_iff _ _ _ _ _).mpr ⟨folder ++ [name], stepped, walk_blanks made_there blank⟩⟩
  rw [← segments_eq] at walked_on
  have located_there := (locate_eq_ok_iff _ path _).mpr ⟨faultless, walked_on⟩
  exact (isFolder_iff _ path).mpr ⟨folder ++ [name], located_there, made_there⟩

theorem makeFolder_of_isFolder (there : tree.isFolder path = true) :
    tree.makeFolder path = .error .alreadyExists := by
  obtain ⟨place, located, place_there⟩ := (isFolder_iff tree path).mp there
  obtain ⟨faultless, walked⟩ := (locate_eq_ok_iff _ _ _).mp located
  rcases blank_or_split (Path.segments path) with blank | split
  · have place_eq := place_of_walk walked
    rw [active_blanks blank, List.foldl_nil] at place_eq
    rw [place_eq] at place_there
    rw [makeFolder, locateLast_of_blank faultless blank place_there]
    rfl
  · obtain ⟨front, name, blanks, nonempty, segments_eq, blank⟩ := split
    rw [segments_eq] at walked
    obtain ⟨folder, front_walked, walked⟩ := (walk_append_iff _ _ _ _ _).mp walked
    obtain ⟨next, stepped, -⟩ := (walk_cons_iff _ _ _ _ _).mp walked
    obtain ⟨folder_there, short, -⟩ := (step_eq_ok_iff _ _ _ _).mp stepped
    have last_located := (locateLast_eq_ok_iff tree path folder nonempty).mpr
      ⟨faultless, folder_there, front, blanks, segments_eq, blank, front_walked⟩
    rw [makeFolder, last_located]
    cases named : isMarker name with
    | true => simp [bind, Except.bind, named]
    | false =>
        have found : tree.get? (folder ++ [name]) = some .folder := by
          rw [← placeOf_of_locateLast last_located named, placeOf_of_locate located, place_there]
        simp [bind, Except.bind, named, Nat.not_lt.mpr short, found]

/-- An attempt to make a folder only adds folders that its path passes.  If it succeeds there is a
folder. -/
structure Attempts (tree : FileTree) (path : String)
    (outcome : Except FileError Unit × FileTree) : Prop where
  grows : Grows (tree.start path) (Path.steps path) tree outcome.2
  there : outcome.1 = .ok () → path = "" ∨ outcome.2.isFolder path = true

namespace Attempts

/-- Nothing is done, and the answer tells whether there is a folder. -/
theorem keep (tree : FileTree) (path : String) (cause : FileError) :
    Attempts tree path (if tree.isFolder path then .ok () else .error cause, tree) where
  grows := .refl _ _ tree
  there succeeded := by
    by_cases there : tree.isFolder path = true
    · exact .inr there
    · simp [there] at succeeded

theorem fail (grows : Grows (tree.start path) (Path.steps path) tree after) (cause : FileError) :
    Attempts tree path (.error cause, after) where
  grows := grows
  there succeeded := by contradiction

theorem make (made : tree.makeFolder path = .ok after) : Attempts tree path (.ok (), after) where
  grows := .of_makeFolder made
  there _ := .inr (isFolder_of_makeFolder made)

/-- What was done before can be counted in. -/
theorem behind {outcome : Except FileError Unit × FileTree}
    (grows : Grows (tree.start path) (Path.steps path) tree after)
    (attempt : Attempts after path outcome) : Attempts tree path outcome where
  grows := by
    have later := attempt.grows
    rw [grows.keeps.start] at later
    exact grows.trans later
  there := attempt.there

theorem makeOrKeep (tree : FileTree) (path : String) :
    Attempts tree path ((FileStore.makeOrKeep path : StateM FileTree _).run tree) := by
  rw [FileStore.makeOrKeep, StateT.run_bind, run_makeFolder]
  cases made : tree.makeFolder path with
  | ok after => exact make made
  | error cause => exact keep tree path cause

/-- Whatever fails on the way, only folders that the path passes are added. -/
theorem makeFoldersUpTo (depth : Nat) (tree : FileTree) (path : String) :
    Attempts tree path ((FileStore.makeFoldersUpTo depth path : StateM FileTree _).run tree) := by
  -- Each depth deals with the path around a path, all of whose steps are on the way of the path.
  induction depth generalizing tree path with
  | zero => exact makeOrKeep tree path
  | succ depth ih =>
      rw [FileStore.makeFoldersUpTo]
      by_cases empty : path = ""
      · rw [if_pos empty]
        exact ⟨.refl _ _ tree, fun _ => .inl empty⟩
      · rw [if_neg empty, StateT.run_bind, run_makeFolder]
        cases made : tree.makeFolder path with
        | ok after => exact make made
        | error cause =>
            by_cases missing : cause = .notFound
            · subst missing
              cases around : Path.parent? path with
              | none => exact fail (.refl _ _ tree) (.other "failed to create whole tree")
              | some parent =>
                  have around_made := ih tree parent
                  change Attempts tree path
                    ((FileStore.makeFoldersUpTo depth parent >>= _ : StateM FileTree _).run tree)
                  rw [StateT.run_bind]
                  generalize (FileStore.makeFoldersUpTo depth parent : StateM FileTree _).run tree =
                    outcome at around_made ⊢
                  obtain ⟨result, middle⟩ := outcome
                  have grows := (around_made.grows.around around).mono (List.dropLast_prefix _)
                  cases result with
                  | error cause => exact fail grows cause
                  | ok _ => exact behind grows (makeOrKeep middle path)
            · have kept := keep tree path cause
              cases cause with
              | notFound => contradiction
              | _ => exact kept

end Attempts

section There

variable (there : tree.isFolder path = true)

include there

theorem run_makeOrKeep_of_isFolder :
    (FileStore.makeOrKeep path : StateM FileTree _).run tree = (.ok (), tree) := by
  rw [FileStore.makeOrKeep, StateT.run_bind, run_makeFolder, makeFolder_of_isFolder there]
  change ((if tree.isFolder path then _ else _), tree) = _
  rw [if_pos there]

theorem run_makeFoldersUpTo_of_isFolder (depth : Nat) :
    (FileStore.makeFoldersUpTo depth path : StateM FileTree _).run tree = (.ok (), tree) := by
  cases depth with
  | zero => exact run_makeOrKeep_of_isFolder there
  | succ depth =>
      rw [FileStore.makeFoldersUpTo]
      by_cases empty : path = ""
      · rw [if_pos empty]
        rfl
      · rw [if_neg empty, StateT.run_bind, run_makeFolder, makeFolder_of_isFolder there]
        change ((if tree.isFolder path then _ else _), tree) = _
        rw [if_pos there]

end There

theorem run_makeFoldersUpTo_of_made (made : tree.makeFolder path = .ok after)
    (nonempty : path ≠ "") (depth : Nat) :
    (FileStore.makeFoldersUpTo (depth + 1) path : StateM FileTree _).run tree =
      (.ok (), after) := by
  rw [FileStore.makeFoldersUpTo, if_neg nonempty, StateT.run_bind, run_makeFolder, made]
  rfl

/-- Where the folder around is missing it is made first. -/
theorem run_makeFoldersUpTo_of_notFound {parent : String} {middle : FileTree} {depth : Nat}
    (refused : tree.makeFolder path = .error .notFound) (nonempty : path ≠ "")
    (parent_eq : Path.parent? path = some parent)
    (made : (FileStore.makeFoldersUpTo depth parent : StateM FileTree _).run tree =
      (.ok (), middle)) :
    (FileStore.makeFoldersUpTo (depth + 1) path : StateM FileTree _).run tree =
      (FileStore.makeOrKeep path : StateM FileTree _).run middle := by
  rw [FileStore.makeFoldersUpTo, if_neg nonempty, StateT.run_bind, run_makeFolder, refused]
  simp only [parent_eq]
  change (FileStore.makeFoldersUpTo depth parent >>= _ : StateM FileTree _).run tree = _
  rw [StateT.run_bind, made]
  rfl

theorem run_makeFolders_of_there (there : path = "" ∨ tree.isFolder path = true) :
    (FileStore.makeFolders path : StateM FileTree _).run tree = (.ok (), tree) := by
  rcases there with rfl | there
  · rfl
  · exact run_makeFoldersUpTo_of_isFolder there (path.length + 1)

end FileTree
end DataLayer

import DataLayer.Proofs.Files.Writing

/-!
# Files that are there

Everything in a file system stands in a folder.  So a path to something that is there can be
followed, as long as it goes back out of folders only, and a new file goes where nothing was.
-/

namespace DataLayer
namespace FileTree

variable {tree after later : FileTree} {place : Location} {path name content : String}
  {entry : FileEntry} {steps segments : List String}

/-- Everything stands in a folder, and the current folder is there. -/
structure IsSound (tree : FileTree) : Prop where
  home : tree.get? tree.home = some .folder
  around : ∀ place name, tree.get? (place ++ [name]) ≠ none → tree.get? place = some .folder

/-- It is enough to look at the entries. -/
theorem IsSound.of_entries (home : tree.get? tree.home = some .folder)
    (around : ∀ entry ∈ tree.entries, tree.get? entry.1.dropLast = some .folder) :
    tree.IsSound where
  home := home
  around place name there := by
    rw [get?, if_neg (by simp)] at there
    obtain ⟨entry, found⟩ := Option.ne_none_iff_exists'.mp there
    obtain ⟨before, behind, entries_eq, -⟩ := List.lookup_eq_some_iff.mp found
    have folder := around (place ++ [name], entry) (by simp [entries_eq])
    rwa [List.dropLast_concat] at folder

namespace IsSound

variable (sound : tree.IsSound)

include sound

theorem folder_of_prefix (there : tree.get? place = some .folder) {front : Location}
    (passed : front <+: place) : tree.get? front = some .folder := by
  induction place using List.reverseRecOn with
  | nil => rwa [List.prefix_nil.mp passed]
  | append_singleton before name ih =>
      rcases List.prefix_concat_iff.mp passed with rfl | passed
      · exact there
      · exact ih (sound.around before name (by simp [there])) passed

theorem start_eq_folder (path : String) : tree.get? (tree.start path) = some .folder := by
  rw [start]
  split_ifs
  · rfl
  · exact sound.home

end IsSound

/-- Wherever the steps go back, they go back out of a folder that is there. -/
def Returns (tree : FileTree) (start : Location) (steps : List String) : Prop :=
  ∀ front, front ++ [".."] <+: steps → tree.get? (front.foldl enter start) = some .folder

theorem Returns.of_prefix {start : Location} {front : List String}
    (returns : tree.Returns start steps) (passed : front <+: steps) : tree.Returns start front :=
  fun before back => returns before (back.trans passed)

section Ends

variable (sound : tree.IsSound) {start : Location} {last : String}
  (returns : tree.Returns start (steps ++ [last]))
  (there : tree.get? ((steps ++ [last]).foldl enter start) ≠ none)

include sound returns there

theorem IsSound.folder_before_last : tree.get? (steps.foldl enter start) = some .folder := by
  by_cases back : last = ".."
  · exact returns steps (back ▸ List.prefix_rfl)
  · rw [List.foldl_append, List.foldl_cons, List.foldl_nil, enter, if_neg back] at there
    exact sound.around _ last there

/-- Steps that end where something is lead through folders. -/
theorem IsSound.folder_of_returns {front : List String} (passed : front <+: steps) :
    tree.get? (front.foldl enter start) = some .folder := by
  -- From the last step backwards: what is in front of a step that leads somewhere is a folder.
  have folder := sound.folder_before_last returns there
  induction steps using List.reverseRecOn generalizing last with
  | nil => rwa [List.prefix_nil.mp passed]
  | append_singleton before step ih =>
      rcases List.prefix_concat_iff.mp passed with rfl | passed
      · exact folder
      · have before_returns := returns.of_prefix (List.prefix_append _ _)
        have before_there : tree.get? ((before ++ [step]).foldl enter start) ≠ none := by
          rw [folder]
          exact Option.some_ne_none _
        exact ih before_returns before_there passed
          (sound.folder_before_last before_returns before_there)

end Ends

/-- A place on the way of steps where nothing is, is not left any more. -/
theorem Returns.prefix_of_absent {start : Location} {front back : List String}
    (returns : tree.Returns start (front ++ back))
    (absent : tree.get? (front.foldl enter start) = none) :
    front.foldl enter start <+: (front ++ back).foldl enter start := by
  induction back using List.reverseRecOn with
  | nil => simp
  | append_singleton before step ih =>
      rw [← List.append_assoc] at returns ⊢
      have passed := ih (returns.of_prefix (List.prefix_append _ _))
      rw [List.foldl_append, List.foldl_cons, List.foldl_nil, enter]
      split_ifs with back_step
      · subst back_step
        have folder := returns (front ++ before) List.prefix_rfl
        obtain ⟨names, place_eq⟩ := passed
        have below : names ≠ [] := by
          rintro rfl
          rw [List.append_nil] at place_eq
          rw [← place_eq, absent] at folder
          contradiction
        rw [← place_eq, List.dropLast_append_of_ne_nil below]
        exact List.prefix_append _ _
      · exact passed.trans (List.prefix_append _ _)

/-! ## Paths that end in a name -/

theorem isPresent_iff (tree : FileTree) (path : String) :
    tree.isPresent path = true ↔
      ∃ place, tree.locate path = .ok place ∧ tree.get? place ≠ none := by
  have there_iff (place : Location) :
      tree.get? place ≠ none ↔ ∃ entry, tree.get? place = some entry := Option.ne_none_iff_exists'
  simp only [there_iff, ← exists_and_left, ← follow_eq_ok_iff]
  rw [isPresent]
  cases tree.follow path with
  | error cause => simp
  | ok found => exact iff_of_true rfl ⟨found.1, found.2, rfl⟩

/-- Folders stand on the whole way to the last segment of a path, and no part of it is too long. -/
structure Reaches (tree : FileTree) (path : String) : Prop where
  faultless : pathFault? path = none
  short : ∀ segment ∈ Path.segments path, segment.utf8ByteSize ≤ 255
  folders : ∀ front, front <+: (Path.steps path).dropLast →
    tree.get? (front.foldl enter (tree.start path)) = some .folder

theorem walk_of_folders
    (folders : ∀ front, front <+: Path.active segments →
      tree.get? (front.foldl enter place) = some .folder)
    (short : ∀ segment ∈ segments, segment.utf8ByteSize ≤ 255) :
    segments.foldlM tree.step place = .ok ((Path.active segments).foldl enter place) := by
  induction segments generalizing place with
  | nil => rfl
  | cons segment rest ih =>
      rw [List.forall_mem_cons] at short
      have stepped := (step_eq_ok_iff tree place _ segment).mpr
        ⟨folders [] List.nil_prefix, short.1, rfl⟩
      have active_eq : Path.active (segment :: rest) =
          Path.active [segment] ++ Path.active rest := by
        rw [← Path.active_append, List.singleton_append]
      rw [active_eq] at folders ⊢
      rw [List.foldl_append]
      refine (walk_cons_iff _ _ _ _ _).mpr ⟨_, stepped, ih (fun front passed => ?_) short.2⟩
      rw [← List.foldl_append]
      exact folders _ ((List.prefix_append_right_inj _).mpr passed)

theorem short_of_walk {last : Location} (walked : segments.foldlM tree.step place = .ok last) :
    ∀ segment ∈ segments, segment.utf8ByteSize ≤ 255 := by
  induction segments generalizing place with
  | nil => simp
  | cons segment rest ih =>
      obtain ⟨next, stepped, walked⟩ := (walk_cons_iff _ _ _ _ _).mp walked
      obtain ⟨-, short, -⟩ := (step_eq_ok_iff _ _ _ _).mp stepped
      exact List.forall_mem_cons.mpr ⟨short, ih walked⟩

theorem isMarker_of_isName (named : Path.IsName name) : isMarker name = false := by
  simp [isMarker, named.nonempty, named.notSelf, named.notParent]

theorem foldl_enter_of_isName (named : ∀ segment ∈ segments, Path.IsName segment)
    (place : Location) : segments.foldl enter place = place ++ segments := by
  induction segments generalizing place with
  | nil => simp
  | cons segment rest ih =>
      rw [List.forall_mem_cons] at named
      rw [List.foldl_cons, ih named.2, enter, if_neg named.1.notParent, List.append_assoc,
        List.singleton_append]

section Named

variable {front : List String} (segments_eq : Path.segments path = front ++ [name])
  (named : Path.IsName name)

include segments_eq named

theorem steps_of_segments : Path.steps path = Path.active front ++ [name] := by
  rw [Path.steps, segments_eq, Path.active_append, Path.active_cons_of_busy named.busy]
  rfl

theorem placeOf_of_segments :
    tree.placeOf path = (Path.active front).foldl enter (tree.start path) ++ [name] := by
  rw [placeOf, steps_of_segments segments_eq named, List.foldl_append, List.foldl_cons,
    List.foldl_nil, enter, if_neg named.notParent]

theorem reaches_iff_walk :
    tree.Reaches path ↔ pathFault? path = none ∧ name.utf8ByteSize ≤ 255 ∧
      ∃ folder, front.foldlM tree.step (tree.start path) = .ok folder ∧
        tree.get? folder = some .folder := by
  have steps_eq := steps_of_segments segments_eq named
  constructor
  · rintro ⟨faultless, short, folders⟩
    rw [steps_eq, List.dropLast_concat] at folders
    rw [segments_eq, List.forall_mem_append, List.forall_mem_singleton] at short
    exact ⟨faultless, short.2, _, walk_of_folders folders short.1, folders _ List.prefix_rfl⟩
  · rintro ⟨faultless, short, folder, walked, there⟩
    refine ⟨faultless, ?_, fun passed_front passed => ?_⟩
    · rw [segments_eq, List.forall_mem_append, List.forall_mem_singleton]
      exact ⟨short_of_walk walked, short⟩
    · rw [steps_eq, List.dropLast_concat] at passed
      exact folder_of_walk walked there passed

theorem reaches_iff_locateLast :
    tree.Reaches path ↔ name.utf8ByteSize ≤ 255 ∧
      ∃ folder, tree.locateLast path = .ok (folder, name) := by
  simp only [reaches_iff_walk segments_eq named,
    locateLast_eq_ok_iff tree path _ named.nonempty]
  constructor
  · rintro ⟨faultless, short, folder, walked, there⟩
    exact ⟨short, folder, faultless, there, front, [], segments_eq, by simp, walked⟩
  · rintro ⟨short, folder, faultless, there, before, blanks, other_eq, blank, walked⟩
    have same : front ++ [name] = before ++ name :: blanks := segments_eq.symm.trans other_eq
    obtain rfl | ⟨others, last, rfl⟩ := List.eq_nil_or_concat blanks
    · obtain rfl := List.append_cancel_right same
      exact ⟨faultless, short, folder, walked, there⟩
    · -- A name is not empty, so nothing empty stands behind it.
      rw [List.concat_eq_append, ← List.cons_append, ← List.append_assoc] at same
      have last_eq : name = last := (List.append_singleton_inj.mp same).2
      exact absurd (last_eq.trans (blank last (by simp))) named.nonempty

theorem reaches_iff_locate : tree.Reaches path ↔ tree.locate path = .ok (tree.placeOf path) := by
  rw [reaches_iff_walk segments_eq named, locate_eq_ok_iff, segments_eq, walk_append_iff,
    placeOf_of_segments segments_eq named]
  refine and_congr_right fun _ => ?_
  constructor
  · rintro ⟨short, folder, walked, there⟩
    have stepped := (step_eq_ok_iff tree folder (folder ++ [name]) name).mpr
      ⟨there, short, (enter_name (isMarker_of_isName named) folder).symm⟩
    rw [← place_of_walk walked]
    exact ⟨folder, walked, (walk_cons_iff _ _ _ _ _).mpr ⟨_, stepped, rfl⟩⟩
  · rintro ⟨folder, walked, last_walked⟩
    obtain ⟨next, stepped, -⟩ := (walk_cons_iff _ _ _ _ _).mp last_walked
    obtain ⟨there, short, -⟩ := (step_eq_ok_iff _ _ _ _).mp stepped
    exact ⟨short, folder, walked, there⟩

theorem isPresent_iff_reaches :
    tree.isPresent path = true ↔ tree.Reaches path ∧ tree.get? (tree.placeOf path) ≠ none := by
  rw [isPresent_iff, reaches_iff_locate segments_eq named]
  constructor
  · rintro ⟨place, located, there⟩
    obtain rfl := placeOf_of_locate located
    exact ⟨located, there⟩
  · rintro ⟨located, there⟩
    exact ⟨_, located, there⟩

theorem HoldsText.reaches (holds : tree.HoldsText path) : tree.Reaches path := by
  obtain ⟨folder, last, located, last_named, -, short, -⟩ := holds.located
  have last_eq : tree.placeOf path = folder ++ [last] := placeOf_of_locateLast located last_named
  rw [placeOf_of_segments segments_eq named] at last_eq
  obtain rfl : name = last := (List.append_singleton_inj.mp last_eq).2
  exact (reaches_iff_locateLast segments_eq named).mpr ⟨short, folder, located⟩

theorem HoldsText.isPresent (holds : tree.HoldsText path) : tree.isPresent path = true := by
  obtain ⟨content, there⟩ := holds.there
  exact (isPresent_iff_reaches segments_eq named).mpr
    ⟨holds.reaches segments_eq named, by simp [there]⟩

/-- What stands at the place of a path is found there, if the path goes back out of folders only. -/
theorem IsSound.reaches (sound : tree.IsSound)
    (returns : tree.Returns (tree.start path) (Path.steps path))
    (faultless : pathFault? path = none)
    (short : ∀ segment ∈ Path.segments path, segment.utf8ByteSize ≤ 255)
    (there : tree.get? (tree.placeOf path) ≠ none) : tree.Reaches path where
  faultless := faultless
  short := short
  folders before passed := by
    rw [placeOf, steps_of_segments segments_eq named] at there
    rw [steps_of_segments segments_eq named] at returns
    rw [steps_of_segments segments_eq named, List.dropLast_concat] at passed
    exact sound.folder_of_returns returns there passed

end Named

section Joined

variable {base rel : String} (plain : Path.IsPlain rel)

include plain

theorem start_join (tree : FileTree) (base : String) :
    tree.start (Path.join base rel) = tree.start base := by
  rw [start, start, Path.startsWith_slash_join base plain.relative]

theorem placeOf_join (tree : FileTree) (base : String) :
    tree.placeOf (Path.join base rel) = tree.placeOf base ++ Path.segments rel := by
  rw [placeOf, placeOf, start_join plain, plain.steps_join, List.foldl_append,
    foldl_enter_of_isName plain]

theorem Returns.join (returns : tree.Returns (tree.start base) (Path.steps base)) :
    tree.Returns (tree.start (Path.join base rel)) (Path.steps (Path.join base rel)) := by
  rw [start_join plain, plain.steps_join]
  intro front back
  rcases List.prefix_or_prefix_of_prefix back (List.prefix_append _ _) with within | ⟨names, beyond⟩
  · exact returns front within
  · rw [← beyond, List.prefix_append_right_inj] at back
    rcases List.eq_nil_or_concat' names with rfl | ⟨before, last, rfl⟩
    · rw [List.append_nil] at beyond
      exact returns front (beyond ▸ List.prefix_rfl)
    · rw [← List.append_assoc] at beyond
      obtain rfl : last = ".." := (List.append_singleton_inj.mp beyond).2
      exact absurd rfl (plain ".." (back.subset (by simp))).notParent

/-- Where folders stand on the whole way to a file below a folder, the folder's own path goes back
out of folders only. -/
theorem returns_of_join
    (folders : ∀ front, front <+: (Path.steps (Path.join base rel)).dropLast →
      tree.get? (front.foldl enter (tree.start (Path.join base rel))) = some .folder) :
    tree.Returns (tree.start base) (Path.steps base) := by
  rw [start_join plain, plain.steps_join,
    List.dropLast_append_of_ne_nil (Path.segments_ne_nil rel)] at folders
  exact fun front back =>
    folders front ((List.prefix_append _ _).trans (back.trans (List.prefix_append _ _)))

end Joined

/-! ## Keeping everything -/

/-- Everything that was there is there as it was. -/
structure Preserves (tree after : FileTree) : Prop where
  home : after.home = tree.home
  kept : ∀ place entry, tree.get? place = some entry → after.get? place = some entry

namespace Preserves

theorem refl (tree : FileTree) : Preserves tree tree where
  home := rfl
  kept _ _ there := there

theorem trans (first : Preserves tree after) (second : Preserves after later) :
    Preserves tree later where
  home := second.home.trans first.home
  kept place entry there := second.kept place entry (first.kept place entry there)

theorem of_grows {start : Location} (grows : Grows start steps tree after) :
    Preserves tree after where
  home := grows.home
  kept _ _ there := grows.get?_of_some there

theorem keeps (preserves : Preserves tree after) : Keeps tree after where
  home := preserves.home
  folder place there := preserves.kept place .folder there
  text place content there := ⟨content, preserves.kept place (.text content) there⟩

theorem isPresent (preserves : Preserves tree after) (there : tree.isPresent path = true) :
    after.isPresent path = true := by
  obtain ⟨place, located, found⟩ := (isPresent_iff tree path).mp there
  obtain ⟨entry, entry_eq⟩ := Option.ne_none_iff_exists'.mp found
  refine (isPresent_iff after path).mpr ⟨place, preserves.keeps.locate located, ?_⟩
  rw [preserves.kept place entry entry_eq]
  exact Option.some_ne_none entry

theorem returns (preserves : Preserves tree after) {start : Location}
    (returns : tree.Returns start steps) : after.Returns start steps :=
  fun front back => preserves.kept _ _ (returns front back)

end Preserves

theorem PutsText.get?_placeOf (puts : PutsText tree (path, content) after) :
    after.get? (tree.placeOf path) = some (.text content) := by
  rw [puts.places, putText, if_pos rfl]

namespace PutsText

variable (puts : PutsText tree (path, content) after)

include puts

theorem get?_of_some (apart : place ≠ tree.placeOf path) (there : tree.get? place = some entry) :
    after.get? place = some entry := by
  rw [puts.places, putText, if_neg apart, there, if_neg (by simp)]

/-- Where nothing was at its place, everything stays. -/
theorem preserves (absent : tree.get? (tree.placeOf path) = none) : Preserves tree after where
  home := puts.keeps.home
  kept place entry there := by
    refine puts.get?_of_some ?_ there
    rintro rfl
    rw [absent] at there
    contradiction

/-- Folders stand on the whole way afterwards. -/
theorem folder_on_way {front : List String} (passed : front <+: (Path.steps path).dropLast) :
    after.get? (front.foldl enter (tree.start path)) = some .folder := by
  obtain ⟨folder, name, located, named, -⟩ := puts.holds.located
  rw [← puts.keeps.start]
  exact folder_of_locateLast located named passed

/-- Folders stand above all places on the way afterwards. -/
theorem folder_above_way (sound : tree.IsSound) {front : List String}
    (passed : front <+: (Path.steps path).dropLast)
    (above : place <+: front.foldl enter (tree.start path)) : after.get? place = some .folder := by
  induction front using List.reverseRecOn with
  | nil => exact puts.keeps.folder _ (sound.folder_of_prefix (sound.start_eq_folder path) above)
  | append_singleton before step ih =>
      have on_way := puts.folder_on_way passed
      have before_above := ih ((List.prefix_append before [step]).trans passed)
      rw [List.foldl_append, List.foldl_cons, List.foldl_nil, enter] at above on_way
      split_ifs at above on_way
      · exact before_above (above.trans (List.dropLast_prefix _))
      · rcases List.prefix_concat_iff.mp above with rfl | above
        · exact on_way
        · exact before_above above

theorem isSound (sound : tree.IsSound) : after.IsSound where
  home := by
    rw [puts.keeps.home]
    exact puts.keeps.folder _ sound.home
  around place name there := by
    rw [puts.places, putText] at there
    split_ifs at there with target made
    · obtain ⟨folder, last, located, named, -⟩ := puts.holds.located
      obtain ⟨-, folder_there, -⟩ :=
        (locateLast_eq_ok_iff _ _ _ (ne_empty_of_name named)).mp located
      rw [← puts.keeps.placeOf, placeOf_of_locateLast located named] at target
      rwa [(List.append_inj' target rfl).1]
    · obtain ⟨front, passed, place_eq⟩ := (mem_wayTo_iff _ _ _).mp made.1
      exact puts.folder_above_way sound passed (place_eq ▸ List.prefix_append place [name])
    · exact puts.keeps.folder _ (sound.around place name there)

/-- Only the place of the text and places above it change. -/
theorem get?_of_not_prefix (returns : tree.Returns (tree.start path) (Path.steps path))
    (apart : ¬ place <+: tree.placeOf path) : after.get? place = tree.get? place := by
  have place_ne : place ≠ tree.placeOf path := by
    rintro rfl
    exact apart List.prefix_rfl
  rw [puts.places, putText, if_neg place_ne]
  split_ifs with made
  · obtain ⟨front, passed, rfl⟩ := (mem_wayTo_iff _ _ _).mp made.1
    obtain ⟨back, steps_eq⟩ := passed.trans (List.dropLast_prefix _)
    rw [← steps_eq] at returns
    rw [placeOf, ← steps_eq] at apart
    exact absurd (returns.prefix_of_absent made.2) apart
  · rfl

end PutsText

end FileTree
end DataLayer

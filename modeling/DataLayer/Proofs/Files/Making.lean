import DataLayer.Proofs.Files.Reach

/-!
# Making what is missing

Where a path leads to a folder and from there straight down, the missing folders on its way can be
made and a file can be written at its end, unless something else stands there.
-/

namespace DataLayer
namespace FileTree

variable {tree after : FileTree} {folder place : Location} {path parent last name : String}
  {names : List String}

theorem pathFault?_eq_none_iff (path : String) :
    pathFault? path = none ↔
      '\x00' ∉ path.toList ∧ path ≠ "" ∧ path.utf8ByteSize ≤ 4095 := by
  rw [pathFault?]
  split_ifs with null empty long <;> simp_all

theorem pathFault?_of_append {front rest : String} (faultless : pathFault? (front ++ rest) = none)
    (nonempty : front ≠ "") : pathFault? front = none := by
  rw [pathFault?_eq_none_iff, String.toList_append, String.utf8ByteSize_append] at faultless
  obtain ⟨noNull, -, short⟩ := faultless
  exact (pathFault?_eq_none_iff front).mpr
    ⟨fun member => noNull (List.mem_append_left _ member), nonempty, by omega⟩

/-- The path leads to a folder and from there straight down by names. -/
structure Descends (tree : FileTree) (path : String) (folder : Location) (names : List String) :
    Prop where
  faultless : pathFault? path = none
  there : tree.get? folder = some .folder
  named : ∀ name ∈ names, Path.IsName name
  short : ∀ name ∈ names, name.utf8ByteSize ≤ 255
  walked : ∃ front, Path.segments path = front ++ names ∧
    front.foldlM tree.step (tree.start path) = .ok folder

/-- At the place there is a folder or nothing. -/
def IsFree (tree : FileTree) (place : Location) : Prop :=
  tree.get? place = some .folder ∨ tree.get? place = none

theorem IsFree.of_grows {start : Location} {steps : List String} (free : tree.IsFree place)
    (grows : Grows start steps tree after) : after.IsFree place := by
  rcases grows.grown place with kept | ⟨-, made, -⟩
  · rw [IsFree, kept]
    exact free
  · exact .inl made

theorem PutsText.isFree {content : String} (puts : PutsText tree (path, content) after)
    (apart : place ≠ tree.placeOf path) (free : tree.IsFree place) : after.IsFree place := by
  rw [IsFree, puts.places, putText, if_neg apart]
  split_ifs
  · exact .inl rfl
  · exact free

/-- Wherever a name is entered, there is a folder or nothing. -/
def IsClear (tree : FileTree) (folder : Location) (names : List String) : Prop :=
  ∀ front name, front ++ [name] <+: names → tree.IsFree (folder ++ front)

theorem IsClear.of_prefix (clear : tree.IsClear folder names) {front : List String}
    (passed : front <+: names) : tree.IsClear folder front :=
  fun before name entered => clear before name (entered.trans passed)

theorem walk_nil (tree : FileTree) (folder : Location) :
    ([] : List String).foldlM tree.step folder = .ok (folder ++ []) := by
  rw [List.append_nil]
  rfl

theorem step_name (there : tree.get? place = some .folder) (named : Path.IsName name)
    (short : name.utf8ByteSize ≤ 255) : tree.step place name = .ok (place ++ [name]) :=
  (step_eq_ok_iff tree place _ name).mpr
    ⟨there, short, (enter_name (isMarker_of_isName named) place).symm⟩

/-- Names are followed down to the end, or until something is missing. -/
theorem walk_of_clear (clear : tree.IsClear folder names)
    (named : ∀ name ∈ names, Path.IsName name) (short : ∀ name ∈ names, name.utf8ByteSize ≤ 255) :
    names.foldlM tree.step folder = .ok (folder ++ names) ∨
      names.foldlM tree.step folder = .error .notFound := by
  induction names generalizing folder with
  | nil => exact .inl (walk_nil tree folder)
  | cons name rest ih =>
      rw [List.forall_mem_cons] at named short
      have entered := clear [] name (by simp)
      rw [List.append_nil] at entered
      rw [List.foldlM_cons]
      rcases entered with there | missing
      · have rest_clear : tree.IsClear (folder ++ [name]) rest := by
          intro front next passed
          rw [List.append_assoc]
          exact clear (name :: front) next (List.cons_prefix_cons.mpr ⟨rfl, passed⟩)
        have rest_walked := ih rest_clear named.2 short.2
        rw [List.append_assoc, List.singleton_append] at rest_walked
        rw [step_name there named.1 short.1]
        exact rest_walked
      · refine .inr ?_
        rw [step, missing]
        rfl

namespace Descends

theorem ne_empty (descends : tree.Descends path folder names) : path ≠ "" :=
  ((pathFault?_eq_none_iff path).mp descends.faultless).2.1

theorem keeps (descends : tree.Descends path folder names) (keeps : Keeps tree after) :
    after.Descends path folder names where
  faultless := descends.faultless
  there := keeps.folder folder descends.there
  named := descends.named
  short := descends.short
  walked := by
    obtain ⟨front, segments_eq, walked⟩ := descends.walked
    rw [← keeps.start] at walked
    exact ⟨front, segments_eq, keeps.walk walked⟩

theorem all_short (descends : tree.Descends path folder names) :
    ∀ segment ∈ Path.segments path, segment.utf8ByteSize ≤ 255 := by
  obtain ⟨front, segments_eq, walked⟩ := descends.walked
  rw [segments_eq, List.forall_mem_append]
  exact ⟨short_of_walk walked, descends.short⟩

theorem locate (descends : tree.Descends path folder names)
    (walked : names.foldlM tree.step folder = .ok (folder ++ names)) :
    tree.locate path = .ok (folder ++ names) := by
  obtain ⟨front, segments_eq, front_walked⟩ := descends.walked
  rw [locate_eq_ok_iff, segments_eq, walk_append_iff]
  exact ⟨descends.faultless, folder, front_walked, walked⟩

/-- Where there is a folder at the end, all names on the way lead through folders. -/
theorem walk_of_isFolder (descends : tree.Descends path folder names)
    (there : tree.isFolder path = true) :
    names.foldlM tree.step folder = .ok (folder ++ names) ∧
      tree.get? (folder ++ names) = some .folder := by
  obtain ⟨place, located, place_there⟩ := (isFolder_iff tree path).mp there
  obtain ⟨front, segments_eq, front_walked⟩ := descends.walked
  rw [locate_eq_ok_iff, segments_eq, walk_append_iff] at located
  obtain ⟨-, other, other_walked, names_walked⟩ := located
  obtain rfl := Except.ok.inj (front_walked.symm.trans other_walked)
  have place_eq := place_of_walk names_walked
  rw [Path.active_of_isName descends.named, foldl_enter_of_isName descends.named] at place_eq
  exact place_eq ▸ ⟨names_walked, place_there⟩

theorem locateLast (descends : tree.Descends path folder (names ++ [last]))
    (walked : names.foldlM tree.step folder = .ok (folder ++ names))
    (there : tree.get? (folder ++ names) = some .folder) :
    tree.locateLast path = .ok (folder ++ names, last) := by
  obtain ⟨front, segments_eq, front_walked⟩ := descends.walked
  have last_named := descends.named last (by simp)
  rw [← List.append_assoc] at segments_eq
  exact (locateLast_eq_ok_iff tree path _ last_named.nonempty).mpr
    ⟨descends.faultless, there, front ++ names, [], segments_eq, by simp,
      (walk_append_iff _ _ _ _ _).mpr ⟨folder, front_walked, walked⟩⟩

/-- On a clear way only something missing can be in the way. -/
theorem locateLast_of_clear (descends : tree.Descends path folder (names ++ [last]))
    (clear : tree.IsClear folder (names ++ [last])) :
    tree.locateLast path = .ok (folder ++ names, last) ∨
      tree.locateLast path = .error .notFound := by
  have walk_cases := walk_of_clear (clear.of_prefix (List.prefix_append names [last]))
    (fun name member => descends.named name (by simp [member]))
    (fun name member => descends.short name (by simp [member]))
  have there_cases := clear names last List.prefix_rfl
  obtain ⟨front, segments_eq, front_walked⟩ := descends.walked
  rw [← List.append_assoc] at segments_eq
  have reversed_eq := dropWhile_of_split (descends.named last (by simp)).nonempty segments_eq
    (List.forall_mem_nil _)
  rw [FileTree.locateLast, descends.faultless]
  dsimp only
  rw [reversed_eq, List.drop_one, List.tail_cons, List.reverse_reverse, List.foldlM_append,
    front_walked]
  change names.foldlM tree.step folder >>= _ = _ ∨ names.foldlM tree.step folder >>= _ = _
  rcases walk_cases with walked | stopped
  · rw [walked]
    rcases there_cases with there | missing
    · exact .inl (by simp [bind, Except.bind, there, pure, Except.pure])
    · exact .inr (by simp [bind, Except.bind, missing])
  · rw [stopped]
    exact .inr rfl

theorem around (descends : tree.Descends path folder (names ++ [last])) :
    ∃ parent, Path.parent? path = some parent ∧
      (parent = "" ∧ names = [] ∧ folder = tree.start path ∨
        tree.Descends parent folder names) := by
  have names_named : ∀ name ∈ names, Path.IsName name :=
    fun name member => descends.named name (by simp [member])
  obtain ⟨front, segments_eq, walked⟩ := descends.walked
  rw [← List.append_assoc] at segments_eq
  obtain ⟨parent, parent_eq, parent_cases⟩ :=
    Path.exists_parent?_of_segments segments_eq (descends.named last (by simp))
  have start_eq : tree.start parent = tree.start path := by
    rw [start, start, Path.startsWith_slash_parent? parent_eq]
  refine ⟨parent, parent_eq, ?_⟩
  rcases parent_cases with ⟨nothing, rfl⟩ | ⟨rfl, rooted, all_idle⟩ |
    ⟨idle, lead, before_eq, all_idle, nonempty, rfl⟩
  · obtain ⟨rfl, rfl⟩ := List.append_eq_nil_iff.mp nothing
    exact .inl ⟨rfl, rfl, (Except.ok.inj walked).symm⟩
  · rw [List.forall_mem_append] at all_idle
    obtain rfl : names = [] := List.eq_nil_iff_forall_not_mem.mpr fun name member =>
      absurd (all_idle.2 name member) (by simp [(names_named name member).busy])
    have folder_eq := place_of_walk walked
    rw [Path.active_of_idle all_idle.1, start, if_pos rooted] at folder_eq
    subst folder_eq
    have root_start : tree.start "/" = [] := start_eq.trans (if_pos rooted)
    refine .inr ⟨by decide, rfl, by simp, by simp, Path.segments "/", by simp, ?_⟩
    rw [root_start]
    exact walk_blanks rfl (by decide)
  · refine .inr ⟨?_, descends.there, names_named,
      fun name member => descends.short name (by simp [member]), ?_⟩
    · have faultless := descends.faultless
      rw [String.append_assoc, String.append_assoc] at faultless
      exact pathFault?_of_append faultless nonempty
    · rw [start_eq]
      rcases List.eq_nil_or_concat' names with rfl | ⟨others, other, rfl⟩
      · rw [List.append_nil] at before_eq
        obtain ⟨next, parent_walked, idle_walked⟩ :=
          (walk_append_iff _ _ _ _ _).mp (before_eq ▸ walked)
        have next_eq := place_of_walk idle_walked
        rw [Path.active_of_idle all_idle] at next_eq
        exact ⟨Path.segments parent, by simp, next_eq ▸ parent_walked⟩
      · have busy := (names_named other (by simp)).busy
        have nothing_idle : idle = [] :=
          Path.eq_nil_of_idle_behind ((List.append_assoc _ _ _).trans before_eq) busy all_idle
        rw [nothing_idle, List.append_nil] at before_eq
        exact ⟨front, before_eq.symm, walked⟩

theorem isFolder (descends : tree.Descends path folder []) : tree.isFolder path = true := by
  have located := descends.locate (walk_nil tree folder)
  rw [List.append_nil] at located
  exact (isFolder_iff tree path).mpr ⟨folder, located, descends.there⟩

end Descends

/-! ## Making folders -/

section Last

variable (descends : tree.Descends path folder (names ++ [last]))
  (free : tree.IsFree (folder ++ names ++ [last]))

include descends free

theorem makeFolder_cases (located : tree.locateLast path = .ok (folder ++ names, last)) :
    (∃ after, tree.makeFolder path = .ok after) ∨ tree.isFolder path = true := by
  have named := descends.named last (by simp)
  have short := descends.short last (by simp)
  rcases free with there | missing
  · obtain ⟨front, segments_eq, -⟩ := descends.walked
    rw [← List.append_assoc] at segments_eq
    have reaches := (reaches_iff_locateLast segments_eq named).mpr ⟨short, _, located⟩
    rw [← placeOf_of_locateLast located (isMarker_of_isName named)] at there
    exact .inr ((isFolder_iff tree path).mpr
      ⟨_, (reaches_iff_locate segments_eq named).mp reaches, there⟩)
  · exact .inl ⟨_, (makeFolder_eq_ok_iff _ _ _).mpr
      ⟨_, last, located, isMarker_of_isName named, short, missing, rfl⟩⟩

theorem exists_run_makeOrKeep (located : tree.locateLast path = .ok (folder ++ names, last)) :
    ∃ after, (FileStore.makeOrKeep path : StateM FileTree _).run tree = (.ok (), after) := by
  rcases makeFolder_cases descends free located with ⟨after, made⟩ | there
  · refine ⟨after, ?_⟩
    rw [FileStore.makeOrKeep, StateT.run_bind, run_makeFolder, made]
    rfl
  · exact ⟨tree, run_makeOrKeep_of_isFolder there⟩

end Last

/-- Once there is a folder at the path around, only the last folder is missing. -/
theorem exists_run_makeOrKeep_of_isFolder (descends : tree.Descends path folder (names ++ [last]))
    (free : tree.IsFree (folder ++ names ++ [last])) (around : tree.Descends parent folder names)
    (there : tree.isFolder parent = true) :
    ∃ after, (FileStore.makeOrKeep path : StateM FileTree _).run tree = (.ok (), after) := by
  obtain ⟨walked, folder_there⟩ := around.walk_of_isFolder there
  exact exists_run_makeOrKeep descends free (descends.locateLast walked folder_there)

/-- On a clear way all folders can be made. -/
theorem exists_run_makeFoldersUpTo {depth : Nat} (descends : tree.Descends path folder names)
    (clear : tree.IsClear folder names) (free : tree.IsFree (folder ++ names))
    (deep : names.length ≤ depth + 1) :
    ∃ after, (FileStore.makeFoldersUpTo depth path : StateM FileTree _).run tree =
      (.ok (), after) := by
  induction depth generalizing path names with
  | zero =>
      rcases List.eq_nil_or_concat' names with rfl | ⟨before, last, rfl⟩
      · exact ⟨tree, run_makeFoldersUpTo_of_isFolder descends.isFolder 0⟩
      · rw [← List.append_assoc] at free
        obtain rfl : before = [] := by simpa using deep
        have located := descends.locateLast (walk_nil tree folder) (by simpa using descends.there)
        exact exists_run_makeOrKeep descends free located
  | succ depth ih =>
      rcases List.eq_nil_or_concat' names with rfl | ⟨before, last, rfl⟩
      · exact ⟨tree, run_makeFoldersUpTo_of_isFolder descends.isFolder _⟩
      · have nonempty := descends.ne_empty
        rw [← List.append_assoc] at free
        rcases descends.locateLast_of_clear clear with located | missing
        · rcases makeFolder_cases descends free located with ⟨after, made⟩ | there
          · exact ⟨after, run_makeFoldersUpTo_of_made made nonempty depth⟩
          · exact ⟨tree, run_makeFoldersUpTo_of_isFolder there _⟩
        · have refused : tree.makeFolder path = .error .notFound := by
            rw [makeFolder, missing]
            rfl
          obtain ⟨parent, parent_eq, ⟨rfl, rfl, -⟩ | around⟩ := descends.around
          · have located :=
              descends.locateLast (walk_nil tree folder) (by simpa using descends.there)
            simp [located] at missing
          · have parent_free := clear before last List.prefix_rfl
            obtain ⟨middle, made⟩ := ih around (clear.of_prefix (List.prefix_append before [last]))
              parent_free (by simpa using deep)
            have attempt := Attempts.makeFoldersUpTo depth tree parent
            rw [made] at attempt
            have keeps := attempt.grows.keeps
            have parent_there := (attempt.there rfl).resolve_left around.ne_empty
            obtain ⟨after, kept⟩ := exists_run_makeOrKeep_of_isFolder (descends.keeps keeps)
              (free.of_grows attempt.grows) (around.keeps keeps) parent_there
            rw [← run_makeFoldersUpTo_of_notFound refused nonempty parent_eq made] at kept
            exact ⟨after, kept⟩

section Write

variable (descends : tree.Descends path folder (names ++ [last]))

include descends

theorem Descends.steps_eq :
    ∃ front, Path.steps path = Path.active front ++ (names ++ [last]) ∧
      front.foldlM tree.step (tree.start path) = .ok folder := by
  obtain ⟨front, segments_eq, walked⟩ := descends.walked
  refine ⟨front, ?_, walked⟩
  rw [Path.steps, segments_eq, Path.active_append, Path.active_of_isName descends.named]

/-- What is made on the way does not stand at the end. -/
theorem Descends.get?_of_grows_around
    (grows : Grows (tree.start path) (Path.steps path).dropLast tree after) :
    after.get? (folder ++ names ++ [last]) = tree.get? (folder ++ names ++ [last]) := by
  obtain ⟨before, steps_eq, walked⟩ := descends.steps_eq
  rcases grows.grown (folder ++ names ++ [last]) with kept | ⟨absent, -, front, passed, place_eq⟩
  · exact kept
  · rw [steps_eq, ← List.append_assoc, List.dropLast_concat] at passed
    rcases List.prefix_or_prefix_of_prefix passed (List.prefix_append _ _) with
      within | ⟨below, rfl⟩
    · rw [← place_eq, folder_of_walk walked descends.there within] at absent
      contradiction
    · rw [List.prefix_append_right_inj] at passed
      have below_named : ∀ name ∈ below, Path.IsName name :=
        fun name member => descends.named name (by simp [passed.subset member])
      rw [List.foldl_append, ← place_of_walk walked, foldl_enter_of_isName below_named,
        List.append_assoc, List.append_cancel_left_eq] at place_eq
      have too_long := passed.length_le
      rw [place_eq, List.length_append, List.length_singleton] at too_long
      omega

theorem exists_madeAround (clear : tree.IsClear folder (names ++ [last])) :
    ∃ middle, tree.madeAround path = (.ok (), middle) ∧
      middle.locateLast path = .ok (folder ++ names, last) := by
  obtain ⟨parent, parent_eq, ⟨rfl, rfl, -⟩ | around⟩ := descends.around
  · refine ⟨tree, ?_, descends.locateLast (walk_nil tree folder) (by simpa using descends.there)⟩
    rw [madeAround, parent_eq]
    rfl
  · have deep : names.length ≤ parent.length + 1 + 1 := by
      obtain ⟨front, segments_eq, -⟩ := around.walked
      have bound := Path.length_segments_le parent
      rw [segments_eq, List.length_append] at bound
      omega
    obtain ⟨middle, made⟩ := exists_run_makeFoldersUpTo around
      (clear.of_prefix (List.prefix_append names [last])) (clear names last List.prefix_rfl) deep
    have attempt := Attempts.makeFoldersUpTo (parent.length + 1) tree parent
    rw [made] at attempt
    have keeps := attempt.grows.keeps
    obtain ⟨walked, there⟩ := (around.keeps keeps).walk_of_isFolder
      ((attempt.there rfl).resolve_left around.ne_empty)
    refine ⟨middle, ?_, (descends.keeps keeps).locateLast walked there⟩
    rw [madeAround, parent_eq]
    exact made

end Write

/-- On a clear way a file can be written at the end, unless a folder is there. -/
theorem exists_outcome_force {file : PlannedFile}
    (descends : tree.Descends file.path folder (names ++ [last]))
    (clear : tree.IsClear folder (names ++ [last]))
    (free : tree.get? (folder ++ names ++ [last]) ≠ some .folder) :
    ∃ after, Stateful.outcome file.force tree = (.ok (), after) := by
  obtain ⟨middle, made, located⟩ := exists_madeAround descends clear
  have named := descends.named last (by simp)
  have open_end : file.path.endsWith "/" = false := by
    obtain ⟨front, segments_eq, -⟩ := descends.walked
    rw [← List.append_assoc] at segments_eq
    exact Path.endsWith_slash_of_segments segments_eq named
  rw [← descends.get?_of_grows_around (grows_of_madeAround made)] at free
  exact ⟨_, (outcome_force_eq_ok_iff _ _ _).mpr ⟨middle, made, (write_eq_ok_iff _ _ _ _).mpr
    ⟨_, last, located, isMarker_of_isName named, open_end, descends.short last (by simp), free,
      rfl⟩⟩⟩

/-! ## Below a folder -/

theorem IsSound.locate_dot (sound : tree.IsSound) : tree.locate "." = .ok tree.home := by
  have start_eq : tree.start "." = tree.home :=
    if_neg (by simp [Path.startsWith_slash_of_notMem])
  have stepped : tree.step tree.home "." = .ok tree.home :=
    (step_eq_ok_iff _ _ _ _).mpr ⟨sound.home, by decide, rfl⟩
  have walked : ["."].foldlM tree.step tree.home = .ok tree.home :=
    (walk_cons_iff _ _ _ _ _).mpr ⟨tree.home, stepped, rfl⟩
  rw [locate_eq_ok_iff, start_eq]
  exact ⟨by decide, walked⟩

section Below

variable {base rel : String} (there : tree.isFolder base = true)

include there

theorem ne_empty_of_isFolder : base ≠ "" := by
  obtain ⟨place, located, -⟩ := (isFolder_iff tree base).mp there
  obtain ⟨faultless, -⟩ := (locate_eq_ok_iff _ _ _).mp located
  exact ((pathFault?_eq_none_iff base).mp faultless).2.1

theorem get?_placeOf_of_isFolder : tree.get? (tree.placeOf base) = some .folder := by
  obtain ⟨place, located, folder_there⟩ := (isFolder_iff tree base).mp there
  rw [placeOf_of_locate located]
  exact folder_there

/-- A path to a folder goes back out of folders only. -/
theorem returns_of_isFolder : tree.Returns (tree.start base) (Path.steps base) := by
  obtain ⟨place, located, folder_there⟩ := (isFolder_iff tree base).mp there
  obtain ⟨-, walked⟩ := (locate_eq_ok_iff _ _ _).mp located
  exact fun front back =>
    folder_of_walk walked folder_there ((List.prefix_append _ _).trans back)

variable (fits : Path.Fits base rel)

include fits

theorem descends_join :
    tree.Descends (Path.join base rel) (tree.placeOf base) (Path.segments rel) where
  faultless := by
    obtain ⟨place, located, -⟩ := (isFolder_iff tree base).mp there
    obtain ⟨faultless, -⟩ := (locate_eq_ok_iff _ _ _).mp located
    obtain ⟨noNull, nonempty, -⟩ := (pathFault?_eq_none_iff base).mp faultless
    refine (pathFault?_eq_none_iff _).mpr ⟨?_, ?_, fits.whole⟩
    · obtain ⟨link, link_cases, join_eq⟩ := Path.exists_join_eq_append base fits.plain.relative
      have link_noNull : '\x00' ∉ link.toList := by rcases link_cases with rfl | rfl <;> decide
      simp [join_eq, noNull, link_noNull, fits.noNull]
    · obtain ⟨link, -, join_eq⟩ := Path.exists_join_eq_append base fits.plain.relative
      simp [join_eq, nonempty]
  there := get?_placeOf_of_isFolder there
  named := fits.plain
  short := fits.names
  walked := by
    obtain ⟨place, located, -⟩ := (isFolder_iff tree base).mp there
    obtain ⟨-, walked⟩ := (locate_eq_ok_iff _ _ _).mp located
    obtain ⟨front, segments_eq, ⟨rest, base_eq⟩, front_eq⟩ :=
      Path.segments_join base fits.plain.relative
    rw [← base_eq] at walked
    obtain ⟨next, front_walked, -⟩ := (walk_append_iff _ _ _ _ _).mp walked
    have next_eq := place_of_walk front_walked
    rw [front_eq] at next_eq
    refine ⟨front, segments_eq, ?_⟩
    rw [start_join fits.plain, front_walked, next_eq]
    rfl

theorem readText_join (sound : tree.IsSound) {content : String}
    (text : tree.get? (tree.placeOf base ++ Path.segments rel) = some (.text content)) :
    tree.readText (Path.join base rel) = .ok content := by
  obtain ⟨front, name, segments_eq, named⟩ := fits.plain.exists_segments_join base
  have descends := descends_join there fits
  have returns := (returns_of_isFolder there).join fits.plain
  rw [← placeOf_join fits.plain] at text
  have reaches := sound.reaches segments_eq named returns descends.faultless
    descends.all_short (by simp [text])
  exact (readText_eq_ok_iff _ _ _).mpr
    ⟨_, (reaches_iff_locate segments_eq named).mp reaches, text⟩

end Below

/-- Files can be written at the paths below the folder: nothing is at their places, and nothing but
folders on their ways. -/
structure Vacant (base : String) (paths : List String) (tree : FileTree) : Prop where
  there : tree.isFolder base = true
  fits : ∀ path ∈ paths, Path.Fits base path
  clear : ∀ path ∈ paths, tree.IsClear (tree.placeOf base) (Path.segments path)
  absent : ∀ path ∈ paths, tree.get? (tree.placeOf base ++ Path.segments path) = none

namespace Vacant

variable {base content : String} {paths : List String} (vacant : Vacant base (path :: paths) tree)

include vacant

theorem exists_outcome_force {file : PlannedFile} (path_eq : file.path = Path.join base path) :
    ∃ after, Stateful.outcome file.force tree = (.ok (), after) := by
  have descends := descends_join vacant.there (vacant.fits path List.mem_cons_self)
  have clear := vacant.clear path List.mem_cons_self
  have absent := vacant.absent path List.mem_cons_self
  obtain ⟨names, last, segments_eq⟩ :=
    (List.eq_nil_or_concat' (Path.segments path)).resolve_left (Path.segments_ne_nil path)
  rw [segments_eq] at descends clear absent
  rw [← path_eq] at descends
  exact FileTree.exists_outcome_force descends clear (by simp [List.append_assoc, absent])

/-- What one file takes is no room for the others. -/
theorem of_puts (apart : ∀ other ∈ paths, Path.Apart path other)
    (puts : PutsText tree (Path.join base path, content) after) : Vacant base paths after := by
  have plain := (vacant.fits path List.mem_cons_self).plain
  have returns := (returns_of_isFolder vacant.there).join plain
  have target_eq := placeOf_join plain tree base
  refine ⟨puts.keeps.isFolder vacant.there,
    fun other member => vacant.fits other (List.mem_cons_of_mem path member), ?_, ?_⟩
  · intro other member front name entered
    rw [puts.keeps.placeOf]
    refine puts.isFree ?_ (vacant.clear other (List.mem_cons_of_mem path member) front name entered)
    rw [target_eq, ne_eq, List.append_cancel_left_eq]
    rintro rfl
    exact (apart other member).1 ((List.prefix_append _ _).trans entered)
  · intro other member
    rw [puts.keeps.placeOf, puts.get?_of_not_prefix returns]
    · exact vacant.absent other (List.mem_cons_of_mem path member)
    · rw [target_eq, List.prefix_append_right_inj]
      exact (apart other member).2

end Vacant

end FileTree
end DataLayer

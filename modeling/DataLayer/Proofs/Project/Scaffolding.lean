import DataLayer.Proofs.Files.Reach
import DataLayer.Proofs.Project.RootNamespace

/-!
# The files of a new project

A new project is written file by file, and no file goes where something is.  Each write that
succeeds leaves a path that can be followed, so the next one goes where its path says; a second
start finds all files and writes none.
-/

namespace DataLayer

open FileTree

namespace PlannedFile

variable {file : PlannedFile} {tree after : FileTree} {result : Except WriteError WriteResult}

theorem outcome_write_ifMissing (file : PlannedFile) (ifMissing : file.overwrite = .ifMissing)
    (tree : FileTree) :
    Stateful.outcome file.write tree =
      if tree.isPresent file.path then (.ok .skipped, tree)
      else ((Stateful.outcome file.force tree).1.map fun _ => .written,
        (Stateful.outcome file.force tree).2) := by
  rw [write, ifMissing]
  change Stateful.outcome (liftM (FileStore.isPresent file.path : StateM FileTree _) >>= _) tree = _
  rw [Stateful.outcome_bind, Stateful.outcome_liftM]
  change Stateful.outcome (if tree.isPresent file.path then _ else _) tree = _
  split_ifs
  · rfl
  · rw [Stateful.outcome_bind]
    generalize Stateful.outcome file.force tree = forced
    obtain ⟨answer, reached⟩ := forced
    cases answer <;> rfl

/-- What can come of a write where nothing is: the file is there already, or folders are made in
vain, or the file is written. -/
theorem write_cases (ifMissing : file.overwrite = .ifMissing)
    (ran : Stateful.outcome file.write tree = (result, after)) :
    (tree.isPresent file.path = true ∧ result = .ok .skipped ∧ after = tree) ∨
    (tree.isPresent file.path = false ∧ (∃ error, result = .error error) ∧
      Grows (tree.start file.path) (Path.steps file.path).dropLast tree after) ∨
    (tree.isPresent file.path = false ∧ result = .ok .written ∧
      PutsText tree (file.path, file.content) after) := by
  rw [outcome_write_ifMissing file ifMissing] at ran
  split_ifs at ran with there
  · obtain ⟨rfl, rfl⟩ := Prod.mk.inj ran
    exact .inl ⟨there, rfl, rfl⟩
  · rw [Bool.not_eq_true] at there
    cases forced : Stateful.outcome file.force tree with
    | mk answer reached =>
        rw [forced] at ran
        obtain ⟨rfl, rfl⟩ := Prod.mk.inj ran
        cases answer with
        | error error => exact .inr (.inl ⟨there, ⟨error, rfl⟩, grows_of_force_error forced⟩)
        | ok _ => exact .inr (.inr ⟨there, rfl, putsText_of_force forced⟩)

end PlannedFile

namespace Scaffold

/-- The paths of a new project's files below its folder. -/
def paths : List String := [
  "dalgen.toml",
  "schema.toml",
  "templates/ModelFrame.txt",
  "templates/RepositoryFrame.txt",
  "templates/ModelEntity.txt",
  "templates/TableRepository.txt",
  "templates/DataContext.txt",
  "templates/RepositoryBase.txt"]

/-- The file goes straight down from the folder, unless something is there. -/
structure IsBelow (dir path : String) (file : PlannedFile) : Prop where
  path_eq : file.path = Path.join dir path
  plain : Path.IsPlain path
  ifMissing : file.overwrite = .ifMissing

theorem templateFile_isBelow (dir : String) (name : TemplateName) :
    IsBelow dir (templatesName ++ "/" ++ name.fileName) (templateFile dir templatesName name) where
  path_eq := by
    have named : Path.IsName templatesName := by decide
    have relative : name.fileName.startsWith "/" = false := by
      cases name <;> exact Path.startsWith_slash_of_notMem (by decide)
    exact named.join_join dir relative
  plain := by cases name <;> decide +kernel
  ifMissing := rfl

theorem files_isBelow (dir : String) (manifest : NewManifest) :
    List.Forall₂ (IsBelow dir) paths (files dir manifest) := by
  refine .cons ⟨rfl, by decide, rfl⟩ (.cons ⟨rfl, by decide, rfl⟩ ?_)
  have below (names : List TemplateName) : List.Forall₂ (IsBelow dir)
      (names.map fun name => templatesName ++ "/" ++ name.fileName)
      (names.map (templateFile dir templatesName)) := by
    simp only [List.forall₂_map_left_iff, List.forall₂_map_right_iff, List.forall₂_same]
    exact fun name _ => templateFile_isBelow dir name
  exact below TemplateName.all

/-- No file stands where another one needs a folder, and no two files are the same. -/
theorem paths_apart : paths.Pairwise Path.Apart := by
  decide +kernel

namespace IsBelow

variable {dir path : String} {file : PlannedFile} {tree after : FileTree}
  (below : IsBelow dir path file)

include below

theorem exists_segments :
    ∃ front name, Path.segments file.path = front ++ [name] ∧ Path.IsName name := by
  rw [below.path_eq]
  exact below.plain.exists_segments_join dir

theorem isPresent_iff_reaches : tree.isPresent file.path = true ↔
    tree.Reaches file.path ∧ tree.get? (tree.placeOf file.path) ≠ none := by
  obtain ⟨front, name, segments_eq, named⟩ := below.exists_segments
  exact FileTree.isPresent_iff_reaches segments_eq named

theorem returns (reaches : tree.Reaches file.path) :
    tree.Returns (tree.start dir) (Path.steps dir) := by
  have folders := reaches.folders
  rw [below.path_eq] at folders
  exact returns_of_join below.plain folders

theorem isPresent_of_puts (puts : PutsText tree (file.path, file.content) after) :
    after.isPresent file.path = true := by
  obtain ⟨front, name, segments_eq, named⟩ := below.exists_segments
  exact puts.holds.isPresent segments_eq named

variable (returns : tree.Returns (tree.start dir) (Path.steps dir))

include returns

theorem returns_file : tree.Returns (tree.start file.path) (Path.steps file.path) := by
  rw [below.path_eq]
  exact returns.join below.plain

variable (sound : tree.IsSound)

include sound

/-- Where the folder's own path goes back out of folders only, a file that is not found is not
there. -/
theorem absent_of_puts (missing : tree.isPresent file.path = false)
    (puts : PutsText tree (file.path, file.content) after) :
    tree.get? (tree.placeOf file.path) = none := by
  by_contra there
  obtain ⟨front, name, segments_eq, named⟩ := below.exists_segments
  obtain ⟨reached, -⟩ := below.isPresent_iff_reaches.mp (below.isPresent_of_puts puts)
  have reaches := sound.reaches segments_eq named (below.returns_file returns) reached.faultless
    reached.short there
  rw [below.isPresent_iff_reaches.mpr ⟨reaches, there⟩] at missing
  contradiction

/-- Whatever comes of writing a file, everything else stays. -/
theorem preserves {result : Except WriteError WriteResult}
    (ran : Stateful.outcome file.write tree = (result, after)) : Preserves tree after := by
  rcases PlannedFile.write_cases below.ifMissing ran with
    ⟨-, -, rfl⟩ | ⟨-, -, grows⟩ | ⟨missing, -, puts⟩
  · exact .refl after
  · exact .of_grows grows
  · exact puts.preserves (below.absent_of_puts returns sound missing puts)

end IsBelow

/-- What a file of a new project is reported as, by what is at its place before. -/
def expected (tree : FileTree) (dir path : String) : ScaffoldedFile where
  path := path
  result := if tree.get? (tree.placeOf (Path.join dir path)) = none then .written else .skipped

/-- What a file system is like after a file of a new project was written or left alone. -/
structure Settles (dir path : String) (tree : FileTree) (answer : WriteResult) (after : FileTree) :
    Prop where
  sound : after.IsSound
  present : after.isPresent (Path.join dir path) = true
  expected_eq : expected tree dir path = ⟨path, answer⟩
  untouched : ∀ place, ¬ place <+: tree.placeOf (Path.join dir path) →
    after.get? place = tree.get? place

theorem IsBelow.settles {dir path : String} {file : PlannedFile} {tree after : FileTree}
    {answer : WriteResult} (below : IsBelow dir path file) (sound : tree.IsSound)
    (returns : tree.Returns (tree.start dir) (Path.steps dir))
    (ran : Stateful.outcome file.write tree = (.ok answer, after)) :
    Settles dir path tree answer after := by
  rcases PlannedFile.write_cases below.ifMissing ran with
    ⟨there, answer_eq, rfl⟩ | ⟨-, ⟨error, failed⟩, -⟩ | ⟨missing, answer_eq, puts⟩
  · obtain rfl := Except.ok.inj answer_eq
    have found := (below.isPresent_iff_reaches.mp there).2
    rw [below.path_eq] at there found
    refine ⟨sound, there, ?_, fun _ _ => rfl⟩
    rw [expected, if_neg found]
  · contradiction
  · obtain rfl := Except.ok.inj answer_eq
    have absent := below.absent_of_puts returns sound missing puts
    have present := below.isPresent_of_puts puts
    have untouched (place : Location) (apart : ¬ place <+: tree.placeOf file.path) :=
      puts.get?_of_not_prefix (below.returns_file returns) apart
    rw [below.path_eq] at absent present untouched
    refine ⟨puts.isSound sound, present, ?_, untouched⟩
    rw [expected, if_pos absent]

end Scaffold

/-! ## Writing all files -/

namespace Project

open Scaffold

variable {dir : String} {paths : List String} {files : List PlannedFile}
  {tree after : FileTree}

theorem isPlain_of_isBelow (below : List.Forall₂ (IsBelow dir) paths files) :
    ∀ path ∈ paths, Path.IsPlain path :=
  ((List.forall₂_and_left paths files).mp (below.imp fun _ _ first => ⟨first.plain, first⟩)).1

theorem outcome_writeScaffold_cons (dir : String) (file : PlannedFile) (rest : List PlannedFile)
    (tree : FileTree) :
    Stateful.outcome (writeScaffold dir (file :: rest)) tree =
      match Stateful.outcome file.write tree with
      | (.error error, middle) => (.error error, middle)
      | (.ok answer, middle) =>
        ((Stateful.outcome (writeScaffold dir rest) middle).1.map
            (⟨Path.relativeTo dir file.path, answer⟩ :: ·),
          (Stateful.outcome (writeScaffold dir rest) middle).2) := by
  rw [writeScaffold, Stateful.outcome_bind]
  generalize Stateful.outcome file.write tree = first
  obtain ⟨answer, middle⟩ := first
  cases answer with
  | error error => rfl
  | ok answer =>
      dsimp only
      rw [Stateful.outcome_bind]
      generalize Stateful.outcome (writeScaffold dir rest) middle = others
      obtain ⟨result, after⟩ := others
      cases result <;> rfl

theorem writeScaffold_cons_cases {file : PlannedFile} {rest : List PlannedFile}
    {report : List ScaffoldedFile}
    (ran : Stateful.outcome (writeScaffold dir (file :: rest)) tree = (.ok report, after)) :
    ∃ answer middle others, Stateful.outcome file.write tree = (.ok answer, middle) ∧
      Stateful.outcome (writeScaffold dir rest) middle = (.ok others, after) ∧
      report = ⟨Path.relativeTo dir file.path, answer⟩ :: others := by
  rw [outcome_writeScaffold_cons] at ran
  cases first_ran : Stateful.outcome file.write tree with
  | mk result middle =>
      cases result with
      | error error => simp [first_ran] at ran
      | ok answer =>
          simp only [first_ran, Prod.mk.injEq, Traversal.map_eq_ok_iff] at ran
          obtain ⟨⟨others, others_eq, rfl⟩, rfl⟩ := ran
          exact ⟨answer, middle, others, rfl, Prod.ext others_eq rfl, rfl⟩

/-- Whatever comes of writing the files, everything that was there stays. -/
theorem preserves_of_writeScaffold (below : List.Forall₂ (IsBelow dir) paths files)
    (sound : tree.IsSound) (returns : tree.Returns (tree.start dir) (Path.steps dir)) :
    Preserves tree (Stateful.outcome (writeScaffold dir files) tree).2 := by
  induction below generalizing tree with
  | nil => exact .refl tree
  | cons first _ ih =>
      rw [outcome_writeScaffold_cons]
      cases ran : Stateful.outcome (PlannedFile.write _) tree with
      | mk result middle =>
          have preserves := first.preserves returns sound ran
          cases result with
          | error error => exact preserves
          | ok answer =>
              have middle_returns := preserves.returns returns
              rw [← preserves.keeps.start] at middle_returns
              exact preserves.trans (ih (first.settles sound returns ran).sound middle_returns)

/-- The files are reported by what was at their places before the first one was written, and they
are all there after the last one. -/
theorem report_of_writeScaffold (below : List.Forall₂ (IsBelow dir) paths files)
    (apart : paths.Pairwise Path.Apart)
    (sound : tree.IsSound) (returns : tree.Returns (tree.start dir) (Path.steps dir))
    {report : List ScaffoldedFile}
    (ran : Stateful.outcome (writeScaffold dir files) tree = (.ok report, after)) :
    (∀ path ∈ paths, after.isPresent (Path.join dir path) = true) ∧
      report = paths.map (expected tree dir) := by
  induction below generalizing tree report with
  | nil =>
      obtain ⟨report_eq, -⟩ := Prod.mk.inj ran
      exact ⟨by simp, (Except.ok.inj report_eq).symm⟩
  | @cons path file paths files first below ih =>
      rw [List.pairwise_cons] at apart
      obtain ⟨answer, middle, others, first_ran, rest_ran, rfl⟩ := writeScaffold_cons_cases ran
      have settles := first.settles sound returns first_ran
      have preserves := first.preserves returns sound first_ran
      have middle_returns := preserves.returns returns
      rw [← preserves.keeps.start] at middle_returns
      have rest_preserves := preserves_of_writeScaffold below settles.sound middle_returns
      rw [rest_ran] at rest_preserves
      obtain ⟨present, rfl⟩ := ih apart.2 settles.sound middle_returns rest_ran
      refine ⟨List.forall_mem_cons.mpr ⟨rest_preserves.isPresent settles.present, present⟩, ?_⟩
      rw [List.map_cons, settles.expected_eq, first.path_eq, first.plain.relativeTo_join,
        List.cons_inj_right]
      refine List.map_congr_left fun later member => ?_
      have later_plain := isPlain_of_isBelow below later member
      -- The first file goes nowhere near the places of later ones.
      have unchanged := settles.untouched (tree.placeOf (Path.join dir later)) (by
        rw [placeOf_join later_plain, placeOf_join first.plain, List.prefix_append_right_inj]
        exact (apart.1 later member).2)
      rw [expected, expected, preserves.keeps.placeOf, unchanged]

/-- Once all files are there, they are all left alone. -/
theorem outcome_writeScaffold_of_present (below : List.Forall₂ (IsBelow dir) paths files)
    (present : ∀ path ∈ paths, tree.isPresent (Path.join dir path) = true) :
    Stateful.outcome (writeScaffold dir files) tree =
      (.ok (paths.map fun path => ⟨path, .skipped⟩), tree) := by
  induction below with
  | nil => rfl
  | @cons path file paths files first _ ih =>
      rw [List.forall_mem_cons] at present
      have skipped : Stateful.outcome file.write tree = (.ok .skipped, tree) := by
        rw [PlannedFile.outcome_write_ifMissing file first.ifMissing, first.path_eq,
          if_pos present.1]
      rw [outcome_writeScaffold_cons, skipped]
      dsimp only
      rw [ih present.2, first.path_eq, first.plain.relativeTo_join]
      rfl

section First

variable {path : String} {file : PlannedFile} (first : IsBelow dir path file)
  (sound : tree.IsSound) {result : Except WriteError WriteResult}
  (ran : Stateful.outcome file.write tree = (result, after))

include first sound ran

/-- The first file may be put where the folder's path leads once folders are made on its way, but
from then on that path goes back out of folders only. -/
theorem first_write_cases : tree.Returns (tree.start dir) (Path.steps dir) ∨
    ((∃ error, result = .error error) ∧ Preserves tree after) ∨
    (result = .ok .written ∧ PutsText tree (file.path, file.content) after ∧ after.IsSound ∧
      after.Returns (after.start dir) (Path.steps dir)) := by
  rcases PlannedFile.write_cases first.ifMissing ran with
    ⟨there, -, -⟩ | ⟨-, failed, grows⟩ | ⟨-, rfl, puts⟩
  · exact .inl (first.returns (first.isPresent_iff_reaches.mp there).1)
  · exact .inr (.inl ⟨failed, .of_grows grows⟩)
  · have present := first.isPresent_of_puts puts
    exact .inr (.inr ⟨rfl, puts, puts.isSound sound,
      first.returns (first.isPresent_iff_reaches.mp present).1⟩)

end First

variable {file : PlannedFile}

/-- Whatever comes of writing the files, everything that was there stays, but perhaps for what is at
the place of the first file. -/
theorem kept_of_writeScaffold (below : List.Forall₂ (IsBelow dir) paths (file :: files))
    (sound : tree.IsSound) {place : Location} {entry : FileEntry}
    (there : tree.get? place = some entry) :
    (Stateful.outcome (writeScaffold dir (file :: files)) tree).2.get? place = some entry ∨
      ¬ tree.Returns (tree.start dir) (Path.steps dir) ∧ place = tree.placeOf file.path ∧
      (Stateful.outcome (writeScaffold dir (file :: files)) tree).2.get? place =
        some (.text file.content) := by
  by_cases returns : tree.Returns (tree.start dir) (Path.steps dir)
  · exact .inl ((preserves_of_writeScaffold below sound returns).kept place entry there)
  · obtain ⟨path, others, first, rest, rfl⟩ := List.forall₂_cons_right_iff.mp below
    rw [outcome_writeScaffold_cons]
    cases ran : Stateful.outcome file.write tree with
    | mk result middle =>
        rcases first_write_cases first sound ran with
          safe | ⟨⟨error, rfl⟩, preserves⟩ | ⟨rfl, puts, middle_sound, middle_returns⟩
        · exact absurd safe returns
        · exact .inl (preserves.kept place entry there)
        · have kept := (preserves_of_writeScaffold rest middle_sound middle_returns).kept
          by_cases target : place = tree.placeOf file.path
          · refine .inr ⟨returns, target, kept place _ ?_⟩
            rw [target]
            exact puts.get?_placeOf
          · exact .inl (kept place entry (puts.get?_of_some target there))

/-- The first file keeps its text once it is written. -/
theorem text_of_first_written (below : List.Forall₂ (IsBelow dir) paths (file :: files))
    (sound : tree.IsSound) {middle : FileTree}
    (ran : Stateful.outcome file.write tree = (.ok .written, middle)) :
    (Stateful.outcome (writeScaffold dir (file :: files)) tree).2.get? (tree.placeOf file.path) =
      some (.text file.content) := by
  obtain ⟨path, others, first, rest, rfl⟩ := List.forall₂_cons_right_iff.mp below
  rw [outcome_writeScaffold_cons, ran]
  rcases PlannedFile.write_cases first.ifMissing ran with
    ⟨-, skipped, -⟩ | ⟨-, ⟨error, failed⟩, -⟩ | ⟨-, -, puts⟩
  · contradiction
  · contradiction
  · have present := first.isPresent_of_puts puts
    have returns := first.returns (first.isPresent_iff_reaches.mp present).1
    have preserves := preserves_of_writeScaffold rest (puts.isSound sound) returns
    exact preserves.kept _ _ puts.get?_placeOf

theorem present_of_writeScaffold (below : List.Forall₂ (IsBelow dir) paths (file :: files))
    (apart : paths.Pairwise Path.Apart)
    (sound : tree.IsSound) {report : List ScaffoldedFile}
    (ran : Stateful.outcome (writeScaffold dir (file :: files)) tree = (.ok report, after)) :
    (∀ path ∈ paths, after.isPresent (Path.join dir path) = true) ∧
      report.map (·.path) = paths := by
  have path_eq (tree : FileTree) (paths : List String) :
      (paths.map (expected tree dir)).map (·.path) = paths := by
    simp [expected, Function.comp_def]
  by_cases returns : tree.Returns (tree.start dir) (Path.steps dir)
  · obtain ⟨present, rfl⟩ := report_of_writeScaffold below apart sound returns ran
    exact ⟨present, path_eq tree paths⟩
  · obtain ⟨path, others, first, rest, rfl⟩ := List.forall₂_cons_right_iff.mp below
    obtain ⟨answer, middle, later, first_ran, rest_ran, rfl⟩ := writeScaffold_cons_cases ran
    rcases first_write_cases first sound first_ran with
      safe | ⟨⟨error, failed⟩, -⟩ | ⟨-, puts, middle_sound, middle_returns⟩
    · exact absurd safe returns
    · contradiction
    · rw [List.pairwise_cons] at apart
      obtain ⟨present, rfl⟩ :=
        report_of_writeScaffold rest apart.2 middle_sound middle_returns rest_ran
      have preserves := preserves_of_writeScaffold rest middle_sound middle_returns
      rw [rest_ran] at preserves
      have first_present := preserves.isPresent (first.isPresent_of_puts puts)
      rw [first.path_eq] at first_present
      refine ⟨List.forall_mem_cons.mpr ⟨first_present, present⟩, ?_⟩
      rw [List.map_cons, path_eq, first.path_eq, first.plain.relativeTo_join]

/-! ## Starting a project -/

theorem outcome_init_eq_ok_iff {dir rootNamespace : String} {report : InitReport} :
    Stateful.outcome (init dir rootNamespace) tree = (.ok report, after) ↔
      ∃ manifest files,
        Manifest.parse (NewManifest.ofNamespace rootNamespace).text Scaffold.manifestName =
          .ok manifest ∧
        Stateful.outcome (writeScaffold dir (Scaffold.files dir (.ofNamespace rootNamespace)))
          tree = (.ok files, after) ∧
        report = ⟨dir, rootNamespace, files⟩ := by
  rw [outcome_init]
  cases Manifest.parse (NewManifest.ofNamespace rootNamespace).text Scaffold.manifestName with
  | error error => simp
  | ok manifest =>
      generalize Stateful.outcome (writeScaffold dir _) tree = written
      obtain ⟨result, reached⟩ := written
      cases result <;> simp [eq_comm, and_comm]

section Start

variable {rootNamespace : String}

theorem outcome_init_snd {manifest : Manifest}
    (accepted : Manifest.parse (NewManifest.ofNamespace rootNamespace).text
      Scaffold.manifestName = .ok manifest) :
    (Stateful.outcome (init dir rootNamespace) tree).2 =
      (Stateful.outcome (writeScaffold dir (Scaffold.files dir (.ofNamespace rootNamespace)))
        tree).2 := by
  rw [outcome_init, accepted]
  generalize Stateful.outcome (writeScaffold dir _) tree = written
  obtain ⟨result, reached⟩ := written
  cases result <;> rfl

theorem unchanged_of_refused {error : ManifestError}
    (refused : (Stateful.outcome (init dir rootNamespace) tree).1 =
      .error (.namespaceRefused rootNamespace error)) :
    (Stateful.outcome (init dir rootNamespace) tree).2 = tree := by
  rw [outcome_init] at refused ⊢
  cases parsed : Manifest.parse (NewManifest.ofNamespace rootNamespace).text
    Scaffold.manifestName with
  | error error => rfl
  | ok manifest =>
      rw [parsed] at refused
      revert refused
      generalize Stateful.outcome (writeScaffold dir _) tree = written
      obtain ⟨result, reached⟩ := written
      cases result <;> simp

theorem kept_of_init (sound : tree.IsSound) {place : Location} {entry : FileEntry}
    (there : tree.get? place = some entry) :
    (Stateful.outcome (init dir rootNamespace) tree).2.get? place = some entry ∨
      ¬ tree.Returns (tree.start dir) (Path.steps dir) ∧
      place = tree.placeOf (Path.join dir "dalgen.toml") ∧
      (Stateful.outcome (init dir rootNamespace) tree).2.get? place =
        some (.text (NewManifest.ofNamespace rootNamespace).text) := by
  cases accepted : Manifest.parse (NewManifest.ofNamespace rootNamespace).text
    Scaffold.manifestName with
  | error error =>
      rw [outcome_init, accepted]
      exact .inl there
  | ok manifest =>
      rw [outcome_init_snd accepted]
      exact kept_of_writeScaffold (files_isBelow dir (.ofNamespace rootNamespace)) sound there

variable {report : InitReport}
  (ran : Stateful.outcome (init dir rootNamespace) tree = (.ok report, after))
  (sound : tree.IsSound)

include ran sound

theorem paths_of_init : report.files.map (·.path) = Scaffold.paths := by
  obtain ⟨manifest, files, -, written, rfl⟩ := outcome_init_eq_ok_iff.mp ran
  exact (present_of_writeScaffold (files_isBelow dir _) paths_apart sound written).2

theorem skipped_iff_of_init (returns : tree.Returns (tree.start dir) (Path.steps dir)) :
    ∀ file ∈ report.files,
      file.result = .skipped ↔ tree.get? (tree.placeOf (Path.join dir file.path)) ≠ none := by
  obtain ⟨manifest, files, -, written, rfl⟩ := outcome_init_eq_ok_iff.mp ran
  obtain ⟨-, rfl⟩ :=
    report_of_writeScaffold (files_isBelow dir _) paths_apart sound returns written
  intro file member
  obtain ⟨path, -, rfl⟩ := List.mem_map.mp member
  simp [expected]

theorem init_again {otherNamespace : String} {other : Manifest}
    (accepted : Manifest.parse (NewManifest.ofNamespace otherNamespace).text
      Scaffold.manifestName = .ok other) :
    Stateful.outcome (init dir otherNamespace) after =
      (.ok ⟨dir, otherNamespace, Scaffold.paths.map fun path => ⟨path, .skipped⟩⟩, after) := by
  obtain ⟨manifest, files, -, written, rfl⟩ := outcome_init_eq_ok_iff.mp ran
  obtain ⟨present, -⟩ := present_of_writeScaffold (files_isBelow dir _) paths_apart sound written
  exact outcome_init_eq_ok_iff.mpr
    ⟨other, _, accepted, outcome_writeScaffold_of_present (files_isBelow dir _) present, rfl⟩

end Start

/-- A refused namespace changes nothing.  Whatever comes of a start, everything that was there stays
as it was, but for one case: where the folder's own path goes back out of something that is no
folder yet, folders are made on its way, and a manifest that the path leads to only then is
replaced.  A start that succeeds reports the eight files, and where the path goes back out of
folders only, exactly those are skipped that were there before.  Any further start skips all eight
and changes nothing. -/
theorem init_replaces_only_unreached_manifest (dir rootNamespace : String) (tree : FileTree)
    (sound : tree.IsSound) :
    (∀ error, (Stateful.outcome (init dir rootNamespace) tree).1 =
        .error (.namespaceRefused rootNamespace error) →
      (Stateful.outcome (init dir rootNamespace) tree).2 = tree) ∧
    (∀ place entry, tree.get? place = some entry →
      (Stateful.outcome (init dir rootNamespace) tree).2.get? place = some entry ∨
        ¬ tree.Returns (tree.start dir) (Path.steps dir) ∧
        place = tree.placeOf (Path.join dir "dalgen.toml") ∧
        (Stateful.outcome (init dir rootNamespace) tree).2.get? place =
          some (.text (NewManifest.ofNamespace rootNamespace).text)) ∧
    ∀ report after, Stateful.outcome (init dir rootNamespace) tree = (.ok report, after) →
      report.files.map (·.path) = Scaffold.paths ∧
      (tree.Returns (tree.start dir) (Path.steps dir) → ∀ file ∈ report.files,
        file.result = .skipped ↔ tree.get? (tree.placeOf (Path.join dir file.path)) ≠ none) ∧
      ∀ otherNamespace manifest,
        Manifest.parse (NewManifest.ofNamespace otherNamespace).text Scaffold.manifestName =
          .ok manifest →
        Stateful.outcome (init dir otherNamespace) after =
          (.ok ⟨dir, otherNamespace, Scaffold.paths.map fun path => ⟨path, .skipped⟩⟩, after) :=
  ⟨fun _ => unchanged_of_refused, fun _ _ => kept_of_init sound, fun _ _ ran =>
    ⟨paths_of_init ran sound, skipped_iff_of_init ran sound, fun _ _ => init_again ran sound⟩⟩

theorem init_keeps_old_catalog :
    ∃ tree : FileTree, tree.IsSound ∧ tree.get? ["p", "schema.toml"] = some (.text "old") ∧
      (Stateful.outcome (init "p" "Shop") tree).2.get? ["p", "schema.toml"] =
        some (.text "old") := by
  let tree : FileTree := ⟨[(["p"], .folder), (["p", "schema.toml"], .text "old")], []⟩
  have sound : tree.IsSound := .of_entries rfl (by decide)
  obtain ⟨-, kept, -⟩ := init_replaces_only_unreached_manifest "p" "Shop" tree sound
  refine ⟨tree, sound, rfl, ?_⟩
  rcases kept ["p", "schema.toml"] (.text "old") rfl with kept | ⟨-, elsewhere, -⟩
  · exact kept
  · exact absurd elsewhere (by decide +kernel)

/-- The folder's path leads to an old manifest only once the folder that it goes back out of is
made, and that is after the look at what is there. -/
theorem init_replaces_manifest_behind_missing_folder :
    ∃ tree : FileTree, tree.IsSound ∧ tree.get? ["b", "dalgen.toml"] = some (.text "old") ∧
      (Stateful.outcome (init "a/../b" "Shop") tree).2.get? ["b", "dalgen.toml"] ≠
        some (.text "old") := by
  let tree : FileTree := ⟨[(["b"], .folder), (["b", "dalgen.toml"], .text "old")], []⟩
  have sound : tree.IsSound := .of_entries rfl (by decide)
  refine ⟨tree, sound, rfl, ?_⟩
  have names : IsNamespace "Shop" :=
    (ManifestPlace.checkNamespace_eq_ok_iff (.root "" "") "Shop" "").mp (by decide)
  have accepted := NewManifest.parse_text names Scaffold.manifestName
  let file := Scaffold.manifestFile "a/../b" (.ofNamespace "Shop") .ifMissing
  have path_eq : file.path = "a/../b/dalgen.toml" := (by decide +kernel :
    Path.join "a/../b" Scaffold.manifestName = "a/../b/dalgen.toml")
  have ran : Stateful.outcome file.write tree = (.ok .written,
      ⟨[(["b"], .folder), (["b", "dalgen.toml"], .text file.content), (["a"], .folder)], []⟩) := by
    have missing : ¬ tree.isPresent file.path = true := by
      rw [path_eq]
      decide +kernel
    rw [PlannedFile.outcome_write_ifMissing file rfl, if_neg missing,
      (outcome_force_eq_ok_iff _ _ _).mpr]
    · rfl
    · refine ⟨⟨tree.entries ++ [(["a"], .folder)], []⟩, ?_, ?_⟩
      · rw [path_eq]
        decide +kernel
      · rw [path_eq]
        exact (write_eq_ok_iff _ _ _ _).mpr ⟨["b"], "dalgen.toml", by decide +kernel, by decide,
          by decide +kernel, by decide, by decide, rfl⟩
  have replaced := text_of_first_written (files_isBelow "a/../b" (.ofNamespace "Shop")) sound ran
  have place_eq : tree.placeOf file.path = ["b", "dalgen.toml"] := by
    rw [path_eq]
    decide +kernel
  rw [place_eq] at replaced
  intro kept
  rw [outcome_init_snd accepted] at kept
  obtain ⟨below, text_eq⟩ := NewManifest.toList_text "Shop"
  have same : (NewManifest.ofNamespace "Shop").text = "old" :=
    FileEntry.text.inj (Option.some.inj (replaced.symm.trans kept))
  rw [same] at text_eq
  exact (by decide : some 'o' ≠ some '[') (congrArg List.head? text_eq)

end Project
end DataLayer

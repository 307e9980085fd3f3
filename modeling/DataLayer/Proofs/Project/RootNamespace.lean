import DataLayer.Files.Tree
import DataLayer.Project.Init
import DataLayer.Proofs.Document.Tree
import DataLayer.Proofs.Project.NewManifest
import DataLayer.Proofs.Stateful

/-!
# The namespace of a new project

The namespace of a new project is put between double quotes as it is given, and the manifest is
tried out before it is written.  A namespace that is no sequence of words with dots between them is
refused then, unless it brings quotes or escapes of its own.
-/

namespace DataLayer

/-- The root namespace, if the setting is one. -/
def ProjectEntry.rootNamespace? : ProjectEntry → Option String
  | .rootNamespace value => some value
  | _ => none

theorem rootNamespace_of_readProject {settings : List (String × Value)} {rootNamespace : String}
    (under : settings.lookup "namespace" = some (.text rootNamespace)) {project : ProjectSection}
    (read : readProject .toml (.record settings true) = .ok project) :
    project.rootNamespace = rootNamespace := by
  obtain ⟨found, entry, assembled, reads, picked⟩ :=
    RecordShape.exists_readsAs_of_read read under ProjectEntry.rootNamespace?
      fun named entry other reads => by
        obtain ⟨field, member, name_eq, entry_eq⟩ := reads.exists_field
        simp only [projectShape, List.mem_cons, List.not_mem_nil, or_false] at member
        rcases member with rfl | rfl | rfl
        · exact absurd name_eq.symm other
        all_goals
          obtain ⟨_, -, rfl⟩ := (Traversal.map_eq_ok_iff _ _ _).mp entry_eq
          rfl
  obtain ⟨field, field_eq, entry_eq⟩ := reads
  obtain rfl := Option.some.inj field_eq
  obtain rfl : ProjectEntry.rootNamespace rootNamespace = entry := Except.ok.inj entry_eq
  obtain ⟨written, required, project_eq⟩ := (Traversal.bind_eq_ok_iff _ _ _).mp assembled
  obtain rfl := Except.ok.inj project_eq
  have written_eq :=
    (congrArg (projectShape.required .named "namespace") picked).symm.trans required
  exact (Except.ok.inj written_eq).symm

/-- The settings of the project as a whole, if the section holds them. -/
def ManifestEntry.project? : ManifestEntry → Option ProjectSection
  | .project value => some value
  | _ => none

theorem rootNamespace_of_ofValue {sections settings : List (String × Value)}
    {rootNamespace : String}
    (under_project : sections.lookup "project" = some (.record settings true))
    (under_namespace : settings.lookup "namespace" = some (.text rootNamespace))
    {manifest : Manifest} (read : Manifest.ofValue .toml (.record sections true) = .ok manifest) :
    manifest.project.rootNamespace = rootNamespace := by
  obtain ⟨found, entry, assembled, reads, picked⟩ :=
    RecordShape.exists_readsAs_of_read read under_project ManifestEntry.project?
      fun named entry other reads => by
        obtain ⟨field, member, name_eq, entry_eq⟩ := reads.exists_field
        simp only [manifestShape, List.mem_cons, List.not_mem_nil, or_false] at member
        rcases member with rfl | rfl | rfl | rfl | rfl | rfl | rfl
        · exact absurd name_eq.symm other
        all_goals
          obtain ⟨_, -, rfl⟩ := (Traversal.map_eq_ok_iff _ _ _).mp entry_eq
          rfl
  obtain ⟨field, field_eq, entry_eq⟩ := reads
  obtain rfl := Option.some.inj field_eq
  obtain ⟨project, project_eq, rfl⟩ := (Traversal.map_eq_ok_iff _ _ _).mp entry_eq
  obtain ⟨written, required, rest⟩ := (Traversal.bind_eq_ok_iff _ _ _).mp assembled
  obtain ⟨_, -, manifest_eq⟩ := (Traversal.bind_eq_ok_iff _ _ _).mp rest
  obtain rfl := Except.ok.inj manifest_eq
  have written_eq :=
    (congrArg ((manifestShape .toml).required .named "project") picked).symm.trans required
  obtain rfl : project = written := Except.ok.inj written_eq
  exact rootNamespace_of_readProject under_namespace project_eq

namespace NewManifest

variable {rootNamespace : String}

theorem toList_text (rootNamespace : String) :
    ∃ below, (ofNamespace rootNamespace).text.toList =
      (Toml.headerLine "project").toList ++
        '\n' :: ((Toml.textLine "namespace" rootNamespace).toList ++ '\n' :: below) := by
  rw [text, lines, Text.toList_unlines_cons, Text.toList_unlines_cons]
  exact ⟨_, rfl⟩

/-- A namespace without quotes and escapes is the first thing that the manifest says. -/
theorem exists_record_of_plain (plain : Toml.IsPlainText rootNamespace.toList) {document : Value}
    (read : Toml.document? (ofNamespace rootNamespace).text = some document) :
    ∃ sections settings, document = .record sections true ∧
      sections.lookup "project" = some (.record settings true) ∧
      settings.lookup "namespace" = some (.text rootNamespace) := by
  obtain ⟨below, text_eq⟩ := toList_text rootNamespace
  have bare_project : Toml.IsBareKey "project".toList := by decide
  have bare_namespace : Toml.IsBareKey "namespace".toList := by decide
  have noMark : (ofNamespace rootNamespace).text.toList.head? ≠ some '\uFEFF' := by
    rw [text_eq]
    exact (by decide : some '[' ≠ some '\uFEFF')
  obtain ⟨fuel, fuel_eq⟩ :
      ∃ fuel, (ofNamespace rootNamespace).text.toList.length + 1 = fuel + 1 + 1 := by
    rw [text_eq]
    exact ⟨_, rfl⟩
  rw [Toml.document?, Toml.dropByteOrderMark_of_head? noMark] at read
  obtain ⟨statements, said, document_eq⟩ := Option.bind_eq_some_iff.mp read
  rw [fuel_eq, text_eq] at said
  have first_read := Toml.says_headerLine bare_project (fuel + 1)
    ((Toml.textLine "namespace" rootNamespace).toList ++ '\n' :: below)
  simp only [Option.toList_some, List.length_singleton] at first_read
  rw [first_read, Toml.statements?_textLine bare_namespace plain] at said
  obtain ⟨later, later_read, rfl⟩ := Option.map_eq_some_iff.mp said
  split_ifs at later_read
  obtain ⟨others, -, rfl⟩ := Option.map_eq_some_iff.mp later_read
  exact Toml.exists_record_of_first_assignment document_eq

end NewManifest

theorem IsNamespace.isPlainText {name : String} (names : IsNamespace name) :
    Toml.IsPlainText name.toList := by
  constructor
  · intro member
    exact absurd (names.eq_dot_or_isIdentifierChar member) (by decide)
  · intro member
    exact absurd (names.eq_dot_or_isIdentifierChar member) (by decide)

/-- A new manifest that is accepted keeps the namespace, and the namespace is one, exactly when no
quote and no escape stands in it. -/
theorem NewManifest.isNamespace_and_rootNamespace_eq_iff {rootNamespace file : String}
    {manifest : Manifest}
    (accepted : Manifest.parse (ofNamespace rootNamespace).text file = .ok manifest) :
    IsNamespace rootNamespace ∧ manifest.project.rootNamespace = rootNamespace ↔
      Toml.IsPlainText rootNamespace.toList := by
  obtain ⟨read, acceptable⟩ := (Manifest.parse_eq_ok_iff _ _ _).mp accepted
  refine ⟨fun kept => kept.1.isPlainText, fun plain => ?_⟩
  rw [DocumentFormat.read] at read
  cases document_eq : Toml.document? (ofNamespace rootNamespace).text with
  | none => simp [document_eq] at read
  | some document =>
      obtain ⟨sections, settings, rfl, under_project, under_namespace⟩ :=
        exists_record_of_plain plain document_eq
      simp only [document_eq] at read
      have kept := rootNamespace_of_ofValue under_project under_namespace read
      exact ⟨kept ▸ acceptable.rootNamespace, kept⟩

namespace Project

/-- A namespace is refused before anything is written. -/
theorem outcome_init (dir rootNamespace : String) (tree : FileTree) :
    Stateful.outcome (init dir rootNamespace) tree =
      match Manifest.parse (NewManifest.ofNamespace rootNamespace).text Scaffold.manifestName with
      | .error error => (.error (.namespaceRefused rootNamespace error), tree)
      | .ok _ =>
        match Stateful.outcome (writeScaffold dir
          (Scaffold.files dir (.ofNamespace rootNamespace))) tree with
        | (.ok files, after) => (.ok ⟨dir, rootNamespace, files⟩, after)
        | (.error error, after) => (.error (.scaffold error), after) := by
  unfold init
  cases parsed : Manifest.parse (NewManifest.ofNamespace rootNamespace).text
    Scaffold.manifestName with
  | error error =>
      simp only [parsed]
      rfl
  | ok manifest =>
      simp only [parsed, Stateful.outcome_bind, Stateful.outcome_adapt]
      generalize Stateful.outcome (writeScaffold dir _) tree = written
      obtain ⟨result, after⟩ := written
      cases result <;> rfl

theorem exists_parse_of_unrefused {dir rootNamespace : String} {tree : FileTree}
    (unrefused : ∀ error, (Stateful.outcome (init dir rootNamespace) tree).1 ≠
      .error (.namespaceRefused rootNamespace error)) :
    ∃ manifest, Manifest.parse (NewManifest.ofNamespace rootNamespace).text
      Scaffold.manifestName = .ok manifest := by
  cases parsed : Manifest.parse (NewManifest.ofNamespace rootNamespace).text
    Scaffold.manifestName with
  | ok manifest => exact ⟨manifest, rfl⟩
  | error error =>
      rw [outcome_init, parsed] at unrefused
      exact absurd rfl (unrefused error)

theorem unrefused_of_parse {rootNamespace : String} {manifest : Manifest}
    (accepted : Manifest.parse (NewManifest.ofNamespace rootNamespace).text Scaffold.manifestName =
      .ok manifest) (dir : String) (tree : FileTree) (error : ManifestError) :
    (Stateful.outcome (init dir rootNamespace) tree).1 ≠
      .error (.namespaceRefused rootNamespace error) := by
  rw [outcome_init, accepted]
  generalize Stateful.outcome (writeScaffold dir _) tree = written
  obtain ⟨result, after⟩ := written
  cases result <;> simp

/-- When a namespace gets past the manifest check of a new project, it consists of words that are
not reserved, and the manifest gives it back as it was, exactly if no quote and no backslash stands
in it.  A namespace with a quote may close the quoted text in the manifest, and one with a backslash
may be an escape there, and so stand for another namespace. -/
theorem init_keeps_namespace_iff_plain (dir rootNamespace : String) (tree : FileTree)
    (unrefused : ∀ error, (Stateful.outcome (init dir rootNamespace) tree).1 ≠
      .error (.namespaceRefused rootNamespace error)) :
    ∃ manifest, Manifest.parse (NewManifest.ofNamespace rootNamespace).text
        Scaffold.manifestName = .ok manifest ∧
      (IsDottedName rootNamespace ∧ manifest.project.rootNamespace = rootNamespace ↔
        '"' ∉ rootNamespace.toList ∧ '\\' ∉ rootNamespace.toList) := by
  obtain ⟨manifest, accepted⟩ := exists_parse_of_unrefused unrefused
  refine ⟨manifest, accepted, ?_⟩
  rw [← isNamespace_iff]
  exact NewManifest.isNamespace_and_rootNamespace_eq_iff accepted

theorem init_keeps_plain_namespace :
    ∃ (dir rootNamespace : String) (tree : FileTree),
      (∀ error, (Stateful.outcome (init dir rootNamespace) tree).1 ≠
        .error (.namespaceRefused rootNamespace error)) ∧
      '"' ∉ rootNamespace.toList ∧ '\\' ∉ rootNamespace.toList ∧ IsDottedName rootNamespace ∧
      ∃ manifest, Manifest.parse (NewManifest.ofNamespace rootNamespace).text
          Scaffold.manifestName = .ok manifest ∧
        manifest.project.rootNamespace = rootNamespace := by
  have names : IsNamespace "Shop.Data" :=
    (ManifestPlace.checkNamespace_eq_ok_iff (.root "" "") "Shop.Data" "").mp (by decide)
  have plain : '"' ∉ "Shop.Data".toList ∧ '\\' ∉ "Shop.Data".toList := by decide
  let tree : FileTree := ⟨[(["p"], .folder)], []⟩
  have unrefused := unrefused_of_parse (NewManifest.parse_text names _) "p" tree
  obtain ⟨manifest, accepted, kept_iff⟩ :=
    init_keeps_namespace_iff_plain "p" "Shop.Data" tree unrefused
  obtain ⟨dotted, kept⟩ := kept_iff.mpr plain
  exact ⟨"p", "Shop.Data", tree, unrefused, plain.1, plain.2, dotted, manifest, accepted, kept⟩

/-- A quote in the namespace ends it early: the manifest names the namespace in front of the quote,
and what follows is a comment. -/
theorem init_accepts_quoted_namespace :
    (∀ error, (Stateful.outcome (init "p" "A.B\" #") (FileTree.mk [(["p"], .folder)] [])).1 ≠
      .error (.namespaceRefused "A.B\" #" error)) ∧
    ¬ IsDottedName "A.B\" #" ∧
    ∃ manifest, Manifest.parse (NewManifest.ofNamespace "A.B\" #").text Scaffold.manifestName =
        .ok manifest ∧ manifest.project.rootNamespace = "A.B" := by
  let new : NewManifest := ⟨"A.B\" #", "AContext", "A"⟩
  have new_eq : NewManifest.ofNamespace "A.B\" #" = new := by decide
  have line : Toml.Says (Toml.textLine "namespace" "A.B\" #").toList
      (some (.assignment [] "namespace" (.text "A.B"))) := by
    have line_eq : (Toml.textLine "namespace" "A.B\" #").toList =
        "namespace".toList ++ ' ' :: '=' :: ' ' :: '"' :: "A.B\" #\"".toList := by decide
    have bare : Toml.IsBareKey "namespace".toList := by decide
    rw [line_eq]
    refine Toml.says_of_statement? (bare.startsStatement.append _) fun rest =>
      ⟨' ' :: '#' :: '"' :: '\n' :: rest, ?_, rfl, rfl⟩
    rw [List.append_assoc]
    exact Toml.statement?_assignment bare '"' rfl _
  have names : IsNamespace "A.B" :=
    (ManifestPlace.checkNamespace_eq_ok_iff (.root "" "") "A.B" "").mp (by decide)
  have accepted : Manifest.parse new.text Scaffold.manifestName =
      .ok ({ new with rootNamespace := "A.B" } : NewManifest).settings :=
    (Manifest.parse_eq_ok_iff _ _ _).mpr
      ⟨NewManifest.read_text new line (List.all_eq_true.mp (by decide))
        (List.all_eq_true.mp (by decide)),
        NewManifest.isAcceptable_settings names⟩
  rw [← new_eq] at accepted
  refine ⟨unrefused_of_parse accepted _ _, fun dotted => ?_, _, accepted, rfl⟩
  exact ((isNamespace_iff _).mpr dotted).isPlainText.1 (by decide)

end Project
end DataLayer

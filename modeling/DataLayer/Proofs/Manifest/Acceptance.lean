import DataLayer.Manifest.Parse
import DataLayer.Proofs.Files.Path
import DataLayer.Proofs.Traversal

/-!
# Acceptable manifests

A manifest is accepted when its text reads as one and each of its settings follows the rules for its
kind of name.  The place at which a setting is checked only matters for the error.
-/

namespace DataLayer

/-- The name is an identifier. -/
def IsIdentifier (name : String) : Prop :=
  ∃ first others, name.toList = first :: others ∧ isIdentifierStart first = true ∧
    ∀ c ∈ others, isIdentifierChar c = true

theorem identifierFault?_eq_none_iff (name : String) :
    identifierFault? name = none ↔ IsIdentifier name := by
  unfold identifierFault? IsIdentifier
  cases name.toList with
  | nil => simp
  | cons first others => cases started : isIdentifierStart first <;> simp [started]

theorem IsIdentifier.isIdentifierChar {name : String} (identifier : IsIdentifier name) {c : Char}
    (member : c ∈ name.toList) : isIdentifierChar c = true := by
  obtain ⟨first, others, name_eq, start, rest⟩ := identifier
  rw [name_eq] at member
  rcases List.mem_cons.mp member with rfl | later
  · simp only [isIdentifierStart, Bool.or_eq_true] at start
    simp only [DataLayer.isIdentifierChar, Char.isAlphanum, Bool.or_eq_true]
    exact start.imp_left .inl
  · exact rest c later

/-- The name can be given to a type: it is an identifier and not a reserved word. -/
structure IsTypeName (name : String) : Prop where
  identifier : IsIdentifier name
  unreserved : name ∉ csharpKeywords

/-- The name consists of type names with dots between them. -/
def IsNamespace (name : String) : Prop :=
  ∀ part ∈ Text.splitAtChar '.' name, IsTypeName part

/-- The name can be given to a folder of generated files. -/
structure IsFolderName (name : String) : Prop extends Path.IsName name where
  /-- Something of it can be seen. -/
  visible : Text.isBlank name = false
  noBackslash : '\\' ∉ name.toList

theorem folderFault?_eq_none_iff (name : String) :
    folderFault? name = none ↔ IsFolderName name := by
  unfold folderFault?
  constructor
  · intro faultless
    split_ifs at faultless with blank slashed marker
    simp only [List.any_eq_true, not_exists, not_and, Bool.or_eq_true, beq_iff_eq,
      not_or] at slashed
    obtain ⟨notSelf, notParent⟩ := not_or.mp marker
    have nonempty : name ≠ "" := by
      rintro rfl
      exact blank Text.isBlank_empty
    exact ⟨⟨fun member => (slashed _ member).1 rfl, nonempty, notSelf, notParent⟩,
      by simpa using blank, fun member => (slashed _ member).2 rfl⟩
  · rintro ⟨⟨noSlash, -, notSelf, notParent⟩, visible, noBackslash⟩
    have unslashed : ¬ (name.toList.any fun c => c == '/' || c == '\\') = true := by
      simp only [List.any_eq_true, Bool.or_eq_true, beq_iff_eq]
      rintro ⟨c, member, rfl | rfl⟩
      · exact noSlash member
      · exact noBackslash member
    rw [if_neg (by simp [visible]), if_neg unslashed, if_neg (by simp [notSelf, notParent])]

/-- The text can be the extension of generated files. -/
structure IsExtension (extension : String) : Prop where
  nonempty : extension ≠ ""
  alphanumeric : ∀ c ∈ extension.toList, c.isAlphanum = true

theorem extensionFault?_eq_none_iff (extension : String) :
    extensionFault? extension = none ↔ IsExtension extension := by
  unfold extensionFault?
  split
  case h_1 empty =>
    refine iff_of_false (by simp) ?_
    exact fun valid => valid.nonempty (String.toList_eq_nil_iff.mp empty)
  case h_2 rest dotted =>
    refine iff_of_false (by simp) ?_
    exact fun valid => absurd (valid.alphanumeric '.' (by simp [dotted])) (by decide)
  case h_3 nonempty _ =>
    constructor
    · intro faultless
      split_ifs at faultless with alphanumeric
      exact ⟨mt String.toList_eq_nil_iff.mpr nonempty, List.all_eq_true.mp alphanumeric⟩
    · intro valid
      rw [if_pos (List.all_eq_true.mpr valid.alphanumeric)]

theorem IsExtension.isName {extension : String} (valid : IsExtension extension) {name : String}
    (noSlash : '/' ∉ name.toList) : Path.IsName (name ++ "." ++ extension) := by
  obtain ⟨c, others, extension_eq⟩ :=
    List.exists_cons_of_ne_nil (mt String.toList_eq_nil_iff.mp valid.nonempty)
  have alphanumeric : c.isAlphanum = true := valid.alphanumeric c (by simp [extension_eq])
  have notDot : c ≠ '.' := by
    rintro rfl
    exact absurd alphanumeric (by decide)
  have member : c ∈ (name ++ "." ++ extension).toList := by simp [extension_eq]
  refine Path.IsName.of_mem ?_ member notDot
  simp only [String.toList_append, List.mem_append, not_or]
  exact ⟨⟨noSlash, by decide⟩, fun slash => absurd (valid.alphanumeric _ slash) (by decide)⟩

namespace ManifestPlace

variable (place : ManifestPlace)

theorem checkPart_eq_ok_iff (whole kind part : String) :
    place.checkPart whole kind part = .ok () ↔ IsTypeName part := by
  rw [checkPart]
  constructor
  · intro passed
    split_ifs at passed with reserved
    cases fault : identifierFault? part with
    | some _ => simp [fault] at passed
    | none =>
        refine ⟨(identifierFault?_eq_none_iff part).mp fault, fun member => reserved ?_⟩
        exact List.contains_iff_mem.mpr member
  · rintro ⟨identifier, unreserved⟩
    have not_reserved : ¬ isKeyword part = true := mt List.contains_iff_mem.mp unreserved
    rw [if_neg not_reserved, (identifierFault?_eq_none_iff part).mpr identifier]

theorem checkName_eq_ok_iff (name kind : String) :
    place.checkName name kind = .ok () ↔ IsTypeName name :=
  place.checkPart_eq_ok_iff name kind name

theorem checkNamespace_eq_ok_iff (name kind : String) :
    place.checkNamespace name kind = .ok () ↔ IsNamespace name := by
  rw [checkNamespace, Traversal.forM_eq_ok_iff]
  exact forall₂_congr fun part _ => place.checkPart_eq_ok_iff name kind part

theorem checkFolder_eq_ok_iff (folder : String) :
    place.checkFolder folder = .ok () ↔ IsFolderName folder := by
  rw [← folderFault?_eq_none_iff, checkFolder]
  cases folderFault? folder <;> simp

theorem checkExtension_eq_ok_iff (extension : String) :
    place.checkExtension extension = .ok () ↔ IsExtension extension := by
  rw [← extensionFault?_eq_none_iff, checkExtension]
  cases extensionFault? extension <;> simp

end ManifestPlace

namespace Manifest

/-- Every setting of the manifest follows the rules for its kind. -/
structure IsAcceptable (manifest : Manifest) : Prop where
  rootNamespace : IsNamespace manifest.project.rootNamespace
  extension : IsExtension manifest.project.extension
  contextName : IsTypeName manifest.context.name
  modelsFolder : IsFolderName manifest.models.folder
  modelsNamespace : IsNamespace manifest.models.groupNamespace
  repositoriesFolder : IsFolderName manifest.repositories.folder
  repositoriesNamespace : IsNamespace manifest.repositories.groupNamespace
  foldersDiffer : manifest.models.folder ≠ manifest.repositories.folder

theorem check_eq_ok_iff (manifest : Manifest) (place : ManifestPlace) :
    manifest.check place = .ok () ↔ manifest.IsAcceptable := by
  simp only [check, Traversal.check_bind_eq_ok_iff, ManifestPlace.checkNamespace_eq_ok_iff,
    ManifestPlace.checkExtension_eq_ok_iff, ManifestPlace.checkName_eq_ok_iff,
    ManifestPlace.checkFolder_eq_ok_iff]
  constructor
  · rintro ⟨rootNamespace, extension, contextName, modelsFolder, modelsNamespace,
      repositoriesFolder, repositoriesNamespace, folders⟩
    refine ⟨rootNamespace, extension, contextName, modelsFolder, modelsNamespace,
      repositoriesFolder, repositoriesNamespace, fun same => ?_⟩
    simp [same] at folders
  · rintro ⟨rootNamespace, extension, contextName, modelsFolder, modelsNamespace,
      repositoriesFolder, repositoriesNamespace, foldersDiffer⟩
    refine ⟨rootNamespace, extension, contextName, modelsFolder, modelsNamespace,
      repositoriesFolder, repositoriesNamespace, ?_⟩
    rw [if_neg foldersDiffer]
    rfl

/-- A manifest is accepted exactly when the text reads as one that is acceptable. -/
theorem parse_eq_ok_iff (source file : String) (manifest : Manifest) :
    parse source file = .ok manifest ↔
      DocumentFormat.toml.read ofValue source = .ok manifest ∧ manifest.IsAcceptable := by
  rw [parse]
  cases DocumentFormat.toml.read ofValue source with
  | error problem => simp
  | ok read =>
      simp only [Traversal.check_bind_eq_ok_iff, check_eq_ok_iff, Traversal.pure_eq_ok_iff,
        Except.ok.injEq]
      constructor
      · rintro ⟨acceptable, rfl⟩
        exact ⟨rfl, acceptable⟩
      · rintro ⟨rfl, acceptable⟩
        exact ⟨acceptable, rfl⟩

theorem parse_of_document {source : String} {document : Value} {manifest : Manifest}
    (document_eq : Toml.document? source = some document)
    (read : ofValue .toml document = .ok manifest) (file : String) :
    parse source file = (manifest.check (.root source file)).map fun _ => manifest := by
  rw [parse, DocumentFormat.read, document_eq]
  simp only [read]
  rfl

/-- What has no default, and perhaps the name of the data context and the namespace of the entity
classes. -/
theorem ofValue_brief (rootNamespace path : String) (contextName modelNamespace : Option String) :
    ofValue .toml (.record ([("project", .record [("namespace", .text rootNamespace)] true),
        ("catalog", .record [("path", .text path)] true)] ++
      (contextName.map fun name => ("context", Value.record [("name", .text name)] true)).toList ++
      (modelNamespace.map fun name =>
        ("models", Value.record [("namespace", .text name)] true)).toList) true) =
      .ok {
        project := ⟨rootNamespace, false, "cs"⟩
        catalog := ⟨path⟩
        context := ⟨contextName.getD "ModelContext", none⟩
        models := ⟨"Models", modelNamespace.getD "Models"⟩ } := by
  cases contextName <;> cases modelNamespace <;>
    simp [ofValue, manifestShape, readProject, projectShape, readCatalogSection, catalogShape,
      readContext, contextShape, readGroup, groupShape, RecordShape.read,
      DocumentFormat.visitOrder, sortByName, List.mergeSort, RecordShape.readNamed, ofEntries,
      RecordShape.required, RecordShape.optional, Value.asText, Value.asPath, bind, Except.bind,
      pure, Except.pure, Except.map, GroupSection.models]

end Manifest
end DataLayer

import DataLayer.Proofs.Manifest.Grammar

/-!
# The first fault of a manifest

The settings of a manifest are looked at in a fixed order.  A manifest that reads well is refused
for the first rule that it breaks, and in a namespace for the leftmost part that is at fault.
-/

namespace DataLayer

/-- The error blames a part of a name: for being reserved, or for what it lacks to be a word. -/
inductive BlamesPart (source file context whole part : String) : ManifestError → Prop where
  /-- A reserved word is blamed itself. -/
  | reserved : part ∈ csharpKeywords →
      BlamesPart source file context whole part
        (.reservedKeyword file (Text.valueSpan? source whole) part context)
  /-- For a part that is no word, the whole name is blamed. -/
  | noWord {fault} : part ∉ csharpKeywords → IsNoWord part fault →
      BlamesPart source file context whole part
        (.invalidIdentifier file (Text.valueSpan? source whole) whole context fault)

/-- The error blames the leftmost part at fault in a name with dots. -/
def BlamesName (source file context name : String) (error : ManifestError) : Prop :=
  ∃ front part back, HasParts name (front ++ part :: back) ∧
    (∀ earlier ∈ front, IsFreeWord earlier) ∧ BlamesPart source file context name part error

/-- The error blames the name of a folder. -/
def BlamesFolder (source file context folder : String) (error : ManifestError) : Prop :=
  ∃ fault, IsNoFolder folder fault ∧
    error = .invalidSetting file (Text.valueSpan? source folder) (.folder fault context)

/-- The error blames the extension of generated files. -/
def BlamesExtension (source file extension : String) (error : ManifestError) : Prop :=
  ∃ fault, IsNoExtension extension fault ∧
    error = .invalidSetting file (Text.valueSpan? source extension) (.extension fault)

namespace ManifestPlace

variable (place : ManifestPlace)

theorem checkPart_eq_error_iff (whole kind part : String) (error : ManifestError) :
    place.checkPart whole kind part = .error error ↔
      BlamesPart place.source place.file (place.contextOf kind) whole part error := by
  have reserved_iff : isKeyword part = true ↔ part ∈ csharpKeywords := List.contains_iff_mem
  rw [checkPart]
  constructor
  · intro failed
    split_ifs at failed with reserved
    · obtain rfl := Except.error.inj failed
      exact .reserved (reserved_iff.mp reserved)
    · cases fault_eq : identifierFault? part with
      | none => simp [fault_eq] at failed
      | some fault =>
          simp only [fault_eq, Except.error.injEq] at failed
          subst failed
          exact .noWord (mt reserved_iff.mpr reserved)
            ((identifierFault?_eq_some_iff _ _).mp fault_eq)
  · rintro (reserved | ⟨unreserved, noWord⟩)
    · rw [if_pos (reserved_iff.mpr reserved), spanOf]
    · rw [if_neg (mt reserved_iff.mp unreserved), (identifierFault?_eq_some_iff _ _).mpr noWord,
        spanOf]

theorem checkNamespace_eq_error_iff (name kind : String) (error : ManifestError) :
    place.checkNamespace name kind = .error error ↔
      BlamesName place.source place.file (place.contextOf kind) name error := by
  rw [checkNamespace, Traversal.forM_eq_error_iff]
  simp only [splitAtChar_dot_eq_iff, checkPart_eq_ok_iff, isTypeName_iff, checkPart_eq_error_iff,
    BlamesName]

theorem checkFolder_eq_error_iff (folder : String) (error : ManifestError) :
    place.checkFolder folder = .error error ↔
      BlamesFolder place.source place.file (place.contextOf "folder") folder error := by
  simp only [BlamesFolder, ← folderFault?_eq_some_iff, checkFolder, spanOf]
  cases folderFault? folder <;> simp [eq_comm]

theorem checkExtension_eq_error_iff (extension : String) (error : ManifestError) :
    place.checkExtension extension = .error error ↔
      BlamesExtension place.source place.file extension error := by
  simp only [BlamesExtension, ← extensionFault?_eq_some_iff, checkExtension, spanOf]
  cases extensionFault? extension <;> simp [eq_comm]

end ManifestPlace

/-- What is asked of the settings of a manifest. -/
inductive ManifestRule where
  /-- The root namespace is one. -/
  | rootNamespace
  /-- The extension of generated files is one. -/
  | extension
  /-- The data context can have its name. -/
  | contextName
  /-- The entity classes go into one folder. -/
  | modelsFolder
  /-- The namespace of the entity classes is one. -/
  | modelsNamespace
  /-- The repository classes go into one folder. -/
  | repositoriesFolder
  /-- The namespace of the repository classes is one. -/
  | repositoriesNamespace
  /-- The two folders are different ones. -/
  | foldersDiffer
  deriving Repr, DecidableEq

namespace ManifestRule

/-- The rules in the order in which they are looked at. -/
def inOrder : List ManifestRule :=
  [rootNamespace, extension, contextName, modelsFolder, modelsNamespace, repositoriesFolder,
    repositoriesNamespace, foldersDiffer]

theorem mem_inOrder (rule : ManifestRule) : rule ∈ inOrder := by
  cases rule <;> decide

/-- The manifest follows the rule. -/
def Holds (manifest : Manifest) : ManifestRule → Prop
  | rootNamespace => IsDottedName manifest.project.rootNamespace
  | extension => IsAlphanumeric manifest.project.extension
  | contextName => IsFreeWord manifest.context.name
  | modelsFolder => IsOneFolder manifest.models.folder
  | modelsNamespace => IsDottedName manifest.models.groupNamespace
  | repositoriesFolder => IsOneFolder manifest.repositories.folder
  | repositoriesNamespace => IsDottedName manifest.repositories.groupNamespace
  | foldersDiffer => manifest.models.folder ≠ manifest.repositories.folder

/-- The manifest, read from a text under the name of its file, breaks the rule, and the error says
how. -/
def Blames (source file : String) (manifest : Manifest) : ManifestRule → ManifestError → Prop
  | rootNamespace =>
    BlamesName source file "namespace in 'project'" manifest.project.rootNamespace
  | extension => BlamesExtension source file manifest.project.extension
  | contextName =>
    BlamesPart source file "context name in 'context'" manifest.context.name manifest.context.name
  | modelsFolder => BlamesFolder source file "folder in 'models'" manifest.models.folder
  | modelsNamespace =>
    BlamesName source file "namespace in 'models'" manifest.models.groupNamespace
  | repositoriesFolder =>
    BlamesFolder source file "folder in 'repositories'" manifest.repositories.folder
  | repositoriesNamespace =>
    BlamesName source file "namespace in 'repositories'" manifest.repositories.groupNamespace
  | foldersDiffer => fun error =>
    manifest.models.folder = manifest.repositories.folder ∧
      error = .invalidSetting file (Text.valueSpan? source manifest.repositories.folder)
        .sharedFolder

/-- The check for the rule. -/
def check (source file : String) (manifest : Manifest) : ManifestRule → Except ManifestError Unit
  | rootNamespace =>
    ManifestPlace.checkNamespace ⟨source, file, ["project"]⟩ manifest.project.rootNamespace
      "namespace"
  | extension => ManifestPlace.checkExtension ⟨source, file, ["project"]⟩ manifest.project.extension
  | contextName =>
    ManifestPlace.checkName ⟨source, file, ["context"]⟩ manifest.context.name "context name"
  | modelsFolder => ManifestPlace.checkFolder ⟨source, file, ["models"]⟩ manifest.models.folder
  | modelsNamespace =>
    ManifestPlace.checkNamespace ⟨source, file, ["models"]⟩ manifest.models.groupNamespace
      "namespace"
  | repositoriesFolder =>
    ManifestPlace.checkFolder ⟨source, file, ["repositories"]⟩ manifest.repositories.folder
  | repositoriesNamespace =>
    ManifestPlace.checkNamespace ⟨source, file, ["repositories"]⟩
      manifest.repositories.groupNamespace "namespace"
  | foldersDiffer =>
    if manifest.models.folder = manifest.repositories.folder then
      .error (.invalidSetting file (Text.valueSpan? source manifest.repositories.folder)
        .sharedFolder)
    else .ok ()

variable {source file : String} {manifest : Manifest} {rule : ManifestRule}

theorem check_eq_ok_iff : check source file manifest rule = .ok () ↔ rule.Holds manifest := by
  cases rule <;>
    simp only [check, Holds, ManifestPlace.checkNamespace_eq_ok_iff,
      ManifestPlace.checkExtension_eq_ok_iff, ManifestPlace.checkName_eq_ok_iff,
      ManifestPlace.checkFolder_eq_ok_iff, isNamespace_iff, isExtension_iff, isTypeName_iff,
      isFolderName_iff]
  split_ifs with same <;> simp [same]

theorem check_eq_error_iff {error : ManifestError} :
    check source file manifest rule = .error error ↔ rule.Blames source file manifest error := by
  cases rule with
  | rootNamespace => exact ManifestPlace.checkNamespace_eq_error_iff _ _ _ _
  | extension => exact ManifestPlace.checkExtension_eq_error_iff _ _ _
  | contextName => exact ManifestPlace.checkPart_eq_error_iff _ _ _ _ _
  | modelsFolder => exact ManifestPlace.checkFolder_eq_error_iff _ _ _
  | modelsNamespace => exact ManifestPlace.checkNamespace_eq_error_iff _ _ _ _
  | repositoriesFolder => exact ManifestPlace.checkFolder_eq_error_iff _ _ _
  | repositoriesNamespace => exact ManifestPlace.checkNamespace_eq_error_iff _ _ _ _
  | foldersDiffer =>
      rw [check, Blames]
      split_ifs with same <;> simp [same, eq_comm]

end ManifestRule

namespace Manifest

theorem check_eq_forM (source file : String) (manifest : Manifest) :
    manifest.check (.root source file) =
      ManifestRule.inOrder.forM (ManifestRule.check source file manifest) := by
  have last_eq : ManifestRule.check source file manifest .foldersDiffer =
      [ManifestRule.foldersDiffer].forM (ManifestRule.check source file manifest) := by
    change _ = ManifestRule.check source file manifest .foldersDiffer >>= fun _ => pure ()
    cases ManifestRule.check source file manifest .foldersDiffer <;> rfl
  have rules_eq : ManifestRule.inOrder.forM (ManifestRule.check source file manifest) =
      [ManifestRule.rootNamespace, .extension, .contextName, .modelsFolder, .modelsNamespace,
        .repositoriesFolder, .repositoriesNamespace].foldr
          (fun rule rest => ManifestRule.check source file manifest rule >>= fun _ => rest)
          (ManifestRule.check source file manifest .foldersDiffer) := by
    rw [last_eq]
    rfl
  rw [rules_eq]
  rfl

/-- A manifest is accepted when its text reads as one that follows all rules.  Otherwise the error
tells that the text does not read as a manifest, or it blames the first rule that is broken. -/
theorem parse_blames_first_fault (source file : String) :
    (∀ manifest, parse source file = .ok manifest ↔
      DocumentFormat.toml.read ofValue source = .ok manifest ∧
        ∀ rule, ManifestRule.Holds manifest rule) ∧
    ∀ error, parse source file = .error error ↔
      (∃ problem, DocumentFormat.toml.read ofValue source = .error problem ∧
        error = .unparsable file problem) ∨
      ∃ manifest, DocumentFormat.toml.read ofValue source = .ok manifest ∧
        ∃ front rule back, ManifestRule.inOrder = front ++ rule :: back ∧
          (∀ earlier ∈ front, earlier.Holds manifest) ∧
          rule.Blames source file manifest error := by
  rw [parse]
  cases DocumentFormat.toml.read ofValue source with
  | error problem => simp [eq_comm]
  | ok read =>
      simp only [Traversal.check_bind_eq_ok_iff, Traversal.bind_eq_error_iff, check_eq_forM,
        Traversal.forM_eq_ok_iff, Traversal.forM_eq_error_iff, ManifestRule.check_eq_ok_iff,
        ManifestRule.check_eq_error_iff, Traversal.pure_eq_ok_iff, Except.ok.injEq]
      constructor
      · intro manifest
        constructor
        · rintro ⟨each, rfl⟩
          exact ⟨rfl, fun rule => each rule rule.mem_inOrder⟩
        · rintro ⟨rfl, each⟩
          exact ⟨fun rule _ => each rule, rfl⟩
      · intro error
        simp [Traversal.pure_ne_error]

end Manifest
end DataLayer

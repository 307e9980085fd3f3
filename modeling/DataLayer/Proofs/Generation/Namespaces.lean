import DataLayer.Proofs.Manifest.Grammar
import DataLayer.Proofs.Template.Concatenation
import DataLayer.Proofs.Template.Frame
import DataLayer.Proofs.Text.LineForms
import DataLayer.Template.Source

/-!
# Namespaces of generated code

Two namespaces with a dot between them are a namespace.  So the namespaces that the built-in frames
put together are as good as those of the manifest, and whatever template mentions them receives
letters, digits, underscores and dots.
-/

namespace DataLayer

/-- A dot joins namespaces, and nothing else, into a namespace. -/
theorem isNamespace_append_iff (front back : String) :
    IsNamespace (front ++ "." ++ back) ↔ IsNamespace front ∧ IsNamespace back := by
  have parts_eq : Text.splitAtChar '.' (front ++ "." ++ back) =
      Text.splitAtChar '.' front ++ Text.splitAtChar '.' back :=
    Text.splitAtChar_append '.' front back
  rw [IsNamespace, parts_eq, List.forall_mem_append, IsNamespace, IsNamespace]

theorem ManifestPlace.checkNamespace_append_iff (place : ManifestPlace) (front back kind : String) :
    place.checkNamespace (front ++ "." ++ back) kind = .ok () ↔
      place.checkNamespace front kind = .ok () ∧ place.checkNamespace back kind = .ok () := by
  simp only [checkNamespace_eq_ok_iff, isNamespace_append_iff]

/-- The character can stand in a namespace. -/
def IsNamespaceChar (c : Char) : Prop :=
  ContinuesWord c ∨ c = '.'

theorem IsNamespace.isNamespaceChar {name : String} (names : IsNamespace name) {c : Char}
    (member : c ∈ name.toList) : IsNamespaceChar c :=
  (names.eq_dot_or_isIdentifierChar member).symm.imp_left (isIdentifierChar_iff c).mp

theorem IsTypeName.isNamespaceChar {name : String} (names : IsTypeName name) {c : Char}
    (member : c ∈ name.toList) : IsNamespaceChar c :=
  .inl ((isIdentifierChar_iff c).mp (names.identifier.isIdentifierChar member))

namespace OutputGroup

/-- The group that the frame of a group imports. -/
def other : OutputGroup → OutputGroup
  | models => repositories
  | repositories => models

/-- The field with the namespace of a group. -/
def namespaceField : OutputGroup → String
  | models => "ModelNamespace"
  | repositories => "RepositoryNamespace"

/-- The lines of a built-in frame that imports one namespace and opens another. -/
def frameLines (group : OutputGroup) (imported opened : String) : List String :=
  group.frame.builtinLines.take 10 ++ [
    "using " ++ imported ++ ";",
    "",
    "namespace " ++ opened,
    "\x7b",
    Template.blockMarker Template.placeholder,
    "\x7d"]

end OutputGroup

namespace Config

/-- The namespace of a group below that of the project. -/
def groupNamespace (config : Config) : OutputGroup → String
  | .models => config.models.groupNamespace
  | .repositories => config.repositories.groupNamespace

/-- The namespace of a group. -/
def fullNamespace (config : Config) (group : OutputGroup) : String :=
  config.baseNamespace ++ "." ++ config.groupNamespace group

/-- The fields that hold names, with their values. -/
def names (config : Config) : List (String × String) :=
  [("BaseNamespace", config.baseNamespace), ("ModelNamespace", config.models.groupNamespace),
    ("RepositoryNamespace", config.repositories.groupNamespace),
    ("ContextName", config.context.name)]

variable {config : Config}

theorem fields_eq_ofList (config : Config) :
    config.fields = NamedMap.ofList (config.names.map (fun named => (named.1, some named.2)) ++ [
      ("ContextConnection", config.context.connection),
      ("ModelFolder", some config.models.folder),
      ("RepositoryFolder", some config.repositories.folder)]) := rfl

theorem get?_fields_of_mem_names {named : String × String} (member : named ∈ config.names) :
    config.fields.get? named.1 = some (some named.2) := by
  rw [fields_eq_ofList]
  exact NamedMap.get?_ofList_of_mem (by simp [names])
    (List.mem_append_left _ (List.mem_map_of_mem member))

theorem get?_table_fields_of_mem_names (table : Table) {named : String × String}
    (member : named ∈ config.names) : table.fields.get? named.1 = none := by
  rw [Table.fields, NamedMap.get?_ofList, List.lookup_eq_none_iff]
  simp only [names, List.mem_cons, List.not_mem_nil, or_false] at member
  rcases member with rfl | rfl | rfl | rfl <;> simp

/-- The fields that templates are filled with: those of the project, or those of the project and a
table together. -/
def IsFilledWith (config : Config) (fields : FieldMap) : Prop :=
  fields = config.fields ∨ ∃ table : Table, fields = config.fields.merge table.fields

theorem IsFilledWith.get?_eq {fields : FieldMap} (filled : config.IsFilledWith fields)
    {named : String × String} (member : named ∈ config.names) :
    fields.get? named.1 = some (some named.2) := by
  rcases filled with rfl | ⟨table, rfl⟩
  · exact get?_fields_of_mem_names member
  · rw [NamedMap.get?_merge, get?_table_fields_of_mem_names table member,
      get?_fields_of_mem_names member, Option.none_or]

theorem isMarkerName_of_mem_names {named : String × String} (member : named ∈ config.names) :
    IsMarkerName named.1.toList := by
  have valid : ∀ named ∈ config.names, IsMarkerName named.1.toList := by
    simp [names, IsMarkerName, isMarkerNameChar]
  exact valid named member

/-- Whatever is around the marker of a name, its value comes in its place. -/
theorem IsFilledWith.fillFields_around {fields : FieldMap} (filled : config.IsFilledWith fields)
    {named : String × String} (member : named ∈ config.names) (front back : String) :
    Template.fillFields fields (front ++ Template.fieldMarker named.1 ++ back) = do
      let before ← Template.fillFields fields front
      let behind ← Template.fillFields fields back
      return before ++ named.2 ++ behind := by
  refine Template.fillFields_around_marker (isMarkerName_of_mem_names member) ?_ front back
  rw [Template.fillFieldPiece, String.ofList_toList, filled.get?_eq member]

theorem IsFilledWith.fillFields_around_dotted {fields : FieldMap}
    (filled : config.IsFilledWith fields) {first second : String × String}
    (first_mem : first ∈ config.names) (second_mem : second ∈ config.names) (front back : String) :
    Template.fillFields fields (front ++
        (Template.fieldMarker first.1 ++ "." ++ Template.fieldMarker second.1) ++ back) = do
      let before ← Template.fillFields fields front
      let behind ← Template.fillFields fields back
      return before ++ (first.2 ++ "." ++ second.2) ++ behind := by
  have parts_eq : front ++ (Template.fieldMarker first.1 ++ "." ++
      Template.fieldMarker second.1) ++ back = front ++ Template.fieldMarker first.1 ++
        ("." ++ Template.fieldMarker second.1 ++ back) := by
    simp only [String.append_assoc]
  have dot_kept : Template.fillFields fields "." = .ok "." :=
    Template.fillFields_of_bracket_notMem (by decide)
  rw [parts_eq, filled.fillFields_around first_mem, filled.fillFields_around second_mem, dot_kept]
  cases Template.fillFields fields front with
  | error error => rfl
  | ok before =>
      cases Template.fillFields fields back with
      | error error => rfl
      | ok behind =>
          change Except.ok (before ++ first.2 ++ ("." ++ second.2 ++ behind)) =
            .ok (before ++ (first.2 ++ "." ++ second.2) ++ behind)
          simp only [String.append_assoc]

end Config

/-! ## Frames -/

namespace OutputGroup

/-- What stands before the namespaces in the built-in frame of a group. -/
def frameHead (group : OutputGroup) : String :=
  Text.unlines (group.frame.builtinLines.take 10) ++ "using "

/-- What stands behind the namespaces in a built-in frame. -/
def frameTail : String :=
  "\n\x7b\n//" ++ Template.fieldMarker Template.placeholder ++ "\n\x7d\n"

theorem builtinLines_frame (group : OutputGroup) :
    group.frame.builtinLines = group.frameLines
      (Template.fieldMarker "BaseNamespace" ++ "." ++
        Template.fieldMarker group.other.namespaceField)
      (Template.fieldMarker "BaseNamespace" ++ "." ++
        Template.fieldMarker group.namespaceField) := by
  cases group <;> rfl

theorem unlines_frameLines (group : OutputGroup) (imported opened : String) :
    Text.unlines (group.frameLines imported opened) =
      group.frameHead ++ imported ++ (";\n\nnamespace " ++ opened ++ frameTail) := by
  rw [frameLines, Text.unlines_append, frameHead, frameTail, ← String.toList_inj]
  simp [Text.unlines, Template.fieldMarker, Template.blockMarker]

theorem bracket_notMem_frameHead (group : OutputGroup) : '[' ∉ group.frameHead.toList := by
  have spelled : ∃ spelled, SpelledLines (group.frame.builtinLines.take 10) spelled ∧
      '[' ∉ spelled.flatMap (· ++ ['\n']) := by
    cases group
    all_goals
      apply Exists.intro
      refine ⟨?spells, ?free⟩
      case spells =>
        simp only [frame, TemplateName.builtinLines, TemplateName.modelFrameLines,
          TemplateName.repositoryFrameLines, List.take_succ_cons, List.take_zero]
        repeat apply SpelledLines.cons
        exact .nil
      case free => decide +kernel
  obtain ⟨spelled, spells, free⟩ := spelled
  rw [frameHead, String.toList_append, List.mem_append, not_or, spells.toList_unlines]
  exact ⟨free, by decide⟩

end OutputGroup

namespace Config

/-- The placeholder of a frame is no field of the project, so its marker stays. -/
theorem fillFields_frameTail (config : Config) :
    Template.fillFields config.fields OutputGroup.frameTail = .ok OutputGroup.frameTail := by
  have unknown : config.fields.get? Template.placeholder = none := by
    rw [fields, NamedMap.get?_ofList, List.lookup_eq_none_iff]
    simp [Template.placeholder]
  have kept : Template.fillFieldPiece config.fields (.marker Template.placeholder.toList) =
      .ok (Template.fieldMarker Template.placeholder).toList := by
    rw [Template.fillFieldPiece, String.ofList_toList, unknown, Template.toList_fieldMarker]
  rw [OutputGroup.frameTail,
    Template.fillFields_around_marker Template.isMarkerName_placeholder kept,
    Template.fillFields_of_bracket_notMem (by decide),
    Template.fillFields_of_bracket_notMem (by decide)]
  rfl

theorem namespaceField_mem_names (config : Config) (group : OutputGroup) :
    (group.namespaceField, config.groupNamespace group) ∈ config.names := by
  cases group <;> simp [names, OutputGroup.namespaceField, groupNamespace]

/-- The built-in frame of a group imports the namespace of the other one and opens its own. -/
theorem configured_builtin_frame (config : Config) (group : OutputGroup) :
    config.configured .builtin group.frame = .ok (Text.unlines
      (group.frameLines (config.fullNamespace group.other) (config.fullNamespace group))) := by
  have filled : config.IsFilledWith config.fields := .inl rfl
  have base : ("BaseNamespace", config.baseNamespace) ∈ config.names := List.mem_cons_self
  rw [configured_eq_ok_iff]
  refine ⟨group.frame.builtin, rfl, ?_⟩
  rw [TemplateName.builtin, group.builtinLines_frame, OutputGroup.unlines_frameLines,
    OutputGroup.unlines_frameLines,
    filled.fillFields_around_dotted base (config.namespaceField_mem_names group.other),
    filled.fillFields_around_dotted base (config.namespaceField_mem_names group),
    Template.fillFields_of_bracket_notMem group.bracket_notMem_frameHead, fillFields_frameTail,
    Template.fillFields_of_bracket_notMem (by decide)]
  rfl

end Config

namespace Manifest

variable {manifest : Manifest}

theorem IsAcceptable.isNamespaceChar (acceptable : manifest.IsAcceptable) (baseDir : String)
    {named : String × String} (member : named ∈ (Config.ofManifest manifest baseDir).names) :
    ∀ c ∈ named.2.toList, IsNamespaceChar c := by
  simp only [Config.names, Config.ofManifest, List.mem_cons, List.not_mem_nil, or_false] at member
  rcases member with rfl | rfl | rfl | rfl
  · exact fun c => acceptable.rootNamespace.isNamespaceChar
  · exact fun c => acceptable.modelsNamespace.isNamespaceChar
  · exact fun c => acceptable.repositoriesNamespace.isNamespaceChar
  · exact fun c => acceptable.contextName.isNamespaceChar

theorem IsAcceptable.isNamespace_fullNamespace (acceptable : manifest.IsAcceptable)
    (baseDir : String) (group : OutputGroup) :
    IsNamespace ((Config.ofManifest manifest baseDir).fullNamespace group) := by
  refine (isNamespace_append_iff _ _).mpr ⟨acceptable.rootNamespace, ?_⟩
  cases group
  · exact acceptable.modelsNamespace
  · exact acceptable.repositoriesNamespace

end Manifest

/-- A dot joins accepted namespaces, and nothing else, into one that is accepted.  So of an accepted
manifest the built-in frames only write namespaces that would be accepted themselves, and in
whatever template a marker of a name stands, letters, digits, underscores and dots come in its
place. -/
theorem ManifestPlace.composed_namespaces_accepted :
    (∀ (place : ManifestPlace) (front back kind : String),
      place.checkNamespace (front ++ "." ++ back) kind = .ok () ↔
        place.checkNamespace front kind = .ok () ∧ place.checkNamespace back kind = .ok ()) ∧
    ∀ (source file baseDir outputDir : String) (multiFile : Bool) (manifest : Manifest)
      (config : Config), Manifest.parse source file = .ok manifest →
      config = { Config.ofManifest manifest baseDir with outputDir, multiFile } →
        (∀ group, config.configured .builtin group.frame = .ok (Text.unlines
            (group.frameLines (config.fullNamespace group.other) (config.fullNamespace group))) ∧
          ∀ (place : ManifestPlace) (kind : String),
            place.checkNamespace (config.fullNamespace group) kind = .ok ()) ∧
        ∀ named ∈ config.names, (∀ c ∈ named.2.toList, IsNamespaceChar c) ∧
          ∀ fields, config.IsFilledWith fields → ∀ front back,
            Template.fillFields fields (front ++ Template.fieldMarker named.1 ++ back) = do
              let before ← Template.fillFields fields front
              let behind ← Template.fillFields fields back
              return before ++ named.2 ++ behind := by
  refine ⟨checkNamespace_append_iff, ?_⟩
  rintro source file baseDir outputDir multiFile manifest config accepted rfl
  have acceptable := ((Manifest.parse_eq_ok_iff source file manifest).mp accepted).2
  refine ⟨fun group => ⟨Config.configured_builtin_frame _ group, fun place kind => ?_⟩,
    fun named member => ⟨acceptable.isNamespaceChar baseDir member, fun fields filled => ?_⟩⟩
  · rw [checkNamespace_eq_ok_iff]
    exact acceptable.isNamespace_fullNamespace baseDir group
  · exact filled.fillFields_around member

theorem ManifestPlace.composed_namespaces_accepted_of_dotted :
    ∃ manifest config,
      Manifest.parse ("[project]\nnamespace = \"Shop.Core\"\n[catalog]\npath = \"c.toml\"\n" ++
        "[models]\nnamespace = \"Data.Rows_2\"\n") "dalgen.toml" = .ok manifest ∧
      config = { Config.ofManifest manifest "/work" with outputDir := "out", multiFile := true } ∧
      config.configured .builtin .modelFrame = .ok (Text.unlines (
        TemplateName.modelFrameLines.take 10 ++ ["using Shop.Core.Repositories;", "",
          "namespace Shop.Core.Data.Rows_2", "\x7b", "//[Placeholder]", "\x7d"])) ∧
      ManifestPlace.checkNamespace ⟨"", "", []⟩ "Shop.Core.Data.Rows_2" "namespace" = .ok () ∧
      (∀ c ∈ "Data.Rows_2".toList, IsNamespaceChar c) ∧
      Template.fillFields config.fields "// [ModelNamespace]" = .ok "// Data.Rows_2" := by
  have accepted : Manifest.parse ("[project]\nnamespace = \"Shop.Core\"\n[catalog]\n" ++
      "path = \"c.toml\"\n[models]\nnamespace = \"Data.Rows_2\"\n") "dalgen.toml" =
        .ok { project := ⟨"Shop.Core", false, "cs"⟩, catalog := ⟨"c.toml"⟩,
              models := ⟨"Models", "Data.Rows_2"⟩ } := by
    have document_eq : Toml.document? ("[project]\nnamespace = \"Shop.Core\"\n[catalog]\n" ++
        "path = \"c.toml\"\n[models]\nnamespace = \"Data.Rows_2\"\n") = some (.record [
          ("project", .record [("namespace", .text "Shop.Core")] true),
          ("catalog", .record [("path", .text "c.toml")] true),
          ("models", .record [("namespace", .text "Data.Rows_2")] true)] true) := by
      decide +kernel
    rw [Manifest.parse_of_document document_eq (Manifest.ofValue_brief _ _ none (some _))]
    decide +kernel
  obtain ⟨frames, substituted⟩ := composed_namespaces_accepted.2 _ "dalgen.toml" "/work" "out"
    true _ _ accepted rfl
  obtain ⟨frame_eq, namespace_ok⟩ := frames .models
  obtain ⟨chars, around⟩ := substituted ("ModelNamespace", "Data.Rows_2") (by decide)
  refine ⟨_, _, accepted, rfl, frame_eq, namespace_ok _ _, chars, ?_⟩
  exact around _ (.inl rfl) "// " ""

end DataLayer

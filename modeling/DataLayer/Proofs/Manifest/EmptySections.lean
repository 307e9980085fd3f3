import DataLayer.Proofs.Document.LeftOut
import DataLayer.Proofs.Document.Tree
import DataLayer.Proofs.Manifest.Acceptance

/-!
# Empty sections of a manifest

A section that a manifest may leave out reads as the usual one when it is there and empty.  So it
does not matter whether an empty section is written down: the manifest reads as the same settings,
or fails for the same reason.
-/

namespace DataLayer

/-- The sections that a manifest may leave out. -/
def Manifest.optionalSections : List String :=
  ["templates", "output", "context", "models", "repositories"]

namespace ManifestEntry

/-- The name of the section. -/
def name : ManifestEntry → String
  | .project _ => "project"
  | .catalog _ => "catalog"
  | .templates _ => "templates"
  | .output _ => "output"
  | .context _ => "context"
  | .models _ => "models"
  | .repositories _ => "repositories"

/-- The sections that a manifest has where it leaves them out. -/
def usual : List ManifestEntry :=
  [.templates {}, .output {}, .context {}, .models .models, .repositories .repositories]

theorem name_of_readsAs {format : DocumentFormat} {named : String × Value} {entry : ManifestEntry}
    (reads : (manifestShape format).ReadsAs named entry) : entry.name = named.1 := by
  obtain ⟨field, member, name_eq, read⟩ := reads.exists_field
  simp only [manifestShape, List.mem_cons, List.not_mem_nil, or_false] at member
  rcases member with rfl | rfl | rfl | rfl | rfl | rfl | rfl
  all_goals
    obtain ⟨_, -, rfl⟩ := (Traversal.map_eq_ok_iff _ _ _).mp read
    exact name_eq

theorem exists_usual_readsAs (format : DocumentFormat) {own : String}
    (optional : own ∈ Manifest.optionalSections) :
    ∃ entry ∈ usual, (manifestShape format).ReadsAs (own, .record [] true) entry := by
  simp only [Manifest.optionalSections, List.mem_cons, List.not_mem_nil, or_false] at optional
  have templates_read : readTemplates format (.record [] true) = .ok {} :=
    RecordShape.read_empty _ _ _
  have output_read : readOutput format (.record [] true) = .ok {} := RecordShape.read_empty _ _ _
  have context_read : readContext format (.record [] true) = .ok {} := RecordShape.read_empty _ _ _
  have group_read (label : String) (usual : GroupSection) :
      readGroup label usual format (.record [] true) = .ok usual :=
    RecordShape.read_empty _ _ _
  rcases optional with rfl | rfl | rfl | rfl | rfl
  · exact ⟨.templates {}, by simp [usual], _, rfl, congrArg (·.map ManifestEntry.templates)
      templates_read⟩
  · exact ⟨.output {}, by simp [usual], _, rfl, congrArg (·.map ManifestEntry.output) output_read⟩
  · exact ⟨.context {}, by simp [usual], _, rfl, congrArg (·.map ManifestEntry.context)
      context_read⟩
  · exact ⟨.models .models, by simp [usual], _, rfl, congrArg (·.map ManifestEntry.models)
      (group_read _ _)⟩
  · exact ⟨.repositories .repositories, by simp [usual], _, rfl,
      congrArg (·.map ManifestEntry.repositories) (group_read _ _)⟩

variable {α : Type} {pick : ManifestEntry → Option α} {absent : List String}

theorem findSome?_filter_of_kept (own : String)
    (picks : ∀ entry value, pick entry = some value → entry.name = own)
    (kept : own ∉ absent) (found : List ManifestEntry) :
    (found.filter fun entry => entry.name ∉ absent).findSome? pick = found.findSome? pick := by
  induction found with
  | nil => rfl
  | cons entry rest ih =>
      rw [List.filter_cons, List.findSome?_cons]
      cases picked : pick entry with
      | none =>
          split_ifs
          · rw [List.findSome?_cons, picked, ih]
          · exact ih
      | some value =>
          have stays : entry.name ∉ absent := picks entry value picked ▸ kept
          rw [if_pos (decide_eq_true stays), List.findSome?_cons, picked]

/-- Where the usual section takes the place of a missing one, it can be left out itself. -/
theorem getD_findSome?_filter (own : String) {default : α}
    (picks : ∀ entry value, pick entry = some value →
      entry.name = own ∧ (entry ∈ usual → value = default))
    {found : List ManifestEntry}
    (found_usual : ∀ entry ∈ found, entry.name ∈ absent → entry ∈ usual) :
    ((found.filter fun entry => entry.name ∉ absent).findSome? pick).getD default =
      (found.findSome? pick).getD default := by
  by_cases kept : own ∉ absent
  · rw [findSome?_filter_of_kept own (fun entry value picked => (picks entry value picked).1) kept]
  · have nothing : (found.filter fun entry => entry.name ∉ absent).findSome? pick = none := by
      refine List.findSome?_eq_none_iff.mpr fun entry member => ?_
      have stays := of_decide_eq_true (List.mem_filter.mp member).2
      refine Option.eq_none_iff_forall_ne_some.mpr fun value picked => ?_
      exact kept ((picks entry value picked).1 ▸ stays)
    rw [nothing]
    cases picked : found.findSome? pick with
    | none => rfl
    | some value =>
        obtain ⟨entry, member, entry_eq⟩ := List.exists_of_findSome?_eq_some picked
        obtain ⟨name_eq, value_eq⟩ := picks entry value entry_eq
        have left_out : entry.name ∈ absent := name_eq ▸ Classical.not_not.mp kept
        exact (value_eq (found_usual entry member left_out)).symm

end ManifestEntry

namespace Manifest

variable {absent : List String}

theorem ofEntries_filter (format : DocumentFormat) {found : List ManifestEntry}
    (optional : ∀ name ∈ absent, name ∈ optionalSections)
    (found_usual : ∀ entry ∈ found, entry.name ∈ absent → entry ∈ ManifestEntry.usual) :
    ofEntries format .named (found.filter fun entry => entry.name ∉ absent) =
      ofEntries format .named found := by
  have project_kept : "project" ∉ absent := fun member => absurd (optional _ member) (by decide)
  have catalog_kept : "catalog" ∉ absent := fun member => absurd (optional _ member) (by decide)
  simp only [ofEntries]
  rw [ManifestEntry.findSome?_filter_of_kept "project" ?_ project_kept,
    ManifestEntry.findSome?_filter_of_kept "catalog" ?_ catalog_kept,
    ManifestEntry.getD_findSome?_filter "templates" ?_ found_usual,
    ManifestEntry.getD_findSome?_filter "output" ?_ found_usual,
    ManifestEntry.getD_findSome?_filter "context" ?_ found_usual,
    ManifestEntry.getD_findSome?_filter "models" ?_ found_usual,
    ManifestEntry.getD_findSome?_filter "repositories" ?_ found_usual]
  -- What remains is that each section is picked from its own entries.
  all_goals
    intro entry value picked
    cases entry <;> cases picked
    simp [ManifestEntry.name, ManifestEntry.usual]

theorem ofValue_without (format : DocumentFormat) {document : Value}
    (optional : ∀ name ∈ absent, name ∈ optionalSections)
    (distinct : (document.entries.map Prod.fst).Nodup)
    (empty : ∀ named ∈ document.entries, named.1 ∈ absent → named.2 = .record [] true) :
    ofValue format (document.without absent) = ofValue format document := by
  cases document with
  | record entries closed =>
      have usual_reads (named : String × Value) (member : named ∈ entries)
          (left_out : named.1 ∈ absent) :
          ∃ entry ∈ ManifestEntry.usual, (manifestShape format).ReadsAs named entry := by
        have value_eq := empty named member left_out
        obtain ⟨entry, usual, reads⟩ :=
          ManifestEntry.exists_usual_readsAs format (optional named.1 left_out)
        exact ⟨entry, usual, by rwa [← value_eq] at reads⟩
      refine RecordShape.read_filter (fun entry => entry.name ∉ absent) distinct ?_ ?_ ?_
      · intro named _ entry reads
        rw [ManifestEntry.name_of_readsAs reads]
      · intro named member left_out
        obtain ⟨entry, -, reads⟩ := usual_reads named member (by simpa using left_out)
        exact ⟨entry, reads⟩
      · intro found origins
        refine ofEntries_filter format optional fun entry member left_out => ?_
        obtain ⟨named, named_mem, reads⟩ := origins entry member
        rw [ManifestEntry.name_of_readsAs reads] at left_out
        obtain ⟨other, usual, other_reads⟩ := usual_reads named named_mem left_out
        exact reads.unique other_reads ▸ usual
  | null | boolean | integer | decimal | text | sequence | broken => rfl

/-- It does not matter whether a manifest leaves out a section that it may leave out, or has it as
an empty table: every value in which no name comes twice is read alike, whether as a manifest or
with an error.  No text has a name twice, so any two texts that differ that way are read alike. -/
theorem read_without_empty_sections (absent : List String)
    (optional : ∀ name ∈ absent, name ∈ optionalSections) :
    (∀ (format : DocumentFormat) (document : Value), (document.entries.map Prod.fst).Nodup →
      (∀ named ∈ document.entries, named.1 ∈ absent → named.2 = .record [] true) →
        ofValue format (document.without absent) = ofValue format document) ∧
    ∀ (source other : String) (document : Value), Toml.document? source = some document →
      (∀ named ∈ document.entries, named.1 ∈ absent → named.2 = .record [] true) →
        Toml.document? other = some (document.without absent) →
          DocumentFormat.toml.read ofValue other = DocumentFormat.toml.read ofValue source := by
  constructor
  · intro format document distinct empty
    exact ofValue_without format optional distinct empty
  · intro source other document source_read empty other_read
    have distinct : (document.entries.map Prod.fst).Nodup := by
      obtain ⟨entries, rfl, distinct⟩ := Toml.exists_record_of_document? source_read
      exact distinct
    simp only [DocumentFormat.read, source_read, other_read]
    exact ofValue_without .toml optional distinct empty

/-- A manifest with two empty sections, and perhaps further settings of the project. -/
def sectionedDocument (further : List (String × Value)) : Value :=
  .record [("models", .record [] true),
    ("project", .record (("namespace", .text "Shop") :: further) true),
    ("catalog", .record [("path", .text "c.toml")] true),
    ("templates", .record [] true)] true

/-- That manifest as a text, without further settings. -/
def sectionedText : String :=
  "[models]\n[project]\nnamespace = \"Shop\"\n[catalog]\npath = \"c.toml\"\n[templates]\n"

/-- The empty sections are left out of a value with an unknown setting, and of a text that is
accepted. -/
theorem read_without_empty_sections_of_models_and_templates :
    ofValue .toml (sectionedDocument [("extra", .integer 1)]) =
        .error (.unknownField "extra" ["namespace", "multi_file", "extension"]) ∧
      DocumentFormat.toml.read ofValue sectionedText =
        .ok { project := ⟨"Shop", false, "cs"⟩, catalog := ⟨"c.toml"⟩ } := by
  have optional : ∀ name ∈ ["models", "templates"], name ∈ optionalSections := by decide
  have distinct (further : List (String × Value)) :
      ((sectionedDocument further).entries.map Prod.fst).Nodup := by
    simp [sectionedDocument, Value.entries]
  have empty (further : List (String × Value)) : ∀ named ∈ (sectionedDocument further).entries,
      named.1 ∈ ["models", "templates"] → named.2 = .record [] true := by
    simp [sectionedDocument, Value.entries]
  have without_eq (further : List (String × Value)) :
      (sectionedDocument further).without ["models", "templates"] = .record
        [("project", .record (("namespace", .text "Shop") :: further) true),
          ("catalog", .record [("path", .text "c.toml")] true)] true := rfl
  obtain ⟨values, texts⟩ := read_without_empty_sections _ optional
  constructor
  · rw [← values .toml _ (distinct _) (empty _), without_eq]
    simp [ofValue, manifestShape, readProject, projectShape, readCatalogSection, catalogShape,
      RecordShape.read, DocumentFormat.visitOrder, sortByName, List.mergeSort,
      RecordShape.readNamed, RecordShape.fieldNames, RecordShape.required, Value.asText, bind,
      Except.bind, pure, Except.pure, Except.map, Value.asPath]
  · have source_read : Toml.document? sectionedText = some (sectionedDocument []) := by
      decide +kernel
    have other_read : Toml.document?
        "[project]\nnamespace = \"Shop\"\n[catalog]\npath = \"c.toml\"\n" =
          some ((sectionedDocument []).without ["models", "templates"]) := by
      decide +kernel
    rw [← texts _ _ _ source_read (empty []) other_read, DocumentFormat.read, other_read]
    exact ofValue_brief "Shop" "c.toml" none none

end Manifest
end DataLayer

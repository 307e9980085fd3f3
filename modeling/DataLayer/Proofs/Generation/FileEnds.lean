import DataLayer.Generation.Render
import DataLayer.Proofs.Text.LineEnds
import DataLayer.Proofs.Traversal

/-!
# The ends of generated files

Blocks are stripped of the line ends behind them wherever they are joined, and each file is a frame
with a body that gets one line feed at its end.
-/

namespace DataLayer

namespace LoadedTemplates

/-- The file is one of the two frames with some body in it. -/
inductive Frames (templates : LoadedTemplates) : OutputFile → Prop where
  /-- A file of the entity group. -/
  | model (name body : String) : Frames templates (templates.modelFile name body)
  /-- A file of the repository group. -/
  | repository (name body : String) : Frames templates (templates.repositoryFile name body)

variable {templates : LoadedTemplates} {config : Config} {tables : List Table}
  {files : List OutputFile}

theorem Frames.endsInOneLineFeed {file : OutputFile} (framed : templates.Frames file) :
    Text.EndsInOneLineFeed file.content := by
  cases framed <;> exact Text.endsInOneLineFeed_ensureTrailingNewline _

theorem frames_of_mapM {step : Table → Except TemplateError OutputFile}
    (made : tables.mapM step = .ok files)
    (framed : ∀ table file, step table = .ok file → templates.Frames file) :
    ∀ file ∈ files, templates.Frames file := by
  rw [Traversal.mapM_eq_ok_iff] at made
  induction made with
  | nil => simp
  | cons step_eq _ ih => exact List.forall_mem_cons.mpr ⟨framed _ _ step_eq, ih⟩

theorem frames_of_filePerTable (rendered : templates.filePerTable config tables = .ok files) :
    ∀ file ∈ files, templates.Frames file := by
  simp only [filePerTable, Traversal.bind_eq_ok_iff, Traversal.pure_eq_ok_iff] at rendered
  obtain ⟨models, models_eq, repositories, repositories_eq, rfl⟩ := rendered
  have models_framed : ∀ file ∈ models, templates.Frames file := by
    refine frames_of_mapM models_eq fun table file made => ?_
    simp only [Traversal.bind_eq_ok_iff, Traversal.pure_eq_ok_iff] at made
    obtain ⟨addition, -, rfl⟩ := made
    exact .model _ _
  have repositories_framed : ∀ file ∈ repositories, templates.Frames file := by
    refine frames_of_mapM repositories_eq fun table file made => ?_
    simp only [Traversal.bind_eq_ok_iff, Traversal.pure_eq_ok_iff] at made
    obtain ⟨body, -, rfl⟩ := made
    exact .repository _ _
  rw [List.cons_append, List.forall_mem_cons, List.forall_mem_append, List.forall_mem_cons]
  exact ⟨.model _ _, models_framed, .repository _ _, repositories_framed⟩

theorem frames_of_filePerGroup (rendered : templates.filePerGroup config tables = .ok files) :
    ∀ file ∈ files, templates.Frames file := by
  simp only [filePerGroup, Traversal.bind_eq_ok_iff, Traversal.pure_eq_ok_iff] at rendered
  obtain ⟨blocks, -, rfl⟩ := rendered
  rw [List.forall_mem_cons, List.forall_mem_singleton]
  exact ⟨.model _ _, .repository _ _⟩

end LoadedTemplates

/-- Rendered files are framed, whatever the layout. -/
theorem Config.exists_frames_of_render {config : Config} {tables : List Table}
    {source : TemplateSource} {files : List OutputFile}
    (rendered : config.render tables source = .ok files) :
    ∃ templates : LoadedTemplates, ∀ file ∈ files, templates.Frames file := by
  simp only [render, Traversal.bind_eq_ok_iff] at rendered
  obtain ⟨templates, -, files_eq⟩ := rendered
  refine ⟨templates, ?_⟩
  split_ifs at files_eq
  · exact LoadedTemplates.frames_of_filePerTable files_eq
  · exact LoadedTemplates.frames_of_filePerGroup files_eq

/-- Blocks can be joined group by group, and line ends behind a block never count.  A text gets one
line feed at its end in place of the line ends there, and so does every generated file. -/
theorem line_ends_of_blocks_and_files :
    (∀ groups : List (List String),
      Text.joinBlocks (groups.map Text.joinBlocks) = Text.joinBlocks groups.flatten) ∧
    (∀ blocks : List String, Text.EndsOpen (Text.joinBlocks blocks) ∧
      (Text.joinBlocks blocks = "" ↔ ∀ block ∈ blocks, Text.IsLineEnds block) ∧
      ∀ others : List String,
        List.Forall₂ (fun block other => ∃ ends, Text.IsLineEnds ends ∧ other = block ++ ends)
            blocks others →
          Text.joinBlocks others = Text.joinBlocks blocks) ∧
    (∀ text : String,
      Text.ensureTrailingNewline (Text.ensureTrailingNewline text) =
          Text.ensureTrailingNewline text ∧
        Text.EndsInOneLineFeed (Text.ensureTrailingNewline text) ∧
        ∃ front ends : String, text = front ++ ends ∧ Text.EndsOpen front ∧ Text.IsLineEnds ends ∧
          Text.ensureTrailingNewline text = front ++ "\n") ∧
    ∀ (config : Config) (tables : List Table) (source : TemplateSource) (files : List OutputFile),
      config.render tables source = .ok files →
        ∀ file ∈ files, Text.EndsInOneLineFeed file.content := by
  refine ⟨Text.joinBlocks_map_joinBlocks, ?_, ?_, ?_⟩
  · intro blocks
    exact ⟨Text.endsOpen_joinBlocks blocks, Text.joinBlocks_eq_empty_iff_lineEnds blocks,
      fun others => Text.joinBlocks_of_longer⟩
  · intro text
    have ends_once := Text.endsInOneLineFeed_ensureTrailingNewline text
    obtain ⟨ends, lineEnds, split⟩ := Text.exists_lineEnds text
    exact ⟨(Text.ensureTrailingNewline_eq_self_iff _).mpr ends_once, ends_once, _, ends, split,
      Text.endsOpen_stripLineEnds text, lineEnds, rfl⟩
  · intro config tables source files rendered file member
    obtain ⟨templates, framed⟩ := Config.exists_frames_of_render rendered
    exact (framed file member).endsInOneLineFeed

end DataLayer

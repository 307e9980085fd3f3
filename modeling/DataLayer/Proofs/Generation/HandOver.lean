import DataLayer.Proofs.Generation.Run
import DataLayer.Proofs.Stateful
import Mathlib.Data.List.Perm.Basic

/-!
# Handing files over

A run hands the files of its preview to a sink, one by one and in order, up to the first one that
the sink refuses.  A sink is a machine with a state of any kind, so a sink that keeps a record of
what it was given shows what any other sink is given.
-/

namespace DataLayer

variable {ε σ : Type}

namespace OutputSink

/-- From a state the sink takes files one after another, each with an answer. -/
inductive Accepts (sink : OutputSink ε (StateM σ)) :
    σ → List (OutputFile × WriteResult) → σ → Prop
  /-- No file is left. -/
  | done (state : σ) : Accepts sink state [] state
  /-- The first file is taken, and then the others are. -/
  | next {state middle after : σ} {file : OutputFile} {answer : WriteResult}
      {rest : List (OutputFile × WriteResult)}
      (taken : Stateful.outcome (sink file) state = (.ok answer, middle))
      (others : Accepts sink middle rest after) :
      Accepts sink state ((file, answer) :: rest) after

variable {sink : OutputSink ε (StateM σ)}

/-- A sink takes all files, or it refuses the first one behind those that it takes. -/
theorem accepts_or_refuses (sink : OutputSink ε (StateM σ)) (state : σ) (files : List OutputFile) :
    (∃ answered after, answered.map Prod.fst = files ∧ sink.Accepts state answered after) ∨
      ∃ answered file unseen middle error after,
        files = answered.map Prod.fst ++ file :: unseen ∧ sink.Accepts state answered middle ∧
          Stateful.outcome (sink file) middle = (.error error, after) := by
  induction files generalizing state with
  | nil => exact .inl ⟨[], state, rfl, .done state⟩
  | cons file rest ih =>
      cases answered_eq : Stateful.outcome (sink file) state with
      | mk result middle =>
          cases result with
          | error error =>
              exact .inr ⟨[], file, rest, state, error, middle, rfl, .done state, answered_eq⟩
          | ok answer =>
              rcases ih middle with accepted | refused
              · obtain ⟨answered, after, rfl, accepts⟩ := accepted
                exact .inl ⟨(file, answer) :: answered, after, rfl, .next answered_eq accepts⟩
              · obtain ⟨answered, failing, unseen, last, error, after, rfl, accepts, refused⟩ :=
                  refused
                exact .inr ⟨(file, answer) :: answered, failing, unseen, last, error, after, rfl,
                  .next answered_eq accepts, refused⟩

/-- The sink with a record of all files that it was given. -/
def recording (sink : OutputSink ε (StateM σ)) : OutputSink ε (StateM (σ × List OutputFile)) :=
  fun file => ExceptT.mk fun state =>
    let answered := Stateful.outcome (sink file) state.1
    (answered.1, answered.2, state.2 ++ [file])

theorem outcome_recording (file : OutputFile) (state : σ) (record : List OutputFile) :
    Stateful.outcome (sink.recording file) (state, record) =
      ((Stateful.outcome (sink file) state).1, (Stateful.outcome (sink file) state).2,
        record ++ [file]) := rfl

theorem Accepts.recording {state after : σ} {answered : List (OutputFile × WriteResult)}
    (accepts : sink.Accepts state answered after) (record : List OutputFile) :
    sink.recording.Accepts (state, record) answered (after, record ++ answered.map Prod.fst) := by
  induction accepts generalizing record with
  | done state =>
      rw [List.map_nil, List.append_nil]
      exact .done (state, record)
  | @next state middle after file answer rest taken _ ih =>
      have recorded : Stateful.outcome (sink.recording file) (state, record) =
          (.ok answer, middle, record ++ [file]) := by
        rw [outcome_recording, taken]
      have others := ih (record ++ [file])
      rw [List.append_assoc] at others
      exact .next recorded others

end OutputSink

namespace RunReport

/-- The report of files that a sink has answered. -/
def ofAnswers (layout : OutputLayout) (tables : Nat) (answered : List (OutputFile × WriteResult)) :
    RunReport where
  tables := tables
  written := (answered.filter (·.2 = .written)).map (layout.relativePath ·.1)
  skipped := (answered.filter (·.2 = .skipped)).map (layout.relativePath ·.1)

theorem record_ofAnswers (layout : OutputLayout) (tables : Nat) (file : OutputFile)
    (answer : WriteResult) (rest : List (OutputFile × WriteResult)) :
    (ofAnswers layout tables rest).record (layout.relativePath file) answer =
      ofAnswers layout tables ((file, answer) :: rest) := by
  cases answer <;> simp [ofAnswers, record]

theorem perm_ofAnswers (layout : OutputLayout) (tables : Nat)
    (answered : List (OutputFile × WriteResult)) :
    ((ofAnswers layout tables answered).written ++ (ofAnswers layout tables answered).skipped).Perm
      (answered.map (layout.relativePath ·.1)) := by
  have skipped_iff (pair : OutputFile × WriteResult) :
      decide (pair.2 = .skipped) = !decide (pair.2 = .written) := by
    cases pair.2 <;> rfl
  simp only [ofAnswers, skipped_iff, ← List.map_append]
  exact (List.filter_append_perm _ answered).map _

end RunReport

namespace Generator

variable {sink : OutputSink ε (StateM σ)} {state middle after : σ}
  {answered : List (OutputFile × WriteResult)}

theorem outcome_handOver_of_accepts (layout : OutputLayout) (tables : Nat)
    (accepts : sink.Accepts state answered after) :
    Stateful.outcome (handOver layout sink tables (answered.map Prod.fst)) state =
      (.ok (.ofAnswers layout tables answered), after) := by
  induction accepts with
  | done state => rfl
  | next taken _ ih =>
      rw [List.map_cons, handOver, Stateful.outcome_bind, taken]
      simp only [Stateful.outcome_bind, ih, Stateful.outcome_pure, RunReport.record_ofAnswers]

/-- The first file that the sink refuses is the last one that is handed over. -/
theorem outcome_handOver_of_refused (layout : OutputLayout) (tables : Nat)
    (accepts : sink.Accepts state answered middle) {file : OutputFile} {error : ε}
    (refused : Stateful.outcome (sink file) middle = (.error error, after))
    (unseen : List OutputFile) :
    Stateful.outcome (handOver layout sink tables (answered.map Prod.fst ++ file :: unseen)) state =
      (.error error, after) := by
  induction accepts with
  | done state => rw [List.map_nil, List.nil_append, handOver, Stateful.outcome_bind, refused]
  | next taken _ ih =>
      rw [List.map_cons, List.cons_append, handOver, Stateful.outcome_bind, taken]
      simp only [Stateful.outcome_bind, ih refused]

variable {generator : Generator} {catalog : Catalog} {source : TemplateSource}

theorem outcome_run_of_unplanned {error : PlanError}
    (failed : generator.plan catalog source = .error error) (sink : OutputSink ε (StateM σ))
    (state : σ) :
    Stateful.outcome (generator.run catalog source sink) state = (.error (.plan error), state) := by
  rw [run, failed]
  rfl

theorem outcome_run_of_planned {tables : List Table} {files : List OutputFile}
    (planned : generator.plan catalog source = .ok (tables, files))
    (sink : OutputSink ε (StateM σ)) (state : σ) :
    Stateful.outcome (generator.run catalog source sink) state =
      ((Stateful.outcome (handOver generator.config.layout sink tables.length files)
          state).1.mapError .refused,
        (Stateful.outcome
          (handOver generator.config.layout sink tables.length files) state).2) := by
  rw [run, planned]
  rfl

theorem preview_eq_error_iff (error : PlanError) :
    generator.preview catalog source = .error error ↔
      generator.plan catalog source = .error error := by
  rw [preview]
  cases generator.plan catalog source <;> simp [Except.map]

/-- The path below the output folder and the text of a file, as a preview shows it. -/
def shownAs (generator : Generator) (file : OutputFile) : String × String :=
  (generator.config.layout.relativePath file, file.content)

/-- What a run comes to, the state in which it leaves the sink, and the files that it hands over. -/
def recordedRun (generator : Generator) (catalog : Catalog) (source : TemplateSource)
    (sink : OutputSink ε (StateM σ)) (state : σ) :
    Except (RunError ε) RunReport × σ × List OutputFile :=
  Stateful.outcome (generator.run catalog source sink.recording) (state, [])

theorem outcome_run_of_accepts {tables : List Table}
    (planned : generator.plan catalog source = .ok (tables, answered.map Prod.fst))
    (accepts : sink.Accepts state answered after) :
    Stateful.outcome (generator.run catalog source sink) state =
      (.ok (.ofAnswers generator.config.layout tables.length answered), after) := by
  rw [outcome_run_of_planned planned, outcome_handOver_of_accepts _ _ accepts]
  rfl

theorem outcome_run_of_refused {tables : List Table} {file : OutputFile}
    {unseen : List OutputFile} {error : ε}
    (planned :
      generator.plan catalog source = .ok (tables, answered.map Prod.fst ++ file :: unseen))
    (accepts : sink.Accepts state answered middle)
    (refused : Stateful.outcome (sink file) middle = (.error error, after)) :
    Stateful.outcome (generator.run catalog source sink) state =
      (.error (.refused error), after) := by
  rw [outcome_run_of_planned planned, outcome_handOver_of_refused _ _ accepts refused]
  rfl

/-- A run succeeds when the sink takes all planned files. -/
theorem outcome_run_eq_ok_iff (generator : Generator) (catalog : Catalog)
    (source : TemplateSource) (sink : OutputSink ε (StateM σ)) (state after : σ)
    (report : RunReport) :
    Stateful.outcome (generator.run catalog source sink) state = (.ok report, after) ↔
      ∃ tables answered,
        generator.plan catalog source = .ok (tables, answered.map Prod.fst) ∧
          sink.Accepts state answered after ∧
          report = .ofAnswers generator.config.layout tables.length answered := by
  constructor
  · intro succeeded
    cases planned : generator.plan catalog source with
    | error error =>
        rw [outcome_run_of_unplanned planned] at succeeded
        simp at succeeded
    | ok plan =>
        obtain ⟨tables, files⟩ := plan
        rcases sink.accepts_or_refuses state files with accepted | refused
        · obtain ⟨answered, reached, rfl, accepts⟩ := accepted
          rw [outcome_run_of_accepts planned accepts] at succeeded
          obtain ⟨report_eq, rfl⟩ := Prod.mk.inj succeeded
          exact ⟨tables, answered, rfl, accepts, (Except.ok.inj report_eq).symm⟩
        · obtain ⟨answered, file, unseen, middle, error, reached, rfl, accepts, refusal⟩ := refused
          rw [outcome_run_of_refused planned accepts refusal] at succeeded
          simp at succeeded
  · rintro ⟨tables, answered, planned, accepts, rfl⟩
    exact outcome_run_of_accepts planned accepts

theorem preview_of_plan {tables : List Table} {files : List OutputFile}
    (planned : generator.plan catalog source = .ok (tables, files)) :
    generator.preview catalog source = .ok (files.map generator.shownAs) := by
  rw [preview, planned]
  rfl

/-- A run hands over what its preview shows.  It gives the sink nothing and fails exactly when the
preview does, with the same error.  Else it hands over the files of the preview, in order: either
all of them, and then it reports each by its answer, or those up to the first one that is
refused. -/
theorem run_agrees_with_preview (generator : Generator) (catalog : Catalog)
    (source : TemplateSource) (sink : OutputSink ε (StateM σ)) (state : σ) :
    Stateful.outcome (generator.run catalog source sink) state =
        ((generator.recordedRun catalog source sink state).1,
          (generator.recordedRun catalog source sink state).2.1) ∧
      (∀ error, generator.preview catalog source = .error error ↔
        generator.recordedRun catalog source sink state = (.error (.plan error), state, [])) ∧
      ∀ shown, generator.preview catalog source = .ok shown →
        (∃ tables answered after report,
          Schema.introspect generator.mapper catalog = .ok tables ∧
            answered.map (fun pair => generator.shownAs pair.1) = shown ∧
            sink.Accepts state answered after ∧
            generator.recordedRun catalog source sink state =
              (.ok report, after, answered.map Prod.fst) ∧
            report.tables = tables.length ∧
            report.written = (answered.filter fun pair => pair.2 = .written).map
              (fun pair => (generator.shownAs pair.1).1) ∧
            report.skipped = (answered.filter fun pair => pair.2 = .skipped).map
              (fun pair => (generator.shownAs pair.1).1) ∧
            (report.written ++ report.skipped).Perm (shown.map Prod.fst)) ∨
          ∃ answered file unseen middle error after,
            answered.map (fun pair => generator.shownAs pair.1) ++ generator.shownAs file ::
                unseen = shown ∧
              sink.Accepts state answered middle ∧
              Stateful.outcome (sink file) middle = (.error error, after) ∧
              generator.recordedRun catalog source sink state =
                (.error (.refused error), after, answered.map Prod.fst ++ [file]) := by
  cases planned : generator.plan catalog source with
  | error error =>
      have recorded_eq : generator.recordedRun catalog source sink state =
          (.error (.plan error), state, []) :=
        outcome_run_of_unplanned planned sink.recording (state, [])
      have unshown := (preview_eq_error_iff error).mpr planned
      rw [outcome_run_of_unplanned planned, recorded_eq, unshown]
      simp
  | ok plan =>
      obtain ⟨tables, files⟩ := plan
      have shown_eq := preview_of_plan planned
      have introspected := ((plan_eq_ok_iff tables files).mp planned).1
      rw [shown_eq]
      rcases sink.accepts_or_refuses state files with accepted | refused
      · obtain ⟨answered, after, rfl, accepts⟩ := accepted
        have recorded_eq : generator.recordedRun catalog source sink state =
            (.ok (.ofAnswers generator.config.layout tables.length answered), after,
              answered.map Prod.fst) :=
          outcome_run_of_accepts planned (accepts.recording [])
        rw [outcome_run_of_accepts planned accepts, recorded_eq]
        refine ⟨rfl, by simp, ?_⟩
        rintro _ ⟨⟩
        refine .inl ⟨tables, answered, after, _, introspected, by simp, accepts, rfl, rfl, rfl, rfl,
          ?_⟩
        have reported := RunReport.perm_ofAnswers generator.config.layout tables.length answered
        simpa [shownAs, Function.comp_def] using reported
      · obtain ⟨answered, file, unseen, middle, error, after, rfl, accepts, refused⟩ := refused
        have recorded_eq : generator.recordedRun catalog source sink state =
            (.error (.refused error), after, answered.map Prod.fst ++ [file]) := by
          refine outcome_run_of_refused planned (accepts.recording []) ?_
          rw [OutputSink.outcome_recording, refused]
          simp
        rw [outcome_run_of_refused planned accepts refused, recorded_eq]
        refine ⟨rfl, by simp, ?_⟩
        rintro _ ⟨⟩
        exact .inr ⟨answered, file, unseen.map generator.shownAs, middle, error, after, by simp,
          accepts, refused, rfl⟩

end Generator
end DataLayer

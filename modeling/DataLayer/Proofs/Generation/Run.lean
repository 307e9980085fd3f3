import DataLayer.Generation.Run

/-!
# Planned files

A run and its preview are planned alike: the schema is read first, then all files are rendered.
-/

namespace DataLayer
namespace Generator

variable {generator : Generator} {catalog : Catalog} {source : TemplateSource}

theorem plan_eq_ok_iff (tables : List Table) (files : List OutputFile) :
    generator.plan catalog source = .ok (tables, files) ↔
      Schema.introspect generator.mapper catalog = .ok tables ∧
        generator.config.render tables source = .ok files := by
  constructor
  · intro planned
    rw [plan] at planned
    cases introspected : Schema.introspect generator.mapper catalog with
    | error error => simp [introspected] at planned
    | ok found =>
        cases rendered : generator.config.render found source with
        | error error => simp [introspected, rendered] at planned
        | ok outputs =>
            obtain ⟨rfl, rfl⟩ : found = tables ∧ outputs = files := by
              simpa [introspected, rendered] using planned
            exact ⟨rfl, rendered⟩
  · rintro ⟨introspected, rendered⟩
    simp [plan, introspected, rendered]

theorem preview_eq_ok_iff (shown : List (String × String)) :
    generator.preview catalog source = .ok shown ↔
      ∃ tables files, Schema.introspect generator.mapper catalog = .ok tables ∧
        generator.config.render tables source = .ok files ∧
        shown = files.map fun file =>
          (generator.config.layout.relativePath file, file.content) := by
  simp only [← and_assoc, ← plan_eq_ok_iff]
  rw [preview]
  cases generator.plan catalog source with
  | error error => simp [Except.map]
  | ok planned =>
      constructor
      · intro shown_eq
        exact ⟨planned.1, planned.2, rfl, (Except.ok.inj shown_eq).symm⟩
      · rintro ⟨tables, files, planned_eq, rfl⟩
        rw [Except.ok.inj planned_eq]
        rfl

end Generator
end DataLayer

import DataLayer.Proofs.NamedMap
import DataLayer.Template.Fill

/-!
# How field maps come about

A field map is built step by step: a field is given a value or made known but unset, or all fields
of another map are taken over.  Only the last write under a name counts, and neither templates nor
comparisons see the order in which names came up.
-/

namespace DataLayer

/-- The steps that built a field map.  A map that is merged in was built by steps of its own. -/
inductive FieldHistory where
  /-- Nothing was written yet. -/
  | new
  /-- A field was given a value. -/
  | set (before : FieldHistory) (name value : String)
  /-- A field was given a value, or made known but unset. -/
  | setOptional (before : FieldHistory) (name : String) (value : Option String)
  /-- All fields of another map were taken over. -/
  | merge (before merged : FieldHistory)

namespace FieldHistory

/-- The map that the steps built. -/
def fields : FieldHistory → FieldMap
  | new => .empty
  | set before name value => before.fields.set name value
  | setOptional before name value => before.fields.setOptional name value
  | merge before merged => before.fields.merge merged.fields

/-- All writes in the order of the steps.  The writes that built a merged map stand in its place. -/
def writes : FieldHistory → List (String × Option String)
  | new => []
  | set before name value => before.writes ++ [(name, some value)]
  | setOptional before name value => before.writes ++ [(name, value)]
  | merge before merged => before.writes ++ merged.writes

theorem get?_fields (history : FieldHistory) (name : String) :
    history.fields.get? name = history.writes.reverse.lookup name := by
  induction history with
  | new => rfl
  | set before written value ih =>
      rw [fields, FieldMap.set, NamedMap.get?_insert, ih, writes, List.reverse_concat,
        NamedMap.lookup_entry_cons]
  | setOptional before written value ih =>
      rw [fields, FieldMap.setOptional, NamedMap.get?_insert, ih, writes, List.reverse_concat,
        NamedMap.lookup_entry_cons]
  | merge before merged ih merged_ih =>
      rw [fields, NamedMap.get?_merge, ih, merged_ih, writes, List.reverse_append,
        List.lookup_append]

/-- The map holds under each name what was written there last. -/
theorem get?_fields_eq_some_iff (history : FieldHistory) (name : String) (value : Option String) :
    history.fields.get? name = some value ↔
      ∃ front back, history.writes = front ++ (name, value) :: back ∧
        name ∉ back.map Prod.fst := by
  rw [get?_fields, ← NamedMap.get?_ofList, NamedMap.get?_ofList_eq_some_iff]

theorem get?_fields_eq_none_iff (history : FieldHistory) (name : String) :
    history.fields.get? name = none ↔ name ∉ history.writes.map Prod.fst := by
  rw [get?_fields, NamedMap.lookup_eq_none_iff_notMem, List.map_reverse, List.mem_reverse]

end FieldHistory

namespace Template

theorem fillFields_congr {first second : FieldMap}
    (same : ∀ name, first.get? name = second.get? name) (template : String) :
    fillFields first template = fillFields second template := by
  have pieces_eq : fillFieldPiece first = fillFieldPiece second := by
    funext piece
    cases piece with
    | literal c => rfl
    | marker name => rw [fillFieldPiece, fillFieldPiece, same]
  rw [fillFields, fillFields, pieces_eq]

end Template

namespace FieldMap

/-- A field has the value, or the mark that it is unset, that was written under its name last, and
a name under which nothing was written is unknown.  Merging is associative, and the empty map adds
nothing on either side.  Two maps agree exactly when all names are alike in both, and then every
template is filled alike, or fails alike. -/
theorem last_write_wins :
    (∀ (history : FieldHistory) (name : String),
      (∀ value, history.fields.get? name = some value ↔
        ∃ front back, history.writes = front ++ (name, value) :: back ∧
          name ∉ back.map Prod.fst) ∧
      (history.fields.get? name = none ↔ name ∉ history.writes.map Prod.fst)) ∧
    (∀ first second third : FieldMap,
      (first.merge second).merge third = first.merge (second.merge third) ∧
        FieldMap.empty.merge first = first ∧ first.merge .empty = first) ∧
    ∀ first second : FieldMap,
      (first.agrees second = true ↔ ∀ name, first.get? name = second.get? name) ∧
        (first.agrees second = true →
          ∀ template,
            Template.fillFields first template = Template.fillFields second template) := by
  refine ⟨?_, ?_, ?_⟩
  · intro history name
    exact ⟨history.get?_fields_eq_some_iff name, history.get?_fields_eq_none_iff name⟩
  · intro first second third
    exact ⟨NamedMap.merge_assoc first second third, NamedMap.empty_merge first,
      NamedMap.merge_empty first⟩
  · intro first second
    have agrees_iff := NamedMap.agrees_iff first second
    exact ⟨agrees_iff, fun agree => Template.fillFields_congr (agrees_iff.mp agree)⟩

end FieldMap
end DataLayer

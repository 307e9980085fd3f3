import DataLayer.Document.Reading
import Mathlib.Data.List.Nodup

/-!
# Documents of plain sections

Most documents are made of sections, each with a header of its own and with values under plain keys
of its own.  Such a document reads as a record with a record for each section, in the same order.
-/

namespace DataLayer
namespace Toml

theorem updateEntry_append {key : String} {entries : Entries} (new : key ∉ entries.map Prod.fst)
    (change : Option Node → Option Node) (below : Entries) :
    updateEntry key change (entries ++ below) =
      (updateEntry key change below).map (entries ++ ·) := by
  induction entries with
  | nil => simp
  | cons entry rest ih =>
      rw [List.map_cons, List.mem_cons, not_or] at new
      rw [List.cons_append, updateEntry, if_neg (Ne.symm new.1), ih new.2, Option.map_map]
      rfl

theorem updateEntry_new {key : String} {entries : Entries} (new : key ∉ entries.map Prod.fst)
    (change : Option Node → Option Node) :
    updateEntry key change entries = (change none).map fun node => entries ++ [(key, node)] := by
  have appended := updateEntry_append new change []
  rw [List.append_nil, updateEntry, Option.map_map] at appended
  exact appended

theorem add_header {key : String} {entries : Entries} (new : key ∉ entries.map Prod.fst)
    (current : List String) :
    Outline.add ⟨entries, current⟩ (.header [] key) =
      some ⟨entries ++ [(key, .table .header [])], [key]⟩ := by
  simp only [Outline.add, defineTable, descend, updateEntry_new new]
  rfl

theorem add_assignment {header key : String} {entries settings : Entries}
    (newHeader : header ∉ entries.map Prod.fst) (new : key ∉ settings.map Prod.fst)
    (value : Value) :
    Outline.add ⟨entries ++ [(header, .table .header settings)], [header]⟩
        (.assignment [] key value) =
      some ⟨entries ++ [(header, .table .header (settings ++ [(key, .value value)]))],
        [header]⟩ := by
  have assigned : assign [] key value settings = some (settings ++ [(key, .value value)]) := by
    simp only [assign, descend, addValue, updateEntry_new new]
    rfl
  simp only [Outline.add, descend, updateEntry_append newHeader, updateEntry, if_true, assigned]
  rfl

/-- The statements of a section: its header, and the values under its keys. -/
def sectionStatements (block : String × List (String × Value)) : List Statement :=
  .header [] block.1 :: block.2.map fun field => .assignment [] field.1 field.2

/-- Assignments of new keys one after another fill the table under the last header. -/
theorem foldlM_assignments {header : String} {entries : Entries}
    (newHeader : header ∉ entries.map Prod.fst) (fields : List (String × Value))
    (settings : List (String × Value)) (distinct : ((settings ++ fields).map Prod.fst).Nodup) :
    (fields.map fun field => Statement.assignment [] field.1 field.2).foldlM Outline.add
        ⟨entries ++ [(header,
          .table .header (settings.map fun field => (field.1, .value field.2)))], [header]⟩ =
      some ⟨entries ++ [(header, .table .header
        ((settings ++ fields).map fun field => (field.1, .value field.2)))], [header]⟩ := by
  induction fields generalizing settings with
  | nil => simp
  | cons field rest ih =>
      have new : field.1 ∉
          (settings.map fun field => (field.1, Node.value field.2)).map Prod.fst := by
        rw [List.map_map]
        rw [List.map_append, List.nodup_append] at distinct
        intro member
        exact distinct.2.2 field.1 member field.1 (by simp) rfl
      rw [List.map_cons, List.foldlM_cons, add_assignment newHeader new, Option.bind_eq_bind,
        Option.bind_some]
      have rest_read := ih (settings ++ [field]) (by simpa using distinct)
      simpa using rest_read

/-- The table of a section under construction. -/
def sectionNode (block : String × List (String × Value)) : String × Node :=
  (block.1, .table .header (block.2.map fun field => (field.1, .value field.2)))

theorem foldlM_sections (sections : List (String × List (String × Value)))
    (distinct : ∀ block ∈ sections, (block.2.map Prod.fst).Nodup)
    (done : List (String × List (String × Value)))
    (headers : ((done ++ sections).map Prod.fst).Nodup) (current : List String) :
    ∃ last, (sections.flatMap sectionStatements).foldlM Outline.add
        ⟨done.map sectionNode, current⟩ = some ⟨(done ++ sections).map sectionNode, last⟩ := by
  induction sections generalizing done current with
  | nil => exact ⟨current, by simp⟩
  | cons block rest ih =>
      rw [List.forall_mem_cons] at distinct
      have new : block.1 ∉ (done.map sectionNode).map Prod.fst := by
        rw [List.map_map]
        rw [List.map_append, List.nodup_append] at headers
        intro member
        exact headers.2.2 block.1 member block.1 (by simp) rfl
      have filled := foldlM_assignments new block.2 [] (by simpa using distinct.1)
      rw [List.map_nil, List.nil_append] at filled
      obtain ⟨last, rest_read⟩ :=
        ih distinct.2 (done ++ [block]) (by simpa using headers) [block.1]
      refine ⟨last, ?_⟩
      rw [List.flatMap_cons, List.foldlM_append, sectionStatements, List.foldlM_cons,
        add_header new, Option.bind_eq_bind, Option.bind_some, filled]
      simpa [sectionNode] using rest_read

theorem finishEntries_map (blocks : List (String × List (String × Value))) :
    finishEntries (blocks.map sectionNode) =
      blocks.map fun block => (block.1, .record block.2 true) := by
  have fields_eq (fields : List (String × Value)) :
      finishEntries (fields.map fun field => (field.1, .value field.2)) = fields := by
    induction fields with
    | nil => rfl
    | cons field rest ih => rw [List.map_cons, finishEntries, ih, Node.finish]
  induction blocks with
  | nil => rfl
  | cons block rest ih =>
      rw [List.map_cons, sectionNode, finishEntries, ih, Node.finish, fields_eq, List.map_cons]

/-- A document of sections, each with its header and its own keys, reads as a record of records. -/
theorem valueOfStatements?_sections (sections : List (String × List (String × Value)))
    (headers : (sections.map Prod.fst).Nodup)
    (distinct : ∀ block ∈ sections, (block.2.map Prod.fst).Nodup) :
    valueOfStatements? (sections.flatMap sectionStatements) =
      some (.record (sections.map fun block => (block.1, .record block.2 true)) true) := by
  obtain ⟨last, read⟩ := foldlM_sections sections distinct [] headers []
  rw [valueOfStatements?, ← finishEntries_map]
  simp only [List.map_nil, List.nil_append] at read
  rw [read]
  rfl

end Toml
end DataLayer

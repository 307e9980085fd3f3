import DataLayer.Document.Reading
import DataLayer.Proofs.Document.Record

/-!
# What a record says

A record that is written by names says under each name what its field makes of the value there.  It
can be read if every name is that of a field and comes once, and every value has the shape of its
field.  Neither the order of the names nor the notation matters.
-/

namespace DataLayer

namespace DocumentFormat

theorem visitOrder_perm {α : Type} (format : DocumentFormat) (entries : List (String × α)) :
    (format.visitOrder entries).Perm entries := by
  cases format with
  | toml => exact sortByName_perm entries
  | json => exact .refl entries

/-- The text stands for a value, and does not break anywhere. -/
def StandsFor (format : DocumentFormat) (text : String) (value : Value) : Prop :=
  match format with
  | .toml => Toml.document? text = some value
  | .json => Json.document text = (value, true)

theorem read_of_standsFor {α : Type} {format : DocumentFormat} {text : String} {value : Value}
    (stands : format.StandsFor text value)
    (decode : DocumentFormat → Value → Except DocumentProblem α) :
    format.read decode text = decode format value := by
  cases format with
  | toml =>
      have document_eq : Toml.document? text = some value := stands
      rw [read, document_eq]
  | json =>
      have document_eq : Json.document text = (value, true) := stands
      rw [read, document_eq]
      cases decode .json value <;> rfl

end DocumentFormat

/-- What a record says under a name, as far as a reader can make something of the value there. -/
def stated? {α : Type} (entries : List (String × Value)) (name : String)
    (read : Value → Except DocumentProblem α) : Option α :=
  (entries.lookup name).bind fun value => (read value).toOption

namespace RecordShape

variable {Entry α β : Type} {shape : RecordShape Entry} {format : DocumentFormat}
  {entries : List (String × Value)}

/-- The name is that of a field, and the value has the shape of the field. -/
def Readable (shape : RecordShape Entry) (named : String × Value) : Prop :=
  ∃ entry, shape.ReadsAs named entry

/-- Where no name is that of two fields, a value is read by the field of its name. -/
theorem readsAs_iff (distinct : shape.fieldNames.Nodup) (named : String × Value) (entry : Entry) :
    shape.ReadsAs named entry ↔
      ∃ field ∈ shape.fields, field.name = named.1 ∧ field.read named.2 = .ok entry := by
  constructor
  · exact ReadsAs.exists_field
  · rintro ⟨field, member, name_eq, read⟩
    refine ⟨field, ?_, read⟩
    obtain ⟨front, back, fields_eq⟩ := List.append_of_mem member
    rw [fieldNames, fields_eq, List.map_append, List.map_cons] at distinct
    rw [fields_eq, List.find?_eq_some_iff_append]
    refine ⟨by simpa using name_eq, front, back, rfl, fun other other_mem => ?_⟩
    have other_ne : other.name ≠ field.name :=
      (List.nodup_append.mp distinct).2.2 _ (List.mem_map_of_mem other_mem) _ List.mem_cons_self
    simpa [← name_eq] using other_ne

theorem readable_of_known (distinct : (entries.map Prod.fst).Nodup)
    (fields_distinct : shape.fieldNames.Nodup)
    (known : ∀ name ∈ entries.map Prod.fst, name ∈ shape.fieldNames)
    (each : ∀ field ∈ shape.fields, ∀ value, entries.lookup field.name = some value →
      ∃ entry, field.read value = .ok entry) :
    ∀ named ∈ entries, shape.Readable named := by
  intro named member
  obtain ⟨field, field_mem, name_eq⟩ :=
    List.mem_map.mp (known named.1 (List.mem_map_of_mem member))
  have under := NamedMap.lookup_of_mem distinct member
  rw [← name_eq] at under
  obtain ⟨entry, read⟩ := each field field_mem named.2 under
  exact ⟨entry, (readsAs_iff fields_distinct named entry).mpr ⟨field, field_mem, name_eq, read⟩⟩

theorem exists_forall₂_readsAs_iff :
    (∃ found, List.Forall₂ shape.ReadsAs entries found) ↔
      ∀ named ∈ entries, shape.Readable named := by
  induction entries with
  | nil => simp
  | cons named rest ih =>
      rw [List.forall_mem_cons, ← ih]
      constructor
      · rintro ⟨found, reads⟩
        obtain ⟨entry, later, read, later_reads, rfl⟩ := List.forall₂_cons_left_iff.mp reads
        exact ⟨⟨entry, read⟩, later, later_reads⟩
      · rintro ⟨⟨entry, read⟩, later, later_reads⟩
        exact ⟨entry :: later, .cons read later_reads⟩

/-- A record by names is read if its names are distinct and its values can be read.  What it is read
as has to be decided by what it says under the names, wherever they stand. -/
theorem read_record_eq_ok_iff {assemble : RecordStyle → List Entry → Except DocumentProblem α}
    {closed : Bool} {result : α} {decided : Prop}
    (decides : (entries.map Prod.fst).Nodup → ∀ found,
      List.Forall₂ shape.ReadsAs (format.visitOrder entries) found →
        (assemble .named found = .ok result ↔ decided)) :
    shape.read format assemble (.record entries closed) = .ok result ↔
      closed = true ∧ (entries.map Prod.fst).Nodup ∧ (∀ named ∈ entries, shape.Readable named) ∧
        decided := by
  have perm := format.visitOrder_perm entries
  have names_perm := (perm.map Prod.fst).nodup_iff
  have readable_iff : (∀ named ∈ entries, shape.Readable named) ↔
      ∃ found, List.Forall₂ shape.ReadsAs (format.visitOrder entries) found := by
    rw [exists_forall₂_readsAs_iff]
    exact forall_congr' fun named => by rw [perm.mem_iff]
  simp only [read, Traversal.bind_eq_ok_iff, readNamed_eq_ok_iff, List.not_mem_nil,
    not_false_eq_true, implies_true, true_and, names_perm, readable_iff]
  cases closed with
  | false => simp
  | true =>
      simp only [if_true, true_and]
      constructor
      · rintro ⟨found, ⟨distinct, reads⟩, assembled⟩
        exact ⟨distinct, ⟨found, reads⟩, (decides distinct found reads).mp assembled⟩
      · rintro ⟨distinct, ⟨found, reads⟩, holds⟩
        exact ⟨found, ⟨distinct, reads⟩, (decides distinct found reads).mpr holds⟩

theorem required_eq_ok_iff (shape : RecordShape Entry) (style : RecordStyle) (name : String)
    (found : Option α) (value : α) :
    shape.required style name found = .ok value ↔ found = some value := by
  cases found <;> simp [required]

/-- Just the entries of a field are picked, with what the field's reader made of the value. -/
structure Picks (shape : RecordShape Entry) (name : String)
    (read : Value → Except DocumentProblem β) (pick : Entry → Option β) : Prop where
  /-- The entry of the field is picked. -/
  found : ∀ value entry, shape.ReadsAs (name, value) entry →
    ∃ content, read value = .ok content ∧ pick entry = some content
  /-- No other entry is. -/
  others : ∀ named entry, named.1 ≠ name → shape.ReadsAs named entry → pick entry = none

/-- A field that wraps what its reader makes of a value is picked by what unwraps it. -/
theorem picks_of_field (distinct : shape.fieldNames.Nodup) {name : String}
    {read : Value → Except DocumentProblem β} (wrap : β → Entry) {pick : Entry → Option β}
    (member : ⟨name, fun value => (read value).map wrap⟩ ∈ shape.fields)
    (unwraps : ∀ content, pick (wrap content) = some content)
    (others : ∀ field ∈ shape.fields, field.name ≠ name → ∀ value entry,
      field.read value = .ok entry → pick entry = none) : shape.Picks name read pick where
  found := by
    intro value entry reads
    obtain ⟨field, field_mem, name_eq, read_eq⟩ := reads.exists_field
    obtain rfl := List.inj_on_of_nodup_map distinct field_mem member name_eq
    obtain ⟨content, content_eq, rfl⟩ := (Traversal.map_eq_ok_iff _ _ _).mp read_eq
    exact ⟨content, content_eq, unwraps content⟩
  others := by
    intro named entry other reads
    obtain ⟨field, field_mem, name_eq, read_eq⟩ := reads.exists_field
    exact others field field_mem (name_eq ▸ other) named.2 entry read_eq

/-- What is picked from the entries of a record is what the record says under the field's name. -/
theorem Picks.findSome?_eq {name : String} {read : Value → Except DocumentProblem β}
    {pick : Entry → Option β} (picks : shape.Picks name read pick)
    (distinct : (entries.map Prod.fst).Nodup) {found : List Entry}
    (reads : List.Forall₂ shape.ReadsAs (format.visitOrder entries) found) :
    found.findSome? pick = stated? entries name read := by
  have perm := format.visitOrder_perm entries
  rw [stated?]
  cases under : entries.lookup name with
  | none =>
      have absent : name ∉ (format.visitOrder entries).map Prod.fst := by
        rw [(perm.map Prod.fst).mem_iff]
        exact NamedMap.lookup_eq_none_iff_notMem.mp under
      exact findSome?_eq_none_of_notMem picks.others reads absent
  | some value =>
      have member : (name, value) ∈ format.visitOrder entries := by
        obtain ⟨front, back, rfl, -⟩ := List.lookup_eq_some_iff.mp under
        exact perm.mem_iff.mpr (by simp)
      obtain ⟨entry, entry_read, picked⟩ := exists_findSome?_eq picks.others
        ((perm.map Prod.fst).nodup_iff.mpr distinct) reads member
      obtain ⟨content, content_eq, pick_eq⟩ := picks.found value entry entry_read
      rw [picked, pick_eq, Option.bind_some, content_eq, Except.toOption]

end RecordShape
end DataLayer

import DataLayer.Document.Record
import DataLayer.Proofs.NamedMap
import DataLayer.Proofs.Traversal

/-!
# Records field by field

A record is read when its names are known and distinct and each value has the shape of its field.
What it comes to for a field is then decided by the one value under that name, wherever it stands.
-/

namespace DataLayer

section Order

variable {α : Type} {entries sorted : List (String × α)}

theorem sortByName_perm (entries : List (String × α)) : (sortByName entries).Perm entries :=
  List.mergeSort_perm entries _

theorem pairwise_sortByName (entries : List (String × α)) :
    (sortByName entries).Pairwise fun first second => first.1 ≤ second.1 := by
  refine (List.pairwise_mergeSort ?_ ?_ entries).imp of_decide_eq_true
  · intro first second third first_le second_le
    rw [decide_eq_true_iff] at first_le second_le ⊢
    exact String.le_trans first_le second_le
  · intro first second
    rw [Bool.or_eq_true, decide_eq_true_iff, decide_eq_true_iff]
    exact String.le_total first.1 second.1

/-- Under distinct names there is one order only. -/
theorem sortByName_eq_iff (distinct : (entries.map Prod.fst).Nodup) :
    sortByName entries = sorted ↔
      entries.Perm sorted ∧ sorted.Pairwise fun first second => first.1 ≤ second.1 := by
  constructor
  · rintro rfl
    exact ⟨(sortByName_perm entries).symm, pairwise_sortByName entries⟩
  · rintro ⟨perm, ordered⟩
    have sorted_perm := (sortByName_perm entries).trans perm
    refine List.Perm.eq_of_pairwise ?_ (pairwise_sortByName entries) ordered sorted_perm
    intro first second first_mem second_mem first_le second_le
    have first_mem := (sortByName_perm entries).mem_iff.mp first_mem
    have second_mem := perm.mem_iff.mpr second_mem
    exact List.inj_on_of_nodup_map distinct first_mem second_mem
      (String.le_antisymm first_le second_le)

end Order

namespace RecordShape

variable {Entry α : Type}

/-- The named value has a field, and reads as the entry there. -/
def ReadsAs (shape : RecordShape Entry) (named : String × Value) (entry : Entry) : Prop :=
  ∃ field, shape.fields.find? (·.name == named.1) = some field ∧ field.read named.2 = .ok entry

theorem ReadsAs.exists_field {shape : RecordShape Entry} {named : String × Value} {entry : Entry}
    (reads : shape.ReadsAs named entry) :
    ∃ field ∈ shape.fields, field.name = named.1 ∧ field.read named.2 = .ok entry := by
  obtain ⟨field, found, read⟩ := reads
  exact ⟨field, List.mem_of_find?_eq_some found, by simpa using List.find?_some found, read⟩

/-- Named values are read when all names are known and new, and all values have the right shape. -/
theorem readNamed_eq_ok_iff (shape : RecordShape Entry) (seen : List String)
    (entries : List (String × Value)) (found : List Entry) :
    shape.readNamed seen entries = .ok found ↔
      (entries.map Prod.fst).Nodup ∧ (∀ name ∈ entries.map Prod.fst, name ∉ seen) ∧
        List.Forall₂ shape.ReadsAs entries found := by
  induction entries generalizing seen found with
  | nil => cases found <;> simp [readNamed]
  | cons named rest ih =>
      obtain ⟨name, value⟩ := named
      rw [readNamed, List.map_cons, List.nodup_cons, List.forall_mem_cons]
      cases field_eq : shape.fields.find? (·.name == name) with
      | none =>
          refine iff_of_false (by simp) ?_
          rintro ⟨-, -, reads⟩
          obtain ⟨entry, _, ⟨field, field_found, -⟩, -, -⟩ := List.forall₂_cons_left_iff.mp reads
          simp [field_eq] at field_found
      | some field =>
          by_cases again : seen.contains name = true
          · refine iff_of_false (by simp only [if_pos again, reduceCtorEq, not_false_eq_true]) ?_
            rintro ⟨-, ⟨new, -⟩, -⟩
            exact new (List.contains_iff_mem.mp again)
          · have new : name ∉ seen := mt List.contains_iff_mem.mpr again
            have reads_iff : ∀ entry, shape.ReadsAs (name, value) entry ↔
                field.read value = .ok entry := by
              intro entry
              simp [ReadsAs, field_eq]
            simp only [if_neg again, Traversal.bind_eq_ok_iff, Traversal.pure_eq_ok_iff, ih,
              List.forall₂_cons_left_iff, reads_iff, List.mem_cons, not_or]
            constructor
            · rintro ⟨entry, read, others, ⟨distinct, fresh, reads⟩, rfl⟩
              exact ⟨⟨fun member => (fresh name member).1 rfl, distinct⟩,
                ⟨new, fun other member => (fresh other member).2⟩, entry, others, read, reads, rfl⟩
            · rintro ⟨⟨first, distinct⟩, ⟨-, fresh⟩, entry, others, read, reads, rfl⟩
              refine ⟨entry, read, others, ⟨distinct, fun other member => ⟨?_, fresh other member⟩,
                reads⟩, rfl⟩
              rintro rfl
              exact first member

/-- Nothing is picked from the entries if none of the names brings about such an entry. -/
theorem findSome?_eq_none_of_notMem {shape : RecordShape Entry} {pick : Entry → Option α}
    {name : String}
    (others : ∀ named entry, named.1 ≠ name → shape.ReadsAs named entry → pick entry = none)
    {entries : List (String × Value)} {found : List Entry}
    (reads : List.Forall₂ shape.ReadsAs entries found) (absent : name ∉ entries.map Prod.fst) :
    found.findSome? pick = none := by
  induction reads with
  | nil => rfl
  | @cons named entry rest later read reads ih =>
      rw [List.map_cons, List.mem_cons, not_or] at absent
      rw [List.findSome?_cons, others named entry (Ne.symm absent.1) read]
      exact ih absent.2

/-- What is picked from the entries comes from the value under one name, if no other name brings
about such an entry. -/
theorem exists_findSome?_eq {shape : RecordShape Entry} {pick : Entry → Option α} {name : String}
    (others : ∀ named entry, named.1 ≠ name → shape.ReadsAs named entry → pick entry = none)
    {entries : List (String × Value)} {found : List Entry}
    (distinct : (entries.map Prod.fst).Nodup) (reads : List.Forall₂ shape.ReadsAs entries found)
    {value : Value} (member : (name, value) ∈ entries) :
    ∃ entry, shape.ReadsAs (name, value) entry ∧ found.findSome? pick = pick entry := by
  induction reads with
  | nil => simp at member
  | @cons named entry rest later read reads ih =>
      rw [List.map_cons, List.nodup_cons] at distinct
      rcases List.mem_cons.mp member with rfl | below
      · refine ⟨entry, read, ?_⟩
        have none_later := findSome?_eq_none_of_notMem others reads distinct.1
        rw [List.findSome?_cons, none_later]
        cases pick entry <;> rfl
      · have named_ne : named.1 ≠ name := fun same =>
          distinct.1 (same ▸ List.mem_map_of_mem below)
        rw [List.findSome?_cons, others named entry named_ne read]
        exact ih distinct.2 below

/-- A record in TOML is read when its named values are and its entries go together. -/
theorem read_toml_eq_ok_iff (shape : RecordShape Entry)
    (assemble : RecordStyle → List Entry → Except DocumentProblem α)
    (entries : List (String × Value)) (result : α) :
    shape.read .toml assemble (.record entries true) = .ok result ↔
      ∃ found, shape.readNamed [] (sortByName entries) = .ok found ∧
        assemble .named found = .ok result := by
  simp only [read, DocumentFormat.visitOrder, if_true, Traversal.bind_eq_ok_iff]

theorem read_toml_of_ordered (shape : RecordShape Entry)
    (assemble : RecordStyle → List Entry → Except DocumentProblem α)
    {entries : List (String × Value)}
    (ordered : entries.Pairwise fun first second => first.1 ≤ second.1) (closed : Bool) :
    shape.read .toml assemble (.record entries closed) =
      shape.read .json assemble (.record entries closed) := by
  have sorted : sortByName entries = entries :=
    List.mergeSort_of_pairwise (ordered.imp decide_eq_true)
  simp only [read, DocumentFormat.visitOrder, sorted]

theorem read_empty (shape : RecordShape Entry) (format : DocumentFormat)
    (assemble : RecordStyle → List Entry → Except DocumentProblem α) :
    shape.read format assemble (.record [] true) = assemble .named [] := by
  cases format with
  | json => rfl
  | toml => exact shape.read_toml_of_ordered assemble List.Pairwise.nil true

/-- The value under a name decides what is picked for it from a record in TOML. -/
theorem exists_readsAs_of_read {shape : RecordShape Entry}
    {assemble : RecordStyle → List Entry → Except DocumentProblem α}
    {entries : List (String × Value)} {result : α}
    (read : shape.read .toml assemble (.record entries true) = .ok result) {name : String}
    {value : Value} (under : entries.lookup name = some value) {β : Type}
    (pick : Entry → Option β)
    (others : ∀ named entry, named.1 ≠ name → shape.ReadsAs named entry → pick entry = none) :
    ∃ found entry, assemble .named found = .ok result ∧ shape.ReadsAs (name, value) entry ∧
      found.findSome? pick = pick entry := by
  obtain ⟨found, named_read, assembled⟩ := (shape.read_toml_eq_ok_iff _ _ _).mp read
  obtain ⟨distinct, -, reads⟩ := (shape.readNamed_eq_ok_iff _ _ _).mp named_read
  have member : (name, value) ∈ sortByName entries := by
    obtain ⟨front, back, rfl, -⟩ := List.lookup_eq_some_iff.mp under
    exact (sortByName_perm _).mem_iff.mpr (by simp)
  obtain ⟨entry, entry_read, picked⟩ := exists_findSome?_eq others distinct reads member
  exact ⟨found, entry, assembled, entry_read, picked⟩

end RecordShape
end DataLayer

import DataLayer.Proofs.Document.Fields

/-!
# Values that are left out

Where no name comes twice, each value of a record is read for itself.  So a named value can be left
out of a record if it is well formed and its entry makes no difference.  What else the record holds
does not matter, nor does which of its values is the first at fault.
-/

namespace DataLayer

/-- Values can be left out before or behind the sorting. -/
theorem DocumentFormat.visitOrder_filter {α : Type} (format : DocumentFormat)
    (keep : String × α → Bool) {entries : List (String × α)}
    (distinct : (entries.map Prod.fst).Nodup) :
    format.visitOrder (entries.filter keep) = (format.visitOrder entries).filter keep := by
  cases format with
  | json => rfl
  | toml =>
      have kept_distinct : ((entries.filter keep).map Prod.fst).Nodup :=
        distinct.sublist (List.filter_sublist.map Prod.fst)
      refine (sortByName_eq_iff kept_distinct).mpr ⟨?_, (pairwise_sortByName entries).filter keep⟩
      exact ((sortByName_perm entries).filter keep).symm

namespace Value

/-- The named values of a record. -/
def entries : Value → List (String × Value)
  | .record entries _ => entries
  | _ => []

/-- The value without what stands in it under some names. -/
def without (document : Value) (names : List String) : Value :=
  match document with
  | .record entries closed => .record (entries.filter fun named => named.1 ∉ names) closed
  | other => other

end Value

namespace RecordShape

variable {Entry α : Type}

/-- What one named value of a record is read as. -/
def readEntry (shape : RecordShape Entry) (named : String × Value) :
    Except DocumentProblem Entry :=
  match shape.fields.find? (·.name == named.1) with
  | none => .error (.unknownField named.1 shape.fieldNames)
  | some field => field.read named.2

theorem readEntry_eq_ok_iff (shape : RecordShape Entry) (named : String × Value) (entry : Entry) :
    shape.readEntry named = .ok entry ↔ shape.ReadsAs named entry := by
  rw [readEntry, ReadsAs]
  cases shape.fields.find? (·.name == named.1) <;> simp

theorem ReadsAs.unique {shape : RecordShape Entry} {named : String × Value} {entry other : Entry}
    (reads : shape.ReadsAs named entry) (other_reads : shape.ReadsAs named other) :
    entry = other := by
  rw [← readEntry_eq_ok_iff] at reads other_reads
  exact Except.ok.inj (reads.symm.trans other_reads)

theorem readNamed_eq_mapM (shape : RecordShape Entry) {seen : List String}
    {entries : List (String × Value)} (distinct : (entries.map Prod.fst).Nodup)
    (fresh : ∀ name ∈ entries.map Prod.fst, name ∉ seen) :
    shape.readNamed seen entries = entries.mapM shape.readEntry := by
  induction entries generalizing seen with
  | nil => rfl
  | cons named rest ih =>
      obtain ⟨name, value⟩ := named
      rw [List.map_cons, List.nodup_cons] at distinct
      rw [List.map_cons, List.forall_mem_cons] at fresh
      rw [readNamed, List.mapM_cons, readEntry]
      cases shape.fields.find? (·.name == name) with
      | none => rfl
      | some field =>
          have new : seen.contains name = false := by simpa using fresh.1
          have rest_fresh : ∀ other ∈ rest.map Prod.fst, other ∉ name :: seen := by
            intro other member
            rw [List.mem_cons, not_or]
            exact ⟨fun same => distinct.1 (same ▸ member), fresh.2 other member⟩
          simp only [new, ih distinct.2 rest_fresh]
          rfl

variable {shape : RecordShape Entry} {format : DocumentFormat}
  {assemble : RecordStyle → List Entry → Except DocumentProblem α}
  {entries : List (String × Value)} {closed : Bool}

/-- Well formed values can be left out of a record if the others come to the same without their
entries. -/
theorem read_filter {keep : String × Value → Bool} (kept : Entry → Bool)
    (distinct : (entries.map Prod.fst).Nodup)
    (shows : ∀ named ∈ entries, ∀ entry, shape.ReadsAs named entry → kept entry = keep named)
    (readable : ∀ named ∈ entries, keep named = false → shape.Readable named)
    (assembled : ∀ found, (∀ entry ∈ found, ∃ named ∈ entries, shape.ReadsAs named entry) →
      assemble .named (found.filter kept) = assemble .named found) :
    shape.read format assemble (.record (entries.filter keep) closed) =
      shape.read format assemble (.record entries closed) := by
  have perm := format.visitOrder_perm entries
  have visited_distinct : ((format.visitOrder entries).map Prod.fst).Nodup :=
    (perm.map Prod.fst).nodup_iff.mpr distinct
  have kept_distinct : (((format.visitOrder entries).filter keep).map Prod.fst).Nodup :=
    visited_distinct.sublist (List.filter_sublist.map Prod.fst)
  have named_eq : ((format.visitOrder entries).filter keep).mapM shape.readEntry =
      ((format.visitOrder entries).mapM shape.readEntry).map (List.filter kept) := by
    refine Traversal.mapM_filter ?_ ?_ <;> simp only [readEntry_eq_ok_iff, perm.mem_iff]
    · exact shows
    · exact readable
  simp only [read, format.visitOrder_filter keep distinct]
  rw [readNamed_eq_mapM shape kept_distinct (by simp),
    readNamed_eq_mapM shape visited_distinct (by simp), named_eq]
  cases found_eq : (format.visitOrder entries).mapM shape.readEntry with
  | error error => rfl
  | ok found =>
      cases closed with
      | false => rfl
      | true =>
          refine assembled found fun entry member => ?_
          obtain ⟨named, visited, read⟩ := Traversal.exists_input_of_mapM found_eq member
          exact ⟨named, perm.mem_iff.mp visited, (readEntry_eq_ok_iff _ _ _).mp read⟩

end RecordShape
end DataLayer

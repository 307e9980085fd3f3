import DataLayer.Proofs.Template.Markers
import DataLayer.Proofs.Traversal

/-!
# Filled templates

Filling the fields of a template either replaces at once every marker that names a field with a
value, or names the leftmost marker of a field that has none.  Filling the blocks of a frame always
succeeds.
-/

namespace DataLayer
namespace FieldMap

/-- The value of a field that has one. -/
def value? (fields : FieldMap) (name : List Char) : Option (List Char) :=
  (fields.get? (String.ofList name)).join.map String.toList

/-- The field exists and has no value. -/
def IsUnset (fields : FieldMap) (name : List Char) : Prop :=
  fields.get? (String.ofList name) = some none

end FieldMap

namespace Template

variable {fields : FieldMap}

/-- The markers that name a field with a value, each with that value. -/
def fieldRule (fields : FieldMap) : ReplacementRule :=
  markerRule fieldOpening fields.value?

/-- The markers that name a block, each with its text. -/
def blockRule (blocks : NamedMap String) : ReplacementRule :=
  markerRule blockOpening fun name => (blocks.get? (String.ofList name)).map String.toList

theorem fillFieldPiece_eq_ok_iff (piece : Piece) (text : List Char) :
    fillFieldPiece fields piece = .ok text ↔
      (∀ name, piece = .marker name → ¬ fields.IsUnset name) ∧
        piece.replacedBy fieldOpening fields.value? = text := by
  cases piece with
  | literal c => simp [fillFieldPiece, Piece.replacedBy]
  | marker name =>
      unfold fillFieldPiece Piece.replacedBy FieldMap.value? FieldMap.IsUnset
      cases found : fields.get? (String.ofList name) with
      | none => simp [found]
      | some value => cases value <;> simp [found]

theorem fillFieldPiece_eq_error_iff (piece : Piece) (error : TemplateError) :
    fillFieldPiece fields piece = .error error ↔
      ∃ name, piece = .marker name ∧ fields.IsUnset name ∧
        error = .missingFieldValue (String.ofList name) := by
  cases piece with
  | literal c => simp [fillFieldPiece]
  | marker name =>
      unfold fillFieldPiece FieldMap.IsUnset
      cases found : fields.get? (String.ofList name) with
      | none => simp [found]
      | some value => cases value <;> simp [found, eq_comm]

/-- No field marker of the template names an unset field. -/
def AllSet (fields : FieldMap) (template : String) : Prop :=
  ∀ before name, HasMarker fieldOpening template.toList before name → ¬ fields.IsUnset name

/-- The name of the leftmost marker whose field is unset. -/
def IsLeftmostUnset (fields : FieldMap) (template : String) (name : List Char) : Prop :=
  ∃ before, HasMarker fieldOpening template.toList before name ∧ fields.IsUnset name ∧
    ∀ earlier other, HasMarker fieldOpening template.toList earlier other →
      fields.IsUnset other → before.length ≤ earlier.length

theorem allSet_iff_pieces (template : String) :
    AllSet fields template ↔ ∀ piece ∈ Piece.scan fieldOpening template.toList,
      ∃ text, fillFieldPiece fields piece = .ok text := by
  constructor
  · intro allSet piece member
    refine ⟨_, (fillFieldPiece_eq_ok_iff piece _).mpr ⟨?_, rfl⟩⟩
    rintro name rfl
    obtain ⟨left, right, split⟩ := List.append_of_mem member
    exact allSet _ name (Piece.hasMarker_of_scan_eq isOpening_fieldOpening split)
  · intro filled before name present
    obtain ⟨left, right, split, -⟩ :=
      Piece.exists_piece_of_hasMarker isOpening_fieldOpening present
    obtain ⟨text, done⟩ := filled (.marker name) (by simp [split])
    exact ((fillFieldPiece_eq_ok_iff _ _).mp done).1 name rfl

theorem exists_fillFields_eq_ok_iff (fields : FieldMap) (template : String) :
    (∃ filled, fillFields fields template = .ok filled) ↔ AllSet fields template := by
  rw [allSet_iff_pieces, ← Traversal.exists_mapM_eq_ok_iff]
  unfold fillFields
  cases (Piece.scan fieldOpening template.toList).mapM (fillFieldPiece fields) with
  | error error => simp [Except.map]
  | ok texts => simp [Except.map]

theorem replacesAll_of_fillFields {template filled : String}
    (done : fillFields fields template = .ok filled) :
    ReplacesAll (fieldRule fields) template.toList filled.toList := by
  unfold fillFields at done
  cases outcome : (Piece.scan fieldOpening template.toList).mapM (fillFieldPiece fields) with
  | error error => simp [outcome, Except.map] at done
  | ok texts =>
      obtain rfl : String.ofList texts.flatten = filled := by
        simpa [outcome, Except.map] using done
      have texts_eq : texts = (Piece.scan fieldOpening template.toList).map
          (Piece.replacedBy fieldOpening fields.value?) := by
        rw [Traversal.mapM_eq_ok_iff] at outcome
        rw [← List.forall₂_eq_eq_eq, List.forall₂_map_right_iff]
        refine (outcome.imp ?_).flip
        intro piece text filledPiece
        exact (((fillFieldPiece_eq_ok_iff piece text).mp filledPiece).2).symm
      have replaced :=
        Piece.replacesAll_scan isOpening_fieldOpening fields.value? template.toList
      rw [texts_eq, String.toList_ofList]
      exact replaced

/-- A filled template is determined by what has to be replaced in it. -/
theorem fillFields_eq_ok_iff (fields : FieldMap) (template filled : String) :
    fillFields fields template = .ok filled ↔
      AllSet fields template ∧ ReplacesAll (fieldRule fields) template.toList filled.toList := by
  constructor
  · intro done
    exact ⟨(exists_fillFields_eq_ok_iff fields template).mp ⟨filled, done⟩,
      replacesAll_of_fillFields done⟩
  · rintro ⟨allSet, replaced⟩
    obtain ⟨other, done⟩ := (exists_fillFields_eq_ok_iff fields template).mpr allSet
    have same : filled.toList = other.toList := replaced.unique
      (isOpening_fieldOpening.separate_markerRule fields.value?).nonempty
      (replacesAll_of_fillFields done)
    rw [done, String.toList_injective same]

/-- Filling fails with the leftmost marker whose field is unset. -/
theorem isLeftmostUnset_of_fillFields {template : String} {error : TemplateError}
    (failed : fillFields fields template = .error error) :
    ∃ name, IsLeftmostUnset fields template name ∧
      error = .missingFieldValue (String.ofList name) := by
  have stopped : (Piece.scan fieldOpening template.toList).mapM (fillFieldPiece fields) =
      .error error := by
    unfold fillFields at failed
    cases outcome : (Piece.scan fieldOpening template.toList).mapM (fillFieldPiece fields) with
    | ok texts => simp [outcome, Except.map] at failed
    | error cause => simpa [outcome, Except.map] using failed
  obtain ⟨front, failing, back, split, passed, refused⟩ :=
    (Traversal.mapM_eq_error_iff _ _ _).mp stopped
  obtain ⟨name, rfl, unset, rfl⟩ := (fillFieldPiece_eq_error_iff failing error).mp refused
  refine ⟨name, ⟨_, Piece.hasMarker_of_scan_eq isOpening_fieldOpening split, unset, ?_⟩, rfl⟩
  intro earlier other present otherUnset
  obtain ⟨left, right, otherSplit, rfl⟩ :=
    Piece.exists_piece_of_hasMarker isOpening_fieldOpening present
  rcases List.append_eq_append_iff.mp (split.symm.trans otherSplit) with
    ⟨between, left_eq, -⟩ | ⟨between, front_eq, tail_eq⟩
  · rw [left_eq, List.flatMap_append, List.length_append]
    omega
  · cases between with
    | nil => simp [front_eq]
    | cons piece between =>
        -- A marker further left is among the pieces that were filled.
        obtain ⟨rfl, -⟩ := List.cons.inj tail_eq
        obtain ⟨text, done⟩ := passed (.marker other) (by simp [front_eq])
        exact absurd otherUnset (((fillFieldPiece_eq_ok_iff _ _).mp done).1 other rfl)

theorem IsLeftmostUnset.unique {template : String} {name other : List Char}
    (first : IsLeftmostUnset fields template name)
    (second : IsLeftmostUnset fields template other) : name = other := by
  obtain ⟨before, ⟨valid, after, same⟩, unset, leftmost⟩ := first
  obtain ⟨otherBefore, ⟨otherValid, otherAfter, otherSame⟩, otherUnset, otherLeftmost⟩ := second
  have lengths : before.length = otherBefore.length := Nat.le_antisymm
    (leftmost otherBefore other ⟨otherValid, otherAfter, otherSame⟩ otherUnset)
    (otherLeftmost before name ⟨valid, after, same⟩ unset)
  rw [← otherSame, List.append_assoc, List.append_assoc] at same
  have marker_eq : (Piece.marker other).written fieldOpening ++ otherAfter =
      [] ++ (Piece.marker name).written fieldOpening ++ after :=
    (List.append_inj_right same lengths).symm
  refine (isOpening_fieldOpening.markers_apart otherValid valid marker_eq ?_).2
  exact List.length_pos_iff.mpr (Piece.written_marker_ne_nil fieldOpening other)

theorem fillBlockPiece_eq_replacedBy (blocks : NamedMap String) (piece : Piece) :
    fillBlockPiece blocks piece = piece.replacedBy blockOpening fun name =>
      (blocks.get? (String.ofList name)).map String.toList := by
  cases piece with
  | literal c => rfl
  | marker name =>
      cases found : blocks.get? (String.ofList name) <;>
        simp [fillBlockPiece, Piece.replacedBy, found]

theorem replacesAll_fillBlocks (blocks : NamedMap String) (template : String) :
    ReplacesAll (blockRule blocks) template.toList (fillBlocks blocks template).toList := by
  rw [fillBlocks, String.toList_ofList, funext (fillBlockPiece_eq_replacedBy blocks)]
  exact Piece.replacesAll_scan isOpening_blockOpening _ template.toList

/-- Fields are filled all at once, or the leftmost marker of an unset field is named. -/
theorem fillFields_simultaneous (fields : FieldMap) (template : String) :
    ((∃ filled, fillFields fields template = .ok filled) ↔ AllSet fields template) ∧
      (∀ filled, fillFields fields template = .ok filled ↔
        AllSet fields template ∧
          ReplacesAll (fieldRule fields) template.toList filled.toList) ∧
      ∀ error, fillFields fields template = .error error ↔
        ∃ name, IsLeftmostUnset fields template name ∧
          error = .missingFieldValue (String.ofList name) := by
  refine ⟨exists_fillFields_eq_ok_iff fields template, fillFields_eq_ok_iff fields template, ?_⟩
  intro error
  constructor
  · exact isLeftmostUnset_of_fillFields
  · rintro ⟨name, leftmost, rfl⟩
    cases outcome : fillFields fields template with
    | ok filled =>
        obtain ⟨before, present, unset, -⟩ := leftmost
        have allSet := (exists_fillFields_eq_ok_iff fields template).mp ⟨filled, outcome⟩
        exact absurd unset (allSet before name present)
    | error cause =>
        obtain ⟨other, otherLeftmost, rfl⟩ := isLeftmostUnset_of_fillFields outcome
        rw [leftmost.unique otherLeftmost]

/-- Brackets around a marker stay, and an inserted marker is not looked at. -/
example : fillFields (.ofList [("A", some "[B]"), ("B", none)]) "[[A]] [C] [" =
    .ok "[[B]] [C] [" := by
  rfl

end Template
end DataLayer

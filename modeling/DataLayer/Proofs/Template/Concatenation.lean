import DataLayer.Proofs.Template.Filling

/-!
# Templates in parts

A template can be cut in front of any character that no field marker goes on with, in particular in
front of a marker, and filled in parts.  So the value of a field comes exactly where the marker
stands, whatever is around it.
-/

namespace DataLayer

/-- No field marker that has begun before the text goes on into it. -/
def BreaksMarkers (text : List Char) : Prop :=
  ∀ c ∈ text.head?, isMarkerNameChar c = false ∧ c ≠ ']'

/-- The marker of a field. -/
def Template.fieldMarker (name : String) : String :=
  "[" ++ name ++ "]"

theorem Template.toList_fieldMarker (name : String) :
    (fieldMarker name).toList = (Piece.marker name.toList).written fieldOpening := by
  simp [fieldMarker, Piece.written, fieldOpening]

theorem breaksMarkers_fieldMarker_append (name back : String) :
    BreaksMarkers (Template.fieldMarker name ++ back).toList := by
  rw [String.toList_append, Template.toList_fieldMarker]
  intro c head
  obtain rfl : '[' = c := by
    simpa [Piece.written, Template.fieldOpening] using head
  decide

/-- What follows a text does not decide about the marker at its front. -/
theorem leadingMarker?_append {text back : List Char} (nonempty : text ≠ [])
    (breaks : BreaksMarkers back) : leadingMarker? Template.fieldOpening (text ++ back) =
      leadingMarker? Template.fieldOpening text := by
  refine Option.ext fun name => ?_
  rw [leadingMarker?_eq_some_iff, leadingMarker?_eq_some_iff]
  refine ⟨fun ⟨valid, present⟩ => ⟨valid, ?_⟩, fun ⟨valid, present⟩ => ⟨valid, ?_⟩⟩
  · rw [List.nil_append] at present ⊢
    rcases List.prefix_or_prefix_of_prefix present (List.prefix_append text back) with
      inside | ⟨beyond, word_eq⟩
    · exact inside
    · cases beyond with
      | nil => exact ⟨[], by simpa using word_eq.symm⟩
      | cons c others =>
          -- The marker would go on with the first character behind the text.
          rw [← word_eq, List.prefix_append_right_inj] at present
          obtain ⟨rest, back_eq⟩ := present
          obtain ⟨notName, notClosing⟩ := breaks c (by simp [← back_eq])
          obtain ⟨first, below, rfl⟩ := List.exists_cons_of_ne_nil nonempty
          have name_eq : below ++ c :: others = name ++ [']'] :=
            (List.cons.inj word_eq).2
          have member : c ∈ name ++ [']'] := by simp [← name_eq]
          rcases List.mem_append.mp member with inName | atEnd
          · simp [valid.2 c inName] at notName
          · exact absurd (List.mem_singleton.mp atEnd) notClosing
  · exact present.trans (List.prefix_append text back)

namespace Piece

theorem scan_append (front : List Char) {back : List Char} (breaks : BreaksMarkers back) :
    scan Template.fieldOpening (front ++ back) =
      scan Template.fieldOpening front ++ scan Template.fieldOpening back := by
  induction front using scan_induction Template.fieldOpening with
  | nil => simp
  | literal c rest none ih =>
      have none_append : leadingMarker? Template.fieldOpening (c :: (rest ++ back)) = .none :=
        (leadingMarker?_append (List.cons_ne_nil c rest) breaks).trans none
      rw [List.cons_append, scan_cons_of_none none_append, ih, scan_cons_of_none none,
        List.cons_append]
  | marker name rest valid ih =>
      rw [List.append_assoc, scan_marker_append isOpening_fieldOpening valid, ih,
        scan_marker_append isOpening_fieldOpening valid, List.cons_append]

theorem scan_of_bracket_notMem {text : List Char} (absent : '[' ∉ text) :
    scan Template.fieldOpening text = text.map literal := by
  induction text with
  | nil => simp
  | cons c rest ih =>
      obtain ⟨other, below⟩ := not_or.mp (mt List.mem_cons.mpr absent)
      have none : leadingMarker? Template.fieldOpening (c :: rest) = .none := by
        simp [leadingMarker?, Template.fieldOpening, other]
      rw [scan_cons_of_none none, ih below, List.map_cons]

end Piece

namespace Template

variable {fields : FieldMap}

/-- A template is filled in parts. -/
theorem fillFields_append (front : String) {back : String} (breaks : BreaksMarkers back.toList) :
    fillFields fields (front ++ back) = do
      let filled ← fillFields fields front
      let behind ← fillFields fields back
      return filled ++ behind := by
  rw [fillFields, String.toList_append, Piece.scan_append _ breaks, List.mapM_append, fillFields,
    fillFields]
  cases (Piece.scan fieldOpening front.toList).mapM (fillFieldPiece fields) with
  | error error => rfl
  | ok filled =>
      cases (Piece.scan fieldOpening back.toList).mapM (fillFieldPiece fields) with
      | error error => rfl
      | ok behind =>
          change Except.ok (String.ofList (filled ++ behind).flatten) =
            .ok (String.ofList filled.flatten ++ String.ofList behind.flatten)
          rw [List.flatten_append, String.ofList_append]

theorem fillFields_of_bracket_notMem {text : String} (absent : '[' ∉ text.toList) :
    fillFields fields text = .ok text := by
  have pieces : (text.toList.map Piece.literal).mapM (fillFieldPiece fields) =
      .ok (text.toList.map fun c => [c]) := by
    rw [Traversal.mapM_eq_ok_iff, List.forall₂_map_left_iff, List.forall₂_map_right_iff]
    exact List.forall₂_same.mpr fun c _ => rfl
  have singletons : (text.toList.map fun c => [c]).flatten = text.toList := by
    rw [← List.flatMap_def, List.flatMap_singleton']
  rw [fillFields, Piece.scan_of_bracket_notMem absent, pieces, Except.map, singletons,
    String.ofList_toList]

/-- Only the marker at the front of a text matters for what comes in its place. -/
theorem fillFields_marker_append {name text : String} (valid : IsMarkerName name.toList)
    (filled : fillFieldPiece fields (.marker name.toList) = .ok text.toList) (back : String) :
    fillFields fields (fieldMarker name ++ back) = do
      let behind ← fillFields fields back
      return text ++ behind := by
  rw [fillFields, String.toList_append, toList_fieldMarker,
    Piece.scan_marker_append isOpening_fieldOpening valid, List.mapM_cons, filled, fillFields]
  cases (Piece.scan fieldOpening back.toList).mapM (fillFieldPiece fields) with
  | error error => rfl
  | ok behind =>
      change Except.ok (String.ofList (text.toList :: behind).flatten) =
        .ok (text ++ String.ofList behind.flatten)
      rw [List.flatten_cons, String.ofList_append, String.ofList_toList]

/-- What a marker becomes comes between what is before it and what is behind it. -/
theorem fillFields_around_marker {name text : String} (valid : IsMarkerName name.toList)
    (filled : fillFieldPiece fields (.marker name.toList) = .ok text.toList)
    (front back : String) :
    fillFields fields (front ++ fieldMarker name ++ back) = do
      let before ← fillFields fields front
      let behind ← fillFields fields back
      return before ++ text ++ behind := by
  rw [String.append_assoc, fillFields_append front (breaksMarkers_fieldMarker_append name back),
    fillFields_marker_append valid filled]
  cases fillFields fields front with
  | error error => rfl
  | ok before =>
      cases fillFields fields back with
      | error error => rfl
      | ok behind =>
          change Except.ok (before ++ (text ++ behind)) = .ok (before ++ text ++ behind)
          rw [String.append_assoc]

end Template
end DataLayer

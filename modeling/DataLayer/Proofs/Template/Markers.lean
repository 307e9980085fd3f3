import DataLayer.Proofs.Template.Replacement
import DataLayer.Template.Fill
import Mathlib.Data.List.TakeWhile

/-!
# Markers of a template

The markers among the pieces of a template are exactly the occurrences of markers in it: reading
from left to right loses none, because two markers never overlap.  So a template that is filled
piece by piece has all its markers replaced at once.
-/

namespace DataLayer

/-- A name that a marker can carry. -/
def IsMarkerName (name : List Char) : Prop :=
  name ≠ [] ∧ ∀ c ∈ name, isMarkerNameChar c = true

instance (name : List Char) : Decidable (IsMarkerName name) :=
  inferInstanceAs (Decidable (name ≠ [] ∧ ∀ c ∈ name, isMarkerNameChar c = true))

/-- A marker with the given opening and name stands in a text right behind `before`. -/
def HasMarker (opening text before name : List Char) : Prop :=
  IsMarkerName name ∧ before ++ (Piece.marker name).written opening <+: text

/-- The markers of some names, each with the text that takes its place. -/
def markerRule (opening : List Char) (value : List Char → Option (List Char)) : ReplacementRule :=
  fun word text =>
    ∃ name, IsMarkerName name ∧ word = (Piece.marker name).written opening ∧ value name = some text

/-- An opening that can only be met at the start of a marker. -/
structure IsOpening (opening : List Char) : Prop where
  /-- The first character stands neither in a name nor at the end of a marker. -/
  starts : ∃ c rest, opening = c :: rest ∧ isMarkerNameChar c = false ∧ c ≠ ']'
  /-- No proper end of the opening is a start of it. -/
  unbordered : ∀ i < opening.length, 0 < i → (opening.drop i).isPrefixOf opening = false

theorem isOpening_fieldOpening : IsOpening Template.fieldOpening where
  starts := ⟨'[', [], rfl, by decide, by decide⟩
  unbordered := by decide

theorem isOpening_blockOpening : IsOpening Template.blockOpening where
  starts := ⟨'/', ['/', '['], rfl, by decide, by decide⟩
  unbordered := by decide

theorem isMarkerNameChar_closing : isMarkerNameChar ']' = false := by decide

theorem markerName?_eq_some_iff (text name : List Char) :
    markerName? text = some name ↔ IsMarkerName name ∧ name ++ [']'] <+: text := by
  constructor
  · intro found
    simp only [markerName?, Bool.and_eq_true, Bool.not_eq_true', beq_iff_eq] at found
    split at found
    · rename_i conditions
      obtain ⟨nonempty, closing⟩ := conditions
      obtain rfl := Option.some.inj found
      refine ⟨⟨by simpa using nonempty, fun c member => ?_⟩, ?_⟩
      · exact List.mem_takeWhile_imp member
      · obtain ⟨after, dropped⟩ := List.head?_eq_some_iff.mp closing
        refine ⟨after, ?_⟩
        calc
          text.takeWhile isMarkerNameChar ++ [']'] ++ after
              = text.takeWhile isMarkerNameChar ++ text.dropWhile isMarkerNameChar := by
            rw [dropped, List.append_assoc]
            rfl
          _ = text := List.takeWhile_append_dropWhile
    · simp at found
  · rintro ⟨⟨nonempty, valid⟩, after, rfl⟩
    have taken : (name ++ [']'] ++ after).takeWhile isMarkerNameChar = name := by
      rw [List.append_assoc, List.takeWhile_append_of_pos valid]
      simp [isMarkerNameChar_closing]
    have dropped : (name ++ [']'] ++ after).dropWhile isMarkerNameChar = ']' :: after := by
      rw [List.append_assoc, List.dropWhile_append_of_pos valid]
      simp [isMarkerNameChar_closing]
    rw [markerName?, taken, dropped]
    simp [nonempty]

/-- A marker is read off the front of a text exactly where one stands. -/
theorem leadingMarker?_eq_some_iff (opening text name : List Char) :
    leadingMarker? opening text = some name ↔ HasMarker opening text [] name := by
  constructor
  · intro found
    unfold leadingMarker? at found
    split at found
    · rename_i opened
      obtain ⟨rest, rfl⟩ := List.isPrefixOf_iff_prefix.mp opened
      rw [List.drop_left, markerName?_eq_some_iff] at found
      obtain ⟨valid, after, rfl⟩ := found
      exact ⟨valid, after, by simp [Piece.written]⟩
    · simp at found
  · rintro ⟨valid, after, rfl⟩
    have opened : opening.isPrefixOf ([] ++ (Piece.marker name).written opening ++ after) = true :=
      List.isPrefixOf_iff_prefix.mpr ⟨name ++ [']'] ++ after, by simp [Piece.written]⟩
    rw [leadingMarker?, if_pos opened, markerName?_eq_some_iff]
    exact ⟨valid, after, by simp [Piece.written]⟩

theorem Piece.written_marker_ne_nil (opening name : List Char) :
    (Piece.marker name).written opening ≠ [] := by
  simp [Piece.written]

namespace IsOpening

variable {opening : List Char}

theorem not_inside_opening (isOpening : IsOpening opening) {rest before after : List Char}
    (same : opening ++ rest = before ++ (opening ++ after)) (nonempty : before ≠ []) :
    opening.length ≤ before.length := by
  by_contra short
  have inside : before.length < opening.length := Nat.lt_of_not_le short
  have opened : opening <+: opening.drop before.length ++ rest := by
    refine ⟨after, ?_⟩
    rw [← List.drop_append_of_le_length (Nat.le_of_lt inside), same, List.drop_left]
  have border : opening.drop before.length <+: opening :=
    List.prefix_of_prefix_length_le (List.prefix_append _ _) opened (by simp)
  have unbordered := isOpening.unbordered before.length inside (List.length_pos_iff.mpr nonempty)
  rw [List.isPrefixOf_iff_prefix.mpr border] at unbordered
  exact Bool.noConfusion unbordered

theorem not_inside_name (isOpening : IsOpening opening) {name rest before after : List Char}
    (valid : IsMarkerName name) (same : name ++ [']'] ++ rest = before ++ (opening ++ after)) :
    (name ++ [']']).length ≤ before.length := by
  by_contra short
  obtain ⟨c, tail, rfl, notName, notClosing⟩ := isOpening.starts
  have found : (name ++ [']'] ++ rest)[before.length]? = some c := by
    rw [same]
    simp
  rw [List.getElem?_append_left (Nat.lt_of_not_le short)] at found
  rcases List.mem_append.mp (List.mem_of_getElem? found) with inName | atEnd
  · simp [valid.2 c inName] at notName
  · exact notClosing (List.mem_singleton.mp atEnd)

/-- A marker that starts within another one is that marker. -/
theorem markers_apart (isOpening : IsOpening opening) {name other rest before after : List Char}
    (valid : IsMarkerName name) (otherValid : IsMarkerName other)
    (same : (Piece.marker name).written opening ++ rest =
      before ++ (Piece.marker other).written opening ++ after)
    (inside : before.length < ((Piece.marker name).written opening).length) :
    before = [] ∧ other = name := by
  have before_nil : before = [] := by
    by_contra nonempty
    have opened : opening ++ (name ++ [']'] ++ rest) =
        before ++ (opening ++ (other ++ [']'] ++ after)) := by
      simpa [Piece.written] using same
    have behind := isOpening.not_inside_opening opened nonempty
    rw [← List.append_assoc before] at opened
    obtain ⟨front, rfl, named⟩ := split_behind opened behind
    rw [List.append_assoc front] at named
    have outside := isOpening.not_inside_name valid named
    simp only [Piece.written, List.length_append] at inside outside
    omega
  subst before_nil
  have leading := (leadingMarker?_eq_some_iff opening _ name).mpr ⟨valid, rest, rfl⟩
  have otherLeading := (leadingMarker?_eq_some_iff opening _ other).mpr
    ⟨otherValid, after, same.symm⟩
  exact ⟨rfl, Option.some.inj (otherLeading.symm.trans leading)⟩

/-- Replacing markers is a rule whose words never overlap. -/
theorem separate_markerRule (isOpening : IsOpening opening)
    (value : List Char → Option (List Char)) : (markerRule opening value).Separate where
  nonempty := by
    rintro word text ⟨name, -, rfl, -⟩
    exact Piece.written_marker_ne_nil opening name
  apart := by
    rintro first firstText second secondText ⟨name, valid, rfl, found⟩
      ⟨other, otherValid, rfl, otherFound⟩ rest before after same inside
    obtain ⟨rfl, rfl⟩ := isOpening.markers_apart valid otherValid same inside
    exact ⟨rfl, rfl, Option.some.inj (otherFound.symm.trans found)⟩

end IsOpening

namespace Piece

variable {opening : List Char}

theorem scanFrom_eq_scan_drop (opening : List Char) (skip : Nat) (text : List Char) :
    scanFrom opening skip text = scan opening (text.drop skip) := by
  induction skip generalizing text with
  | zero => rfl
  | succ skip ih =>
      cases text with
      | nil => simp [scanFrom, scan]
      | cons c rest => simpa [scanFrom] using ih rest

@[simp]
theorem scan_nil (opening : List Char) : scan opening [] = [] := by
  simp [scan, scanFrom]

theorem scan_cons_of_none {c : Char} {rest : List Char}
    (none : leadingMarker? opening (c :: rest) = none) :
    scan opening (c :: rest) = literal c :: scan opening rest := by
  simp [scan, scanFrom, none]

theorem scan_marker_append (isOpening : IsOpening opening) {name : List Char}
    (valid : IsMarkerName name) (rest : List Char) :
    scan opening ((marker name).written opening ++ rest) = marker name :: scan opening rest := by
  have leading := (leadingMarker?_eq_some_iff opening ((marker name).written opening ++ rest)
    name).mpr ⟨valid, rest, rfl⟩
  obtain ⟨c, tail, opening_eq, -⟩ := isOpening.starts
  have text_eq : (marker name).written opening ++ rest = c :: (tail ++ name ++ [']'] ++ rest) := by
    simp [written, opening_eq]
  rw [text_eq] at leading ⊢
  have length_eq : opening.length + name.length = (tail ++ name ++ [']']).length := by
    simp [opening_eq]
    omega
  simp only [scan, scanFrom, leading]
  rw [scanFrom_eq_scan_drop, length_eq, List.drop_left]
  rfl

/-- A text is empty, or goes on with a marker, or with a character in which no marker starts. -/
theorem scan_induction (opening : List Char) {motive : List Char → Prop}
    (nil : motive [])
    (literal : ∀ c rest, leadingMarker? opening (c :: rest) = none → motive rest →
      motive (c :: rest))
    (marker : ∀ name rest, IsMarkerName name → motive rest →
      motive ((Piece.marker name).written opening ++ rest)) (text : List Char) : motive text := by
  induction length_eq : text.length using Nat.strongRecOn generalizing text with
  | ind length ih =>
      cases text with
      | nil => exact nil
      | cons c rest =>
          cases leading : leadingMarker? opening (c :: rest) with
          | none =>
              refine literal c rest leading (ih rest.length ?_ rest rfl)
              rw [← length_eq]
              simp
          | some name =>
              obtain ⟨valid, after, text_eq⟩ := (leadingMarker?_eq_some_iff _ _ _).mp leading
              rw [List.nil_append] at text_eq
              have positive := List.length_pos_iff.mpr (written_marker_ne_nil opening name)
              rw [← text_eq]
              refine marker name after valid (ih after.length ?_ after rfl)
              rw [← length_eq, ← text_eq, List.length_append]
              omega

theorem flatMap_written_scan (isOpening : IsOpening opening) (text : List Char) :
    (scan opening text).flatMap (written opening) = text := by
  induction text using scan_induction opening with
  | nil => simp
  | literal c rest none ih => rw [scan_cons_of_none none, List.flatMap_cons, ih]; rfl
  | marker name rest valid ih =>
      rw [scan_marker_append isOpening valid, List.flatMap_cons, ih]

theorem isMarkerName_of_mem_scan (isOpening : IsOpening opening) {text name : List Char}
    (member : marker name ∈ scan opening text) : IsMarkerName name := by
  induction text using scan_induction opening with
  | nil => simp at member
  | literal c rest none ih =>
      rw [scan_cons_of_none none] at member
      exact ih (by simpa using member)
  | marker other rest valid ih =>
      rw [scan_marker_append isOpening valid] at member
      rcases List.mem_cons.mp member with same | later
      · cases same
        exact valid
      · exact ih later

theorem exists_piece_of_hasMarker (isOpening : IsOpening opening) {text before name : List Char}
    (present : HasMarker opening text before name) :
    ∃ left right, scan opening text = left ++ marker name :: right ∧
      left.flatMap (written opening) = before := by
  obtain ⟨valid, after, same⟩ := present
  induction text using scan_induction opening generalizing before with
  | nil => simp [written] at same
  | literal c rest none ih =>
      cases before with
      | nil =>
          have leading := (leadingMarker?_eq_some_iff opening (c :: rest) name).mpr
            ⟨valid, after, same⟩
          rw [none] at leading
          simp at leading
      | cons d before =>
          obtain ⟨rfl, rest_eq⟩ := List.cons.inj same
          obtain ⟨left, right, scan_eq, left_eq⟩ := ih rest_eq
          refine ⟨literal d :: left, right, ?_, ?_⟩
          · rw [scan_cons_of_none none, scan_eq]
            rfl
          · rw [List.flatMap_cons, left_eq]
            rfl
  | marker other rest otherValid ih =>
      by_cases inside : before.length < ((marker other).written opening).length
      · obtain ⟨rfl, rfl⟩ := isOpening.markers_apart otherValid valid same.symm inside
        exact ⟨[], scan opening rest, scan_marker_append isOpening otherValid rest, rfl⟩
      · obtain ⟨front, rfl, rest_eq⟩ := split_behind same.symm (Nat.le_of_not_lt inside)
        obtain ⟨left, right, scan_eq, left_eq⟩ := ih rest_eq.symm
        refine ⟨marker other :: left, right, ?_, ?_⟩
        · rw [scan_marker_append isOpening otherValid, scan_eq]
          rfl
        · rw [List.flatMap_cons, left_eq]

theorem hasMarker_of_scan_eq (isOpening : IsOpening opening) {text name : List Char}
    {left right : List Piece} (split : scan opening text = left ++ marker name :: right) :
    HasMarker opening text (left.flatMap (written opening)) name := by
  have member : marker name ∈ scan opening text := by
    simp [split]
  refine ⟨isMarkerName_of_mem_scan isOpening member, right.flatMap (written opening), ?_⟩
  rw [← flatMap_written_scan isOpening text, split]
  simp

/-- The segments that a piece gives when markers of some names are replaced. -/
def segments (opening : List Char) (value : List Char → Option (List Char)) :
    Piece → List Segment
  | literal c => [.kept c]
  | marker name =>
    match value name with
    | some text => [.replaced ((marker name).written opening) text]
    | none => ((marker name).written opening).map .kept

/-- What a piece becomes when markers of some names are replaced. -/
def replacedBy (opening : List Char) (value : List Char → Option (List Char)) :
    Piece → List Char
  | literal c => [c]
  | marker name => (value name).getD ((marker name).written opening)

theorem segments_source (value : List Char → Option (List Char)) (piece : Piece) :
    (piece.segments opening value).flatMap Segment.source = piece.written opening := by
  cases piece with
  | literal c => rfl
  | marker name =>
      cases found : value name with
      | none => simp [segments, found, Segment.sources_map_kept]
      | some text => simp [segments, found, Segment.source]

theorem segments_target (value : List Char → Option (List Char)) (piece : Piece) :
    (piece.segments opening value).flatMap Segment.target = piece.replacedBy opening value := by
  cases piece with
  | literal c => rfl
  | marker name =>
      cases found : value name with
      | none => simp [segments, replacedBy, found, Segment.targets_map_kept]
      | some text => simp [segments, replacedBy, found, Segment.target]

theorem isCut_scan (isOpening : IsOpening opening) (value : List Char → Option (List Char))
    (text : List Char) :
    IsCut (markerRule opening value) text
      ((scan opening text).flatMap (segments opening value)) where
  covers := by
    rw [List.flatMap_assoc]
    simp only [segments_source]
    exact flatMap_written_scan isOpening text
  lawful := by
    intro word replacement member
    obtain ⟨piece, inScan, inPiece⟩ := List.mem_flatMap.mp member
    cases piece with
    | literal c => simp [segments] at inPiece
    | marker name =>
        unfold segments at inPiece
        cases found : value name with
        | none => simp [found] at inPiece
        | some text =>
            obtain ⟨rfl, rfl⟩ : word = (marker name).written opening ∧ replacement = text := by
              simpa [found] using inPiece
            exact ⟨name, isMarkerName_of_mem_scan isOpening inScan, rfl, found⟩
  complete := by
    rintro before word after replacement ⟨name, valid, rfl, found⟩ same
    obtain ⟨left, right, scan_eq, left_eq⟩ :=
      exists_piece_of_hasMarker isOpening ⟨valid, after, same.symm⟩
    refine ⟨left.flatMap (segments opening value), right.flatMap (segments opening value), ?_, ?_⟩
    · rw [scan_eq]
      simp [segments, found]
    · rw [List.flatMap_assoc]
      simp only [segments_source]
      exact left_eq

/-- Filling a template piece by piece replaces all its markers at once. -/
theorem replacesAll_scan (isOpening : IsOpening opening)
    (value : List Char → Option (List Char)) (text : List Char) :
    ReplacesAll (markerRule opening value) text
      ((scan opening text).flatMap (replacedBy opening value)) := by
  refine ⟨_, isCut_scan isOpening value text, ?_⟩
  rw [List.flatMap_assoc]
  simp only [segments_target]

end Piece
end DataLayer

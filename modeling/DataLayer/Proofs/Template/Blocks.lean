import DataLayer.Proofs.Template.Frame

/-!
# Filled blocks

Blocks are given as a list of names with texts, and of several texts under one name the last one
counts.  Filling replaces the markers of these names at once.  What a frame is besides the markers
of its placeholder does not depend on the body, so the filled frame is the parts between the markers
with the body between them.
-/

namespace DataLayer
namespace Template

/-- The marker of a listed name gives way to the text that is listed last under it. -/
def lastBlockRule (blocks : List (String × String)) : ReplacementRule :=
  fun word text =>
    ∃ name value front back, blocks = front ++ (name, value) :: back ∧
      name ∉ back.map Prod.fst ∧ IsMarkerName name.toList ∧ word = (blockMarker name).toList ∧
        text = value.toList

theorem toList_blockMarker (name : String) :
    (blockMarker name).toList = (Piece.marker name.toList).written blockOpening := by
  simp [blockMarker, Piece.written, blockOpening]

theorem lastBlockRule_eq_blockRule (blocks : List (String × String)) :
    lastBlockRule blocks = blockRule (.ofList blocks) := by
  funext word text
  simp only [lastBlockRule, blockRule, markerRule, eq_iff_iff, Option.map_eq_some_iff,
    NamedMap.get?_ofList_eq_some_iff]
  constructor
  · rintro ⟨name, value, front, back, split, last, valid, rfl, rfl⟩
    refine ⟨name.toList, valid, toList_blockMarker name, value, ?_, rfl⟩
    rw [String.ofList_toList]
    exact ⟨front, back, split, last⟩
  · rintro ⟨name, valid, rfl, value, ⟨front, back, split, last⟩, rfl⟩
    refine ⟨String.ofList name, value, front, back, split, last, ?_, ?_, rfl⟩
    · rwa [String.toList_ofList]
    · rw [toList_blockMarker, String.toList_ofList]

theorem fillBlocks_eq_iff (blocks : List (String × String)) (template filled : String) :
    fillBlocks (.ofList blocks) template = filled ↔
      ReplacesAll (lastBlockRule blocks) template.toList filled.toList := by
  rw [lastBlockRule_eq_blockRule]
  have own := replacesAll_fillBlocks (.ofList blocks) template
  constructor
  · rintro rfl
    exact own
  · intro replaced
    exact String.toList_injective
      (own.unique (isOpening_blockOpening.separate_markerRule _).nonempty replaced)

theorem fillPlaceholder_eq_iff (frame body filled : String) :
    fillPlaceholder frame body = filled ↔
      ReplacesAll (placeholderRule body.toList) frame.toList filled.toList := by
  have own := replacesAll_fillPlaceholder frame body
  constructor
  · rintro rfl
    exact own
  · intro replaced
    exact String.toList_injective
      (own.unique (separate_placeholderRule body.toList).nonempty replaced)

theorem cons_intercalate (between : List Char) (c : Char) (first : List Char)
    (others : List (List Char)) :
    between.intercalate ((c :: first) :: others) = c :: between.intercalate (first :: others) := by
  cases others with
  | nil => rfl
  | cons second others => simp [List.intercalate_cons_cons]

theorem prefix_intercalate (between first : List Char) (others : List (List Char)) :
    first <+: between.intercalate (first :: others) := by
  cases others with
  | nil => simp [List.intercalate_singleton]
  | cons second others =>
      rw [List.intercalate_cons_cons, List.append_assoc]
      exact List.prefix_append first _

theorem not_infix_nil : ¬ placeholderMarker <:+: [] := by
  simp [placeholderMarker, blockMarker]

/-- A text falls into the parts between the markers of the placeholder, and whatever takes the place
of the markers comes between these parts. -/
theorem exists_parts (text : List Char) :
    ∃ first others, placeholderMarker.intercalate (first :: others) = text ∧
      (∀ part ∈ first :: others, ¬ placeholderMarker <:+: part) ∧
      ∀ body, ReplacesAll (placeholderRule body) text (body.intercalate (first :: others)) := by
  -- Where the markers are does not depend on the rule, so any cut leads through the text.
  obtain ⟨segments, cut⟩ := IsCut.exists_of_separate (separate_placeholderRule []) text
  refine cut.induction (motive := fun text _ => ∃ first others,
    placeholderMarker.intercalate (first :: others) = text ∧
      (∀ part ∈ first :: others, ¬ placeholderMarker <:+: part) ∧
      ∀ body, ReplacesAll (placeholderRule body) text (body.intercalate (first :: others)))
    (separate_placeholderRule []).nonempty ?nil ?kept ?replaced
  case nil =>
    refine ⟨[], [], rfl, List.forall_mem_singleton.mpr not_infix_nil, fun body => ?_⟩
    exact .nil (separate_placeholderRule body).nonempty
  case kept =>
    rintro c rest segments free - ⟨first, others, rfl, clean, filled⟩
    have not_here : ¬ placeholderMarker <+: c :: placeholderMarker.intercalate (first :: others) :=
      free placeholderMarker [] ⟨rfl, rfl⟩
    refine ⟨c :: first, others, cons_intercalate _ c first others, ?_, fun body => ?_⟩
    · rw [List.forall_mem_cons] at clean ⊢
      refine ⟨fun inside => ?_, clean.2⟩
      rcases List.infix_cons_iff.mp inside with starts | later
      · exact not_here (starts.trans
          (List.cons_prefix_cons.mpr ⟨rfl, prefix_intercalate _ first others⟩))
      · exact clean.1 later
    · rw [cons_intercalate]
      refine (filled body).cons_kept c ?_
      rintro word text ⟨rfl, rfl⟩
      exact not_here
  case replaced =>
    rintro word text rest segments ⟨rfl, rfl⟩ - ⟨first, others, rfl, clean, filled⟩
    refine ⟨[], first :: others, by rw [List.intercalate_cons_cons, List.nil_append], ?_, ?_⟩
    · exact List.forall_mem_cons.mpr ⟨not_infix_nil, clean⟩
    · intro body
      rw [List.intercalate_cons_cons, List.nil_append]
      exact (filled body).cons_replaced (separate_placeholderRule body) ⟨rfl, rfl⟩

theorem exists_fillPlaceholder_eq_intercalate (frame : String) :
    ∃ parts, frame = (blockMarker placeholder).intercalate parts ∧
      (∀ part ∈ parts, ¬ (blockMarker placeholder).toList <:+: part.toList) ∧
      ∀ body, fillPlaceholder frame body = body.intercalate parts := by
  obtain ⟨first, others, frame_eq, clean, filled⟩ := exists_parts frame.toList
  have toList_parts :
      ((first :: others).map String.ofList).map String.toList = first :: others := by
    rw [List.map_map]
    exact (List.map_congr_left fun part _ => String.toList_ofList).trans (List.map_id _)
  refine ⟨(first :: others).map String.ofList, ?_, ?_, fun body => ?_⟩
  · rw [← String.toList_inj, String.toList_intercalate, toList_parts]
    exact frame_eq.symm
  · rw [List.forall_mem_map]
    intro part member
    rw [String.toList_ofList]
    exact clean part member
  · rw [fillPlaceholder_eq_iff, String.toList_intercalate, toList_parts]
    exact filled body.toList

/-- Filling blocks replaces the markers of the listed names at once, and nothing else.  Filling the
placeholder of a frame puts the body between the parts that the markers of the placeholder leave. -/
theorem fillBlocks_simultaneous (blocks : List (String × String)) (template frame : String) :
    (∀ filled, fillBlocks (.ofList blocks) template = filled ↔
      ReplacesAll (lastBlockRule blocks) template.toList filled.toList) ∧
    (∀ body filled, fillPlaceholder frame body = filled ↔
      ReplacesAll (placeholderRule body.toList) frame.toList filled.toList) ∧
    ∃ parts, frame = (blockMarker placeholder).intercalate parts ∧
      (∀ part ∈ parts, ¬ (blockMarker placeholder).toList <:+: part.toList) ∧
      ∀ body, fillPlaceholder frame body = body.intercalate parts :=
  ⟨fillBlocks_eq_iff blocks template, fillPlaceholder_eq_iff frame,
    exists_fillPlaceholder_eq_intercalate frame⟩

/-- Further slashes, an unclosed opening and an inserted marker all stay. -/
example :
    fillBlocks (.ofList [("A", "x"), ("B", "y"), ("A", "//[B]")]) "////[A] //[//[B] [A] //[C]" =
    "////[B] //[y [A] //[C]" := by
  rfl

end Template
end DataLayer

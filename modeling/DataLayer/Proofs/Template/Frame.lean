import DataLayer.Proofs.Generation.Templates

/-!
# Frames

A frame is filled in two passes, first its fields and then its placeholder, and the second pass also
reads what the first one inserted.  So the two passes together replace everything at once exactly
when filling the fields brings about no further placeholder marker, or the body is that marker.
-/

namespace DataLayer
namespace Template

/-- The marker of the placeholder. -/
def placeholderMarker : List Char :=
  (blockMarker placeholder).toList

/-- The marker of the placeholder gives way to a body. -/
def placeholderRule (body : List Char) : ReplacementRule :=
  fun word text => word = placeholderMarker ∧ text = body

/-- The field markers give way to the values of their fields, and the marker of the placeholder to a
body. -/
def frameRule (fields : FieldMap) (body : List Char) : ReplacementRule :=
  fun word text => fieldRule fields word text ∨ placeholderRule body word text

/-- The number of places in a text at which the marker of the placeholder stands. -/
def placeholderCount : List Char → Nat
  | [] => 0
  | c :: rest =>
    (if placeholderMarker.isPrefixOf (c :: rest) then 1 else 0) + placeholderCount rest

/-- A frame with a hole, written `none`, in place of each marker of the placeholder. -/
abbrev HoledFrame := List (Option Char)

/-- Put a text into the holes of a frame. -/
def HoledFrame.fill (frame : HoledFrame) (text : List Char) : List Char :=
  frame.flatMap fun
    | some c => [c]
    | none => text

theorem isMarkerName_placeholder : IsMarkerName placeholder.toList := by
  refine ⟨by decide, ?_⟩
  exact List.all_eq_true.mp (by decide)

theorem placeholderMarker_eq_written :
    placeholderMarker = (Piece.marker placeholder.toList).written blockOpening := by
  decide

/-- No later part of the marker is where it could start again. -/
theorem tails_not_prefix : ∀ part ∈ placeholderMarker.tail.tails, part ≠ [] →
    ¬ part <+: placeholderMarker := by
  decide

theorem placeholderRule_eq_markerRule (body : List Char) :
    placeholderRule body = markerRule blockOpening fun name =>
      if name = placeholder.toList then some body else none := by
  funext word text
  simp only [placeholderRule, markerRule, eq_iff_iff]
  constructor
  · rintro ⟨rfl, rfl⟩
    exact ⟨placeholder.toList, isMarkerName_placeholder, placeholderMarker_eq_written, if_pos rfl⟩
  · rintro ⟨name, -, rfl, found⟩
    obtain ⟨rfl, rfl⟩ : name = placeholder.toList ∧ body = text := by simpa using found
    exact ⟨placeholderMarker_eq_written.symm, rfl⟩

theorem separate_placeholderRule (body : List Char) : (placeholderRule body).Separate := by
  rw [placeholderRule_eq_markerRule]
  exact isOpening_blockOpening.separate_markerRule _

theorem get?_placeholder (body : String) (name : List Char) :
    (NamedMap.get? (.ofList [(placeholder, body)]) (String.ofList name)).map String.toList =
      if name = placeholder.toList then some body.toList else none := by
  have same : String.ofList name = placeholder ↔ name = placeholder.toList := by
    rw [← String.toList_inj, String.toList_ofList]
  simp only [NamedMap.get?_ofList, List.reverse_singleton, NamedMap.lookup_entry_cons, same]
  split <;> rfl

theorem toList_fillPlaceholder (frame body : String) : (fillPlaceholder frame body).toList =
    (Piece.scan blockOpening frame.toList).flatMap (Piece.replacedBy blockOpening fun name =>
      if name = placeholder.toList then some body.toList else none) := by
  rw [fillPlaceholder, fillBlocks, String.toList_ofList, funext (fillBlockPiece_eq_replacedBy _),
    funext (get?_placeholder body)]

theorem replacesAll_fillPlaceholder (frame body : String) :
    ReplacesAll (placeholderRule body.toList) frame.toList (fillPlaceholder frame body).toList := by
  rw [placeholderRule_eq_markerRule, ← funext (get?_placeholder body)]
  exact replacesAll_fillBlocks _ frame

theorem placeholderCount_cons_of_free {c : Char} {rest : List Char}
    (free : ¬ placeholderMarker <+: c :: rest) :
    placeholderCount (c :: rest) = placeholderCount rest := by
  have absent : placeholderMarker.isPrefixOf (c :: rest) = false := by
    rw [Bool.eq_false_iff, ne_eq, List.isPrefixOf_iff_prefix]
    exact free
  simp [placeholderCount, absent]

theorem placeholderCount_append_of_free (run rest : List Char)
    (free : ∀ before after, run ++ rest = before ++ placeholderMarker ++ after →
      run.length ≤ before.length) : placeholderCount (run ++ rest) = placeholderCount rest := by
  induction run with
  | nil => rfl
  | cons c run ih =>
      rw [List.cons_append, placeholderCount_cons_of_free]
      · refine ih fun before after same => ?_
        have behind := free (c :: before) after (congrArg (c :: ·) same)
        exact Nat.le_of_succ_le_succ behind
      · rintro ⟨after, same⟩
        simpa using free [] after same.symm

theorem placeholderCount_marker_append (rest : List Char) :
    placeholderCount (placeholderMarker ++ rest) = 1 + placeholderCount rest := by
  have present : placeholderMarker.isPrefixOf (placeholderMarker ++ rest) = true :=
    List.isPrefixOf_iff_prefix.mpr (List.prefix_append _ _)
  have marker_eq : placeholderMarker = '/' :: placeholderMarker.tail := by decide
  have tail_free : placeholderCount (placeholderMarker.tail ++ rest) = placeholderCount rest := by
    refine placeholderCount_append_of_free _ _ fun before after same => ?_
    by_contra inside
    have whole : placeholderMarker ++ rest = ('/' :: before) ++ placeholderMarker ++ after := by
      rw [marker_eq, List.cons_append, same]
      rfl
    have later := (separate_placeholderRule []).apart placeholderMarker [] placeholderMarker []
      ⟨rfl, rfl⟩ ⟨rfl, rfl⟩ rest _ after whole (by rw [marker_eq]; simp at inside ⊢; omega)
    simp at later
  rw [← tail_free]
  rw [marker_eq] at present
  exact congrArg (· + placeholderCount (placeholderMarker.tail ++ rest)) (if_pos present)

theorem placeholderCount_append_of_separate {rule : ReplacementRule} (separate : rule.Separate)
    {body word text rest : List Char} (marker : rule placeholderMarker body)
    (holds : rule word text) (differs : word ≠ placeholderMarker) :
    placeholderCount (word ++ rest) = placeholderCount rest := by
  refine placeholderCount_append_of_free word rest fun before after same => ?_
  by_contra inside
  have later := separate.apart word text placeholderMarker body holds marker rest before after same
    (Nat.lt_of_not_le inside)
  exact differs later.2.1.symm

/-- Each replaced marker changes the length of the text by the same amount. -/
theorem length_of_replacesAll {body text target : List Char}
    (replaced : ReplacesAll (placeholderRule body) text target) :
    target.length + placeholderMarker.length * placeholderCount text =
      text.length + body.length * placeholderCount text := by
  obtain ⟨segments, cut, rfl⟩ := replaced
  refine cut.induction (motive := fun text segments =>
    (segments.flatMap Segment.target).length + placeholderMarker.length * placeholderCount text =
      text.length + body.length * placeholderCount text)
    (separate_placeholderRule body).nonempty rfl ?kept ?replaced
  case kept =>
    intro c rest segments free _ ih
    rw [placeholderCount_cons_of_free (free placeholderMarker body ⟨rfl, rfl⟩)]
    simp only [List.flatMap_cons, Segment.target, List.length_append, List.length_cons,
      List.length_nil]
    omega
  case replaced =>
    rintro word text rest segments ⟨rfl, rfl⟩ _ ih
    rw [placeholderCount_marker_append]
    simp only [List.flatMap_cons, Segment.target, List.length_append, Nat.mul_add]
    omega

/-! ## Frames with holes -/

namespace HoledFrame

@[simp]
theorem fill_nil (text : List Char) : fill [] text = [] := rfl

@[simp]
theorem fill_cons_some (c : Char) (frame : HoledFrame) (text : List Char) :
    fill (some c :: frame) text = c :: fill frame text := rfl

@[simp]
theorem fill_cons_none (frame : HoledFrame) (text : List Char) :
    fill (none :: frame) text = text ++ fill frame text := rfl

@[simp]
theorem fill_map_some_append (run : List Char) (frame : HoledFrame) (text : List Char) :
    fill (run.map some ++ frame) text = run ++ fill frame text := by
  induction run with
  | nil => rfl
  | cons c run ih => simp [ih]

theorem length_fill (frame : HoledFrame) (text other : List Char) :
    (frame.fill text).length + other.length * frame.count none =
      (frame.fill other).length + text.length * frame.count none := by
  induction frame with
  | nil => rfl
  | cons hole frame ih =>
      cases hole with
      | some c =>
          simp only [fill_cons_some, List.length_cons, List.count_cons]
          simp
          omega
      | none =>
          simp only [fill_cons_none, List.length_append, List.count_cons_self, Nat.mul_add]
          omega

theorem count_none_le (frame : HoledFrame) :
    frame.count none ≤ placeholderCount (frame.fill placeholderMarker) := by
  induction frame with
  | nil => exact Nat.le_refl 0
  | cons hole frame ih =>
      cases hole with
      | none =>
          rw [fill_cons_none, placeholderCount_marker_append, List.count_cons_self]
          omega
      | some c =>
          rw [fill_cons_some, placeholderCount, List.count_cons]
          simp
          omega

/-- If the marker stands in holes only, the second pass fills the holes. -/
theorem replacesAll_of_count_eq (body : List Char) (frame : HoledFrame)
    (same : placeholderCount (frame.fill placeholderMarker) = frame.count none) :
    ReplacesAll (placeholderRule body) (frame.fill placeholderMarker) (frame.fill body) := by
  have separate := separate_placeholderRule body
  induction frame with
  | nil => exact .nil separate.nonempty
  | cons hole frame ih =>
      cases hole with
      | none =>
          rw [fill_cons_none, placeholderCount_marker_append, List.count_cons_self] at same
          exact (ih (by omega)).cons_replaced separate ⟨rfl, rfl⟩
      | some c =>
          have bound := count_none_le frame
          rw [fill_cons_some, placeholderCount, List.count_cons] at same
          have absent : ¬ placeholderMarker.isPrefixOf (c :: fill frame placeholderMarker) := by
            intro present
            simp [present] at same
            omega
          refine (ih (by simp [absent] at same; omega)).cons_kept c ?_
          rintro word text ⟨rfl, rfl⟩ starts
          exact absent (List.isPrefixOf_iff_prefix.mpr starts)

theorem prefix_fill (body part : List Char) (frame : HoledFrame)
    (apart : ∀ tail ∈ part.tails, tail ≠ [] → ¬ tail <+: placeholderMarker)
    (short : part.length ≤ placeholderMarker.length)
    (starts : part <+: frame.fill placeholderMarker) : part <+: frame.fill body := by
  induction frame generalizing part with
  | nil => simpa using starts
  | cons hole frame ih =>
      cases part with
      | nil => exact List.nil_prefix
      | cons c part =>
          cases hole with
          | none =>
              have inMarker : c :: part <+: placeholderMarker :=
                List.prefix_of_prefix_length_le starts (List.prefix_append _ _) short
              exact absurd inMarker (apart (c :: part) (by simp) (by simp))
          | some d =>
              rw [fill_cons_some, List.cons_prefix_cons] at starts ⊢
              refine ⟨starts.1, ih part ?_ (Nat.le_of_succ_le short) starts.2⟩
              intro tail member
              exact apart tail (List.mem_cons_of_mem _ member)

/-- Filling a hole and replacing the marker come out different where the marker stands outside of
the holes. -/
theorem count_eq_of_replacesAll {body : List Char} (frame : HoledFrame)
    (differs : body ≠ placeholderMarker) (length_eq : body.length = placeholderMarker.length)
    (replaced : ReplacesAll (placeholderRule body) (frame.fill placeholderMarker)
      (frame.fill body)) :
    placeholderCount (frame.fill placeholderMarker) = frame.count none := by
  have separate := separate_placeholderRule body
  induction frame with
  | nil => rfl
  | cons hole frame ih =>
      cases hole with
      | none =>
          obtain ⟨tail, fill_eq, replacedRest⟩ := replaced.of_replaced separate ⟨rfl, rfl⟩
          have tail_eq : fill frame body = tail := List.append_cancel_left fill_eq
          rw [← tail_eq] at replacedRest
          rw [fill_cons_none, placeholderCount_marker_append, List.count_cons_self,
            ih replacedRest, Nat.add_comm]
      | some c =>
          by_cases starts : placeholderMarker <+: c :: fill frame placeholderMarker
          · exfalso
            have kept : placeholderMarker <+: c :: fill frame body := by
              have marker_eq : placeholderMarker = '/' :: placeholderMarker.tail := by decide
              rw [marker_eq, List.cons_prefix_cons] at starts ⊢
              exact ⟨starts.1, prefix_fill body _ frame tails_not_prefix (by simp) starts.2⟩
            obtain ⟨rest, split⟩ := starts
            rw [fill_cons_some, fill_cons_some, ← split] at replaced
            obtain ⟨tail, fill_eq, -⟩ := replaced.of_replaced separate ⟨rfl, rfl⟩
            rw [fill_eq] at kept
            have same : placeholderMarker <+: body :=
              List.prefix_of_prefix_length_le kept (List.prefix_append _ _) length_eq.ge
            exact differs (same.eq_of_length length_eq.symm).symm
          · obtain ⟨tail, fill_eq, replacedRest⟩ := replaced.of_kept separate (by
              rintro word text ⟨rfl, rfl⟩
              exact starts)
            obtain rfl : fill frame body = tail := (List.cons.inj fill_eq).2
            rw [fill_cons_some, placeholderCount_cons_of_free starts, ih replacedRest]
            simp

theorem replacesAll_marker_self (text : List Char) :
    ReplacesAll (placeholderRule placeholderMarker) text text := by
  have separate := separate_placeholderRule placeholderMarker
  obtain ⟨segments, cut⟩ := IsCut.exists_of_separate separate text
  refine ⟨segments, cut, ?_⟩
  refine cut.induction (motive := fun text segments => segments.flatMap Segment.target = text)
    separate.nonempty rfl ?kept ?replaced
  case kept =>
    intro c rest segments _ _ ih
    rw [List.flatMap_cons, ih]
    rfl
  case replaced =>
    rintro word text rest segments ⟨rfl, rfl⟩ _ ih
    rw [List.flatMap_cons, ih]
    rfl

/-- The second pass fills just the holes exactly if the marker stands in holes only, or is what the
holes are filled with. -/
theorem replacesAll_fill_iff (body : List Char) (frame : HoledFrame) :
    ReplacesAll (placeholderRule body) (frame.fill placeholderMarker) (frame.fill body) ↔
      placeholderCount (frame.fill placeholderMarker) = frame.count none ∨
        body = placeholderMarker := by
  constructor
  · intro replaced
    by_contra neither
    obtain ⟨more, differs⟩ := not_or.mp neither
    have bound := count_none_le frame
    obtain ⟨extra, count_eq⟩ := Nat.exists_eq_add_of_le bound
    have replaced_length := length_of_replacesAll replaced
    have filled_length := length_fill frame body placeholderMarker
    rw [count_eq, Nat.mul_add, Nat.mul_add] at replaced_length
    have length_eq : body.length = placeholderMarker.length :=
      Nat.eq_of_mul_eq_mul_right (by omega : 0 < extra) (by omega)
    exact more (count_eq_of_replacesAll frame differs length_eq replaced)
  · rintro (same | rfl)
    · exact replacesAll_of_count_eq body frame same
    · exact replacesAll_marker_self _

end HoledFrame

theorem slash_not_mem_fieldMarker {name : List Char} (valid : IsMarkerName name) :
    '/' ∉ (Piece.marker name).written fieldOpening := by
  intro member
  have inName : '/' ∈ name := by simpa [Piece.written, fieldOpening] using member
  exact absurd (valid.2 '/' inName) (by decide)

theorem ne_placeholderMarker_of_field {fields : FieldMap} {word text : List Char}
    (field : fieldRule fields word text) : word ≠ placeholderMarker := by
  obtain ⟨name, valid, rfl, -⟩ := field
  intro same
  exact slash_not_mem_fieldMarker valid (by rw [same]; decide)

/-- No marker of the placeholder starts within a field marker. -/
theorem placeholder_behind_field {name rest before after : List Char} (valid : IsMarkerName name)
    (same :
      (Piece.marker name).written fieldOpening ++ rest = before ++ placeholderMarker ++ after) :
    ((Piece.marker name).written fieldOpening).length ≤ before.length := by
  by_contra short
  have inside : before.length < ((Piece.marker name).written fieldOpening).length :=
    Nat.lt_of_not_le short
  have found : ((Piece.marker name).written fieldOpening ++ rest)[before.length]? = some '/' := by
    rw [same]
    simp [placeholderMarker_eq_written, Piece.written, blockOpening]
  rw [List.getElem?_append_left inside] at found
  exact slash_not_mem_fieldMarker valid (List.mem_of_getElem? found)

/-- A field marker within the marker of the placeholder is its bracketed part. -/
theorem name_eq_of_field_in_placeholder {name rest before after : List Char}
    (valid : IsMarkerName name)
    (same : placeholderMarker ++ rest = before ++ (Piece.marker name).written fieldOpening ++ after)
    (inside : before.length < placeholderMarker.length) : name = placeholder.toList := by
  have bracket : placeholderMarker[before.length]? = some '[' := by
    rw [← List.getElem?_append_left inside, same]
    simp [Piece.written, fieldOpening]
  have before_length : before.length = 2 := by
    have only : ∀ i < placeholderMarker.length, placeholderMarker[i]? = some '[' → i = 2 := by
      decide
    exact only before.length inside bracket
  have inner : (Piece.marker placeholder.toList).written fieldOpening ++ rest =
      [] ++ (Piece.marker name).written fieldOpening ++ after := by
    have dropped := congrArg (List.drop 2) same
    rw [List.append_assoc, List.drop_append_of_le_length (by decide), ← before_length,
      List.drop_left] at dropped
    rw [before_length] at dropped
    exact dropped
  exact (isOpening_fieldOpening.markers_apart isMarkerName_placeholder valid inner (by decide)).2

/-- A marker of the placeholder is no part of a field marker, and no field is called like the
placeholder. -/
theorem separate_frameRule {fields : FieldMap} (absent : fields.value? placeholder.toList = none)
    (body : List Char) : (frameRule fields body).Separate where
  nonempty := by
    rintro word text (field | marker)
    · exact (isOpening_fieldOpening.separate_markerRule _).nonempty word text field
    · exact (separate_placeholderRule body).nonempty word text marker
  apart := by
    rintro first firstText second secondText (field | marker) (otherField | otherMarker)
      rest before after same inside
    · exact (isOpening_fieldOpening.separate_markerRule _).apart _ _ _ _ field otherField
        rest before after same inside
    · obtain ⟨name, valid, rfl, -⟩ := field
      obtain ⟨rfl, rfl⟩ := otherMarker
      exact absurd (placeholder_behind_field valid same) (Nat.not_le_of_lt inside)
    · obtain ⟨rfl, rfl⟩ := marker
      obtain ⟨name, valid, rfl, found⟩ := otherField
      rw [name_eq_of_field_in_placeholder valid same inside, absent] at found
      exact absurd found (by simp)
    · exact (separate_placeholderRule body).apart _ _ _ _ marker otherMarker
        rest before after same inside

/-- Filling the fields of a template leaves a frame with a hole for each of the template's own
markers of the placeholder. -/
theorem exists_holedFrame {fields : FieldMap} (absent : fields.value? placeholder.toList = none)
    (template : List Char) :
    ∃ frame : HoledFrame, frame.count none = placeholderCount template ∧
      ReplacesAll (fieldRule fields) template (frame.fill placeholderMarker) ∧
        ∀ body, ReplacesAll (frameRule fields body) template (frame.fill body) := by
  have separate := separate_frameRule absent
  have fieldSeparate := isOpening_fieldOpening.separate_markerRule fields.value?
  obtain ⟨segments, cut⟩ := IsCut.exists_of_separate (separate []) template
  refine cut.induction (motive := fun text _ => ∃ frame : HoledFrame,
    frame.count none = placeholderCount text ∧
      ReplacesAll (fieldRule fields) text (frame.fill placeholderMarker) ∧
        ∀ body, ReplacesAll (frameRule fields body) text (frame.fill body))
    (separate []).nonempty ?nil ?kept ?replaced
  case nil =>
    exact ⟨[], rfl, .nil fieldSeparate.nonempty, fun body => .nil (separate body).nonempty⟩
  case kept =>
    rintro c rest segments free _ ⟨frame, count_eq, fieldsFilled, filled⟩
    refine ⟨some c :: frame, ?_, ?_, ?_⟩
    · rw [placeholderCount_cons_of_free (free placeholderMarker [] (.inr ⟨rfl, rfl⟩)), ← count_eq]
      simp
    · exact fieldsFilled.cons_kept c fun word text field => free word text (.inl field)
    · intro body
      refine (filled body).cons_kept c ?_
      rintro word text (field | ⟨rfl, rfl⟩)
      · exact free word text (.inl field)
      · exact free placeholderMarker [] (.inr ⟨rfl, rfl⟩)
  case replaced =>
    rintro word text rest segments (field | ⟨rfl, rfl⟩) _ ⟨frame, count_eq, fieldsFilled, filled⟩
    · refine ⟨text.map some ++ frame, ?_, ?_, ?_⟩
      · rw [placeholderCount_append_of_separate (separate []) (.inr ⟨rfl, rfl⟩) (.inl field)
          (ne_placeholderMarker_of_field field), ← count_eq, List.count_append]
        simp [List.count_eq_zero]
      · rw [HoledFrame.fill_map_some_append]
        exact fieldsFilled.cons_replaced fieldSeparate field
      · intro body
        rw [HoledFrame.fill_map_some_append]
        exact (filled body).cons_replaced (separate body) (.inl field)
    · refine ⟨none :: frame, ?_, ?_, ?_⟩
      · rw [placeholderCount_marker_append, ← count_eq, List.count_cons_self, Nat.add_comm]
      · refine fieldsFilled.append_kept placeholderMarker
          fun before word after text field same => ?_
        by_contra inside
        have later := (separate []).apart _ _ _ _ (.inr ⟨rfl, rfl⟩) (.inl field) rest before after
          same (Nat.lt_of_not_le inside)
        exact ne_placeholderMarker_of_field field later.2.1
      · intro body
        exact (filled body).cons_replaced (separate body) (.inr ⟨rfl, rfl⟩)

/-- Both passes together replace everything at once exactly if filling the fields brings about no
further marker of the placeholder, or the body is that marker. -/
theorem replacesAll_passes_iff {fields : FieldMap} {template filled : String}
    (absent : fields.value? placeholder.toList = none)
    (done : fillFields fields template = .ok filled) (body : String) :
    ReplacesAll (frameRule fields body.toList) template.toList
        (fillPlaceholder filled body).toList ↔
      placeholderCount filled.toList = placeholderCount template.toList ∨
        body = blockMarker placeholder := by
  obtain ⟨frame, count_eq, fieldsFilled, simultaneous⟩ := exists_holedFrame absent template.toList
  have filled_eq : filled.toList = frame.fill placeholderMarker :=
    (replacesAll_of_fillFields done).unique
      (isOpening_fieldOpening.separate_markerRule fields.value?).nonempty fieldsFilled
  have second := replacesAll_fillPlaceholder filled body
  rw [filled_eq] at second ⊢
  have body_eq : body = blockMarker placeholder ↔ body.toList = placeholderMarker :=
    String.toList_inj.symm
  rw [← count_eq, body_eq, ← HoledFrame.replacesAll_fill_iff]
  constructor
  · intro replaced
    have same := replaced.unique (separate_frameRule absent body.toList).nonempty
      (simultaneous body.toList)
    rwa [same] at second
  · intro replaced
    rw [second.unique (separate_placeholderRule body.toList).nonempty replaced]
    exact simultaneous body.toList

/-! ## Templates of a project -/

theorem value?_placeholder (config : Config) :
    config.fields.value? placeholder.toList = none := rfl

/-- A template of a project comes out with its fields and its placeholder replaced at once exactly
if its fields bring about no further marker of the placeholder, or the body is that marker. -/
theorem configured_frame_simultaneous_iff (config : Config) (source : TemplateSource)
    (name : TemplateName) (template frame body : String) (loaded : source name = .ok template)
    (configured : config.configured source name = .ok frame) :
    ReplacesAll (frameRule config.fields body.toList) template.toList
        (fillPlaceholder frame body).toList ↔
      placeholderCount frame.toList = placeholderCount template.toList ∨
        body = blockMarker placeholder := by
  obtain ⟨text, text_eq, done⟩ := (Config.configured_eq_ok_iff name frame).mp configured
  obtain rfl : template = text := Except.ok.inj (loaded.symm.trans text_eq)
  exact replacesAll_passes_iff (value?_placeholder config) done body

/-- A connection without markers leaves the frame its one placeholder. -/
theorem configured_frame_simultaneous_plain :
    ReplacesAll
      (frameRule
        { baseNamespace := "Shop", context := ⟨"Shop", some "\"[X]\""⟩ : Config }.fields
        "body".toList)
      "base([ContextConnection]) //[Placeholder]".toList "base(\"[X]\") body".toList :=
  (configured_frame_simultaneous_iff
    { baseNamespace := "Shop", context := ⟨"Shop", some "\"[X]\""⟩ }
    (fun _ => .ok "base([ContextConnection]) //[Placeholder]") .dataContext
    "base([ContextConnection]) //[Placeholder]" "base(\"[X]\") //[Placeholder]" "body" rfl
    rfl).mpr (.inl (by decide))

/-- A connection that reads like the placeholder is inserted by the first pass and taken for the
placeholder by the second one, so it is not in the result. -/
theorem connection_taken_for_placeholder :
    { baseNamespace := "Shop", context := ⟨"Shop", some "//[Placeholder]"⟩ : Config }.configured
        (fun _ => .ok "[ContextConnection]") .dataContext = .ok "//[Placeholder]" ∧
      renderContext "//[Placeholder]" [] = "" ∧
        ¬ ReplacesAll
          (frameRule
            { baseNamespace := "Shop", context := ⟨"Shop", some "//[Placeholder]"⟩ : Config }.fields
            "".toList)
          "[ContextConnection]".toList (renderContext "//[Placeholder]" []).toList := by
  have filled : fillFields
      { baseNamespace := "Shop", context := ⟨"Shop", some "//[Placeholder]"⟩ : Config }.fields
      "[ContextConnection]" = .ok "//[Placeholder]" := rfl
  refine ⟨rfl, rfl, ?_⟩
  intro replaced
  have own := (replacesAll_passes_iff (value?_placeholder _) filled "").mp replaced
  revert own
  decide

end Template
end DataLayer

import DataLayer.Proofs.Schema.Respelled
import DataLayer.Proofs.Text.Likeness
import DataLayer.Proofs.Text.Lines
import DataLayer.Render.Entity

/-!
# Spellings of declared types

The attribute of a column declares the storage type in a literal.  Two texts may differ just in how
the types in these literals are spelled.  That is a likeness of texts: such a literal opens within a
line and goes on with letters, so lines and line ends stay where they are.
-/

namespace DataLayer

/-- What a declared type stands behind. -/
def dbTypeOpening : List Char :=
  "DbType = \"".toList

/-- The texts are the same but for the spelling of words right behind the opening of a declared
type. -/
inductive AgreeButDbTypes : List Char → List Char → Prop where
  /-- Both texts are at their end. -/
  | nil : AgreeButDbTypes [] []
  /-- Both texts go on with the same character. -/
  | kept (c : Char) {rest others : List Char} : AgreeButDbTypes rest others →
      AgreeButDbTypes (c :: rest) (c :: others)
  /-- Both texts declare a type, which each of them spells in its own way. -/
  | literal {spelling other rest others : List Char} : Text.IsRespelling spelling other →
      AgreeButDbTypes rest others →
      AgreeButDbTypes (dbTypeOpening ++ spelling ++ rest) (dbTypeOpening ++ other ++ others)

namespace AgreeButDbTypes

open Text

variable {text other rest others : List Char}

theorem refl (text : List Char) : AgreeButDbTypes text text := by
  induction text with
  | nil => exact .nil
  | cons c rest ih => exact .kept c ih

theorem append (fronts : AgreeButDbTypes text other) (backs : AgreeButDbTypes rest others) :
    AgreeButDbTypes (text ++ rest) (other ++ others) := by
  induction fronts with
  | nil => exact backs
  | kept c _ ih => exact .kept c ih
  | literal respelled _ ih =>
      rw [List.append_assoc, List.append_assoc _ _ others]
      exact .literal respelled ih

theorem head?_eq (agree : AgreeButDbTypes text other) : other.head? = text.head? := by
  cases agree <;> rfl

theorem eq_nil_iff (agree : AgreeButDbTypes text other) : text = [] ↔ other = [] := by
  rw [← List.head?_eq_none_iff, ← agree.head?_eq, List.head?_eq_none_iff]

theorem isWithinLine_literal {spelling : List Char} (letters : ∀ c ∈ spelling, c.isAlpha = true) :
    IsWithinLine (dbTypeOpening ++ spelling) := by
  intro c member
  rcases List.mem_append.mp member with opening | word
  · have none_ends : (dbTypeOpening.all fun c => !isLineEnd c) = true := by decide
    simpa using List.all_eq_true.mp none_ends c opening
  · exact forall_isAlpha_of_forall_ascii (fun c => isLineEnd c = false) (by decide +kernel)
      (letters c word)

theorem dropLineEnds (agree : AgreeButDbTypes text other) :
    AgreeButDbTypes (dropLineEnds text) (dropLineEnds other) := by
  induction agree with
  | nil => exact .nil
  | kept c _ ih =>
      rw [dropLineEnds_cons, dropLineEnds_cons]
      simp only [← ih.eq_nil_iff]
      split
      · exact .nil
      · exact .kept c ih
  | literal respelled _ ih =>
      rw [dropLineEnds_append_of_isWithinLine (isWithinLine_literal respelled.isAlpha),
        dropLineEnds_append_of_isWithinLine (isWithinLine_literal respelled.symm.isAlpha)]
      exact .literal respelled ih

/-- What is put in front of the first line stands there in both texts. -/
theorem putInFront {lines otherLines : List (List Char)}
    (pairs : List.Forall₂ AgreeButDbTypes lines otherLines)
    (fronts : ∀ {rest others}, AgreeButDbTypes rest others →
      AgreeButDbTypes (text ++ rest) (other ++ others)) :
    List.Forall₂ AgreeButDbTypes (putInFront text lines) (putInFront other otherLines) := by
  cases pairs with
  | nil =>
      have alone := fronts .nil
      rw [List.append_nil, List.append_nil] at alone
      exact .cons alone .nil
  | cons pair pairs => exact .cons (fronts pair) pairs

theorem lineList (agree : AgreeButDbTypes text other) :
    List.Forall₂ AgreeButDbTypes (lineList text) (lineList other) := by
  induction agree with
  | nil => exact .nil
  | @kept c rest others agree ih =>
      rw [lineList_cons, lineList_cons, agree.head?_eq]
      split_ifs
      · exact .cons .nil ih
      · exact ih
      · exact putInFront ih fun pair => .kept c pair
  | literal respelled _ ih =>
      have nonempty (word : List Char) : dbTypeOpening ++ word ≠ [] :=
        List.append_ne_nil_of_left_ne_nil (by decide) word
      rw [lineList_append_of_isWithinLine (isWithinLine_literal respelled.isAlpha) (nonempty _),
        lineList_append_of_isWithinLine (isWithinLine_literal respelled.symm.isAlpha) (nonempty _)]
      exact putInFront ih fun pair => .literal respelled pair

end AgreeButDbTypes

theorem isLikeness_agreeButDbTypes :
    Text.IsLikeness fun text other => AgreeButDbTypes text.toList other.toList where
  refl text := .refl text.toList
  append fronts backs := by
    rw [String.toList_append, String.toList_append]
    exact fronts.append backs
  empty_iff agree := by
    rw [← String.toList_eq_nil_iff, ← String.toList_eq_nil_iff]
    exact agree.eq_nil_iff
  stripLineEnds agree := by
    rw [Text.stripLineEnds, Text.stripLineEnds, String.toList_ofList, String.toList_ofList]
    exact agree.dropLineEnds
  lines agree := by
    simp only [Text.lines, List.forall₂_map_left_iff, List.forall₂_map_right_iff,
      String.toList_ofList]
    exact agree.lineList

namespace Column

/-- The attribute of a column up to its declared type. -/
def attributeStart (column : Column) : String :=
  "[Column(Name = \"" ++ column.name ++ "\"" ++
    (if column.primaryKey then ", IsPrimaryKey = true" else "") ++
    (if column.generated then ", IsDbGenerated = true" else "") ++
    (if column.nullable then "" else ", CanBeNull = false") ++
    (if column.skipsUpdateCheck then ", UpdateCheck = UpdateCheck.Never" else "") ++ ", "

/-- The length as it stands behind a declared type. -/
def lengthText (column : Column) : String :=
  match column.length with
  | some length =>
    if column.family?.any (·.isVariableCharacter) && 0 < length then "(" ++ toString length ++ ")"
    else ""
  | none => ""

theorem declaredType_eq (column : Column) :
    column.declaredType = Text.upperFirst column.storageType ++ column.lengthText := by
  unfold declaredType lengthText
  cases column.length with
  | none => simp
  | some length =>
      dsimp only
      split <;> simp [String.append_assoc]

theorem attribute_eq (column : Column) :
    column.attribute = column.attributeStart ++
      (String.ofList dbTypeOpening ++ Text.upperFirst column.storageType ++
        (column.lengthText ++ "\")]")) := by
  have opening_eq : ", DbType = \"" = ", " ++ String.ofList dbTypeOpening := by
    rw [← String.toList_inj]
    decide
  unfold Column.attribute attributeStart
  rw [declaredType_eq, opening_eq]
  simp only [String.append_assoc]

theorem attribute_of_isRespelled {first second : Column} (respelled : first.IsRespelled second) :
    AgreeButDbTypes first.attribute.toList second.attribute.toList := by
  obtain ⟨spelling, same | ⟨recognised, same⟩, rfl⟩ := respelled
  · rw [same]
    exact .refl _
  · have family_eq : family? { first with storageType := spelling } = first.family? := by
      rw [family?, family?]
      exact StorageFamily.IsRespelled.classify?_eq (.inr ⟨recognised, same⟩)
    have skips_eq :
        skipsUpdateCheck { first with storageType := spelling } = first.skipsUpdateCheck := by
      rw [skipsUpdateCheck, skipsUpdateCheck, family_eq]
      rfl
    have start_eq : attributeStart { first with storageType := spelling } =
        first.attributeStart := by
      unfold attributeStart
      rw [skips_eq]
    have length_eq : lengthText { first with storageType := spelling } = first.lengthText := by
      rw [lengthText, lengthText, family_eq]
    rw [attribute_eq, attribute_eq, start_eq, length_eq]
    simp only [String.toList_append, String.toList_ofList]
    refine (AgreeButDbTypes.refl _).append (.literal ?_ (.refl _))
    exact (StorageFamily.isRespelling_of_sameLetters recognised same).upperFirst

end Column
end DataLayer

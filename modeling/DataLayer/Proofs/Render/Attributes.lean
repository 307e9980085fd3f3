import DataLayer.Proofs.Render.DbTypes

/-!
# What the attribute of a column says

By default a column carries an attribute with a list of arguments.  Two of them go by the storage
type and the declared length: the type that is declared, with the length where the type is text of a
positive length, and whether updates leave the value out when they look for conflicts.  No column
has both a length and the exception from updates.
-/

namespace DataLayer
namespace Column

/-- The storage type is `varchar` or `nvarchar`, in whatever case. -/
def IsVariableText (column : Column) : Prop :=
  Text.sameLetters column.storageType "varchar" = true ∨
    Text.sameLetters column.storageType "nvarchar" = true

/-- The storage type is `text` or `ntext`, in whatever case. -/
def IsLongText (column : Column) : Prop :=
  Text.sameLetters column.storageType "text" = true ∨
    Text.sameLetters column.storageType "ntext" = true

/-- The column has a storage type with a length, and this positive length. -/
def HasSize (column : Column) (size : Int) : Prop :=
  column.IsVariableText ∧ column.length = some size ∧ 0 < size

theorem sameLetters_iff_foldCase_eq {storageType word : String}
    (folded : Text.foldCase word = word) :
    Text.sameLetters storageType word = true ↔ Text.foldCase storageType = word := by
  rw [Text.sameLetters, beq_iff_eq, folded]

theorem isVariableText_iff (column : Column) :
    column.IsVariableText ↔ column.family? = some .variableText := by
  rw [family?, StorageFamily.classify?_eq_some_iff, IsVariableText,
    sameLetters_iff_foldCase_eq (by decide), sameLetters_iff_foldCase_eq (by decide)]
  simp [StorageFamily.spellings]

theorem isLongText_iff (column : Column) :
    column.IsLongText ↔ column.family? = some .longText := by
  rw [family?, StorageFamily.classify?_eq_some_iff, IsLongText,
    sameLetters_iff_foldCase_eq (by decide), sameLetters_iff_foldCase_eq (by decide)]
  simp [StorageFamily.spellings, or_comm]

theorem not_isLongText_of_isVariableText {column : Column} (variableText : column.IsVariableText) :
    ¬ column.IsLongText := by
  rw [isLongText_iff, (isVariableText_iff column).mp variableText]
  decide

theorem any_isVariableCharacter_iff (column : Column) :
    column.family?.any (·.isVariableCharacter) = true ↔ column.IsVariableText := by
  rw [isVariableText_iff]
  cases column.family? with
  | none => simp
  | some family => cases family <;> simp [StorageFamily.isVariableCharacter]

theorem skipsUpdateCheck_iff (column : Column) :
    column.skipsUpdateCheck = true ↔
      column.IsLongText ∨ column.IsVariableText ∧ column.length = some (-1) := by
  rw [isLongText_iff, isVariableText_iff, skipsUpdateCheck]
  cases column.family? with
  | none => simp
  | some family =>
      cases family <;>
        simp [StorageFamily.isLongText, StorageFamily.isVariableCharacter, isUnbounded,
          unboundedLength]

/-- The storage type with a length behind it. -/
def typeWithLength (column : Column) (size : Int) : String :=
  Text.upperFirst column.storageType ++ "(" ++ toString size ++ ")"

theorem eq_of_typeWithLength_eq (column : Column) {size other : Int} (positive : 0 < size)
    (same : column.typeWithLength size = column.typeWithLength other) : size = other := by
  simp only [typeWithLength, String.append_left_inj, String.append_right_inj,
    Int.toString_eq_repr] at same
  obtain ⟨size, rfl⟩ := Int.eq_ofNat_of_zero_le (Int.le_of_lt positive)
  have figures_eq : Nat.toDigits 10 size = (other.repr).toList := by
    rw [← same]
    exact Nat.toList_repr.symm
  cases other with
  | ofNat other =>
      have read_eq := congrArg (fun figures => Nat.ofDigitChars 10 figures 0)
        (figures_eq.trans (Nat.toList_repr (n := other)))
      simp only [Nat.ofDigitChars_toDigits (by decide : 1 < 10) (by decide)] at read_eq
      exact congrArg Int.ofNat read_eq
  | negSucc other =>
      -- The figures of a natural number have no sign among them.
      have sign : '-' ∈ Nat.toDigits 10 size := by
        simp [figures_eq, Int.repr]
      exact absurd (Nat.isDigit_of_mem_toDigits (by decide) (by decide) sign) (by decide)

theorem typeWithLength_ne_upperFirst (column : Column) (size : Int) :
    column.typeWithLength size ≠ Text.upperFirst column.storageType := by
  intro same
  have lengths := congrArg String.length same
  simp only [typeWithLength, String.length_append] at lengths
  have opening : "(".length = 1 := rfl
  omega

theorem HasSize.declaredType_eq {column : Column} {size : Int} (sized : column.HasSize size) :
    column.declaredType = column.typeWithLength size := by
  obtain ⟨variableText, length_eq, positive⟩ := sized
  rw [← any_isVariableCharacter_iff] at variableText
  simp [declaredType, length_eq, variableText, positive, typeWithLength]

theorem declaredType_of_not_hasSize {column : Column} (unsized : ∀ size, ¬ column.HasSize size) :
    column.declaredType = Text.upperFirst column.storageType := by
  unfold declaredType
  cases length_eq : column.length with
  | none => rfl
  | some length =>
      refine if_neg ?_
      rw [Bool.and_eq_true, any_isVariableCharacter_iff, decide_eq_true_eq]
      rintro ⟨variableText, positive⟩
      exact unsized length ⟨variableText, length_eq, positive⟩

theorem declaredType_eq_iff (column : Column) (literal : String) :
    column.declaredType = literal ↔
      (∃ size, column.HasSize size ∧ literal = column.typeWithLength size) ∨
        (∀ size, ¬ column.HasSize size) ∧ literal = Text.upperFirst column.storageType := by
  constructor
  · rintro rfl
    by_cases sized : ∃ size, column.HasSize size
    · obtain ⟨size, sized⟩ := sized
      exact .inl ⟨size, sized, sized.declaredType_eq⟩
    · have unsized := not_exists.mp sized
      exact .inr ⟨unsized, declaredType_of_not_hasSize unsized⟩
  · rintro (⟨size, sized, rfl⟩ | ⟨unsized, rfl⟩)
    · exact sized.declaredType_eq
    · exact declaredType_of_not_hasSize unsized

/-- The arguments of the attribute that do not go by the storage type. -/
def ownArguments (column : Column) : List String :=
  ["Name = \"" ++ column.name ++ "\""] ++
    (if column.primaryKey then ["IsPrimaryKey = true"] else []) ++
    (if column.generated then ["IsDbGenerated = true"] else []) ++
    (if !column.nullable then ["CanBeNull = false"] else [])

/-- The attribute with a literal for the declared type, and with or without the exception from
updates. -/
def attributeText (column : Column) (never : Bool) (literal : String) : String :=
  "[Column(" ++ ", ".intercalate (column.ownArguments ++
    (if never then ["UpdateCheck = UpdateCheck.Never"] else []) ++
    ["DbType = \"" ++ literal ++ "\""]) ++ ")]"

/-- An argument behind others comes with the comma that separates it from them. -/
theorem intercalate_append_optional {texts : List String} (nonempty : texts ≠ []) (present : Bool)
    (text : String) :
    ", ".intercalate (texts ++ if present then [text] else []) =
      ", ".intercalate texts ++ if present then ", " ++ text else "" := by
  cases present with
  | false => simp
  | true =>
      rw [if_pos rfl, if_pos rfl, String.intercalate_append_of_ne_nil nonempty (by simp),
        String.intercalate_singleton, String.append_assoc]

theorem ownArguments_ne_nil (column : Column) : column.ownArguments ≠ [] := by
  simp [ownArguments]

theorem attributeText_eq (column : Column) (never : Bool) (literal : String) :
    column.attributeText never literal =
      "[Column(" ++ ", ".intercalate column.ownArguments ++
        ((if never then ", " ++ "UpdateCheck = UpdateCheck.Never" else "") ++
          (", " ++ ("DbType = \"" ++ literal ++ "\"") ++ ")]")) := by
  rw [attributeText, String.intercalate_append_of_ne_nil (by simp [ownArguments]) (by simp),
    intercalate_append_optional column.ownArguments_ne_nil, String.intercalate_singleton]
  simp only [String.append_assoc]

theorem attribute_eq_attributeText (column : Column) :
    column.attribute = column.attributeText column.skipsUpdateCheck column.declaredType := by
  have own_eq : ", ".intercalate column.ownArguments =
      "Name = \"" ++ column.name ++ "\"" ++
        (if column.primaryKey then ", " ++ "IsPrimaryKey = true" else "") ++
        (if column.generated then ", " ++ "IsDbGenerated = true" else "") ++
        (if column.nullable then "" else ", " ++ "CanBeNull = false") := by
    rw [ownArguments, intercalate_append_optional (by simp), intercalate_append_optional (by simp),
      intercalate_append_optional (by simp), String.intercalate_singleton]
    cases column.nullable <;> simp only [Bool.not_true, Bool.not_false, Bool.false_eq_true, if_true,
      if_false]
  have joined : "[Column(Name = \"" = "[Column(" ++ "Name = \"" ∧
      ", IsPrimaryKey = true" = ", " ++ "IsPrimaryKey = true" ∧
      ", IsDbGenerated = true" = ", " ++ "IsDbGenerated = true" ∧
      ", CanBeNull = false" = ", " ++ "CanBeNull = false" ∧
      ", UpdateCheck = UpdateCheck.Never" = ", " ++ "UpdateCheck = UpdateCheck.Never" ∧
      ", DbType = \"" = ", " ++ "DbType = \"" ∧ "\")]" = "\"" ++ ")]" := by
    decide +kernel
  obtain ⟨opening, key, numbered, required, unchecked, declared, closing⟩ := joined
  rw [attributeText_eq, own_eq]
  unfold Column.attribute
  simp only [opening, key, numbered, required, unchecked, declared, closing, String.append_assoc,
    -String.reduceAppend]

/-- The attribute tells what it was written for: the two arguments that may follow the column's own
begin with different letters. -/
theorem attributeText_inj (column : Column) {never other : Bool} {literal text : String} :
    column.attributeText never literal = column.attributeText other text ↔
      never = other ∧ literal = text := by
  rw [attributeText_eq, attributeText_eq, String.append_right_inj]
  constructor
  · intro same
    cases never <;> cases other
    case false.false => simpa [String.append_left_inj, String.append_right_inj] using same
    case true.true => simpa [String.append_left_inj, String.append_right_inj] using same
    all_goals
      have letters := congrArg (fun text : String => text.toList[2]?) same
      simp at letters
  · rintro ⟨rfl, rfl⟩
    rfl

theorem attribute_eq_attributeText_iff (column : Column) (never : Bool) (literal : String) :
    column.attribute = column.attributeText never literal ↔
      column.skipsUpdateCheck = never ∧ column.declaredType = literal := by
  rw [attribute_eq_attributeText, attributeText_inj]

/-- The attribute that a column carries by default declares its type with a length exactly if that
is text of a positive length, and has the exception from updates exactly if the type is a long text
or text without a bound.  So it never has both, and columns of one storage type and length have the
same of them, whatever their names, keys and types are. -/
theorem attribute_goes_by_type_and_length (column : Column) :
    (∀ never literal,
      ({} : RenderHooks).columnDecoration column = column.attributeText never literal ↔
        (never = true ↔ column.IsLongText ∨ column.IsVariableText ∧ column.length = some (-1)) ∧
        ((∃ size, column.HasSize size ∧ literal = column.typeWithLength size) ∨
          (∀ size, ¬ column.HasSize size) ∧ literal = Text.upperFirst column.storageType)) ∧
    (∀ never size,
      ({} : RenderHooks).columnDecoration column =
          column.attributeText never (column.typeWithLength size) →
        never = false ∧ column.length = some size ∧ 0 < size) ∧
    ∀ other : Column, other.storageType = column.storageType → other.length = column.length →
      ∀ never literal,
        ({} : RenderHooks).columnDecoration other = other.attributeText never literal ↔
          ({} : RenderHooks).columnDecoration column = column.attributeText never literal := by
  simp only [attribute_eq_attributeText_iff]
  refine ⟨fun never literal => ?_, fun never size => ?_, ?_⟩
  · rw [declaredType_eq_iff, ← skipsUpdateCheck_iff, eq_comm, Bool.eq_iff_iff]
  · rintro ⟨rfl, sized_eq⟩
    rcases (declaredType_eq_iff column _).mp sized_eq with ⟨actual, sized, same⟩ | ⟨-, same⟩
    · obtain ⟨variableText, length_eq, positive⟩ := sized
      obtain rfl := column.eq_of_typeWithLength_eq positive same.symm
      refine ⟨?_, length_eq, positive⟩
      rw [← Bool.not_eq_true, skipsUpdateCheck_iff, length_eq, Option.some.injEq]
      rintro (longText | ⟨-, unbounded⟩)
      · exact not_isLongText_of_isVariableText variableText longText
      · omega
    · exact absurd same (column.typeWithLength_ne_upperFirst size)
  · intro other type_eq length_eq never literal
    have skips_eq : other.skipsUpdateCheck = column.skipsUpdateCheck := by
      simp only [skipsUpdateCheck, family?, isUnbounded, type_eq, length_eq]
    have declared_eq : other.declaredType = column.declaredType := by
      rw [declaredType, declaredType, family?, family?, type_eq, length_eq]
    rw [skips_eq, declared_eq]

/-- A column with text of up to 50 characters. -/
def sizedColumn : Column :=
  ⟨"code", "nVarChar", "string", true, false, false, some 50⟩

theorem attribute_goes_by_type_and_length_of_sized :
    ∃ keyColumn : Column, keyColumn = { sizedColumn with name := "id", primaryKey := true } ∧
      keyColumn.storageType = sizedColumn.storageType ∧ keyColumn.length = sizedColumn.length ∧
      ({} : RenderHooks).columnDecoration sizedColumn =
        sizedColumn.attributeText false (sizedColumn.typeWithLength 50) ∧
      (false = false ∧ sizedColumn.length = some 50 ∧ (0 : Int) < 50) ∧
      ({} : RenderHooks).columnDecoration keyColumn =
        keyColumn.attributeText false (sizedColumn.typeWithLength 50) := by
  have decorated : ({} : RenderHooks).columnDecoration sizedColumn =
      sizedColumn.attributeText false (sizedColumn.typeWithLength 50) := by
    decide +kernel
  obtain ⟨-, sized, same⟩ := attribute_goes_by_type_and_length sizedColumn
  have keyDecorated := (same { sizedColumn with name := "id", primaryKey := true } rfl rfl false
    (sizedColumn.typeWithLength 50)).mpr decorated
  exact ⟨_, rfl, rfl, rfl, decorated, sized false 50 decorated, keyDecorated⟩

end Column
end DataLayer

import DataLayer.Proofs.Text.Uppercase

/-!
# Names made of words

A name becomes a type name when its words are capitalised and put together without what separates
them.  Words are taken one by one: a separator between two names is where the words of the second
one start.  The result has no separators left, so it is a single capitalised word.
-/

namespace DataLayer
namespace Text

/-- The characters that separate the words of a name. -/
def wordSeparators : List Char :=
  ['_', '-', ' ']

theorem isWordSeparator_iff (c : Char) : isWordSeparator c = true ↔ c ∈ wordSeparators := by
  simp only [isWordSeparator, Bool.or_eq_true, beq_iff_eq, wordSeparators, List.mem_cons,
    List.not_mem_nil, or_false, or_assoc]

theorem isCaselessCode_of_mem_wordSeparators :
    ∀ separator ∈ wordSeparators, IsCaselessCode separator.toNat := by
  simp [wordSeparators, IsCaselessCode]

/-- The text has no separators between words. -/
def IsOneWord (text : List Char) : Prop :=
  ∀ separator ∈ wordSeparators, separator ∉ text

theorem isOneWord_cons_iff (c : Char) (rest : List Char) :
    IsOneWord (c :: rest) ↔ isWordSeparator c = false ∧ IsOneWord rest := by
  rw [← Bool.not_eq_true, isWordSeparator_iff]
  simp only [IsOneWord, List.mem_cons, not_or]
  constructor
  · intro free
    exact ⟨fun member => (free c member).1 rfl, fun separator member => (free separator member).2⟩
  · rintro ⟨first, others⟩ separator member
    refine ⟨?_, others separator member⟩
    rintro rfl
    exact first member

/-- No uppercase form brings a separator in. -/
theorem isOneWord_upperChar_append {c : Char} {rest : List Char}
    (word : isWordSeparator c = false) (free : IsOneWord rest) :
    IsOneWord (upperChar c ++ rest) := by
  rw [← Bool.not_eq_true, isWordSeparator_iff] at word
  intro separator member inside
  rcases List.mem_append.mp inside with upper | later
  · obtain rfl := (mem_upperChar_iff (isCaselessCode_of_mem_wordSeparators separator member) c).mp
      upper
    exact word member
  · exact free separator member later

theorem isOneWord_joinCapitalized (wordStart : Bool) (text : List Char) :
    IsOneWord (joinCapitalized wordStart text) := by
  induction text generalizing wordStart with
  | nil => exact fun _ _ => List.not_mem_nil
  | cons c rest ih =>
      rw [joinCapitalized]
      split_ifs with separator start
      · exact ih true
      · exact isOneWord_upperChar_append (eq_false_of_ne_true separator) (ih false)
      · exact (isOneWord_cons_iff c _).mpr ⟨eq_false_of_ne_true separator, ih false⟩

/-- Behind a separator a word starts, whatever stands in front of it. -/
theorem joinCapitalized_append_separator {separator : Char} (member : separator ∈ wordSeparators)
    (wordStart : Bool) (front back : List Char) :
    joinCapitalized wordStart (front ++ separator :: back) =
      joinCapitalized wordStart front ++ joinCapitalized true back := by
  induction front generalizing wordStart with
  | nil => simp [joinCapitalized, (isWordSeparator_iff separator).mpr member]
  | cons c rest ih =>
      rw [List.cons_append, joinCapitalized, joinCapitalized]
      split_ifs
      · exact ih true
      · rw [ih false, List.append_assoc]
      · rw [ih false, List.cons_append]

/-- Within a word nothing is changed. -/
theorem joinCapitalized_false_of_isOneWord {text : List Char} (word : IsOneWord text) :
    joinCapitalized false text = text := by
  induction text with
  | nil => rfl
  | cons c rest ih =>
      obtain ⟨first, others⟩ := (isOneWord_cons_iff c rest).mp word
      simp only [joinCapitalized, first, Bool.false_eq_true, if_false, ih others]

theorem joinCapitalized_true_of_isOneWord {text : List Char} (word : IsOneWord text) :
    joinCapitalized true text = capitalizeChars text := by
  cases text with
  | nil => rfl
  | cons c rest =>
      obtain ⟨first, others⟩ := (isOneWord_cons_iff c rest).mp word
      simp only [joinCapitalized, first, Bool.false_eq_true, if_false, if_true, capitalizeChars,
        joinCapitalized_false_of_isOneWord others]

theorem capitalizeChars_joinCapitalized (text : List Char) :
    capitalizeChars (joinCapitalized true text) = joinCapitalized true text := by
  induction text with
  | nil => rfl
  | cons c rest ih =>
      simp only [joinCapitalized, if_true]
      split_ifs
      · exact ih
      · exact capitalizeChars_upperChar_append c _

theorem pascalCase_of_isOneWord {text : String} (word : IsOneWord text.toList) :
    pascalCase text = upperFirst text := by
  apply String.toList_injective
  rw [pascalCase, String.toList_ofList, toList_upperFirst, joinCapitalized_true_of_isOneWord word]

theorem isOneWord_pascalCase (text : String) : IsOneWord (pascalCase text).toList := by
  rw [pascalCase, String.toList_ofList]
  exact isOneWord_joinCapitalized true text.toList

theorem pascalCase_append_separator {separator : Char} (member : separator ∈ wordSeparators)
    (front back : String) :
    pascalCase (front ++ String.singleton separator ++ back) =
      pascalCase front ++ pascalCase back := by
  have chars_eq : (front ++ String.singleton separator ++ back).toList =
      front.toList ++ separator :: back.toList := by simp
  rw [pascalCase, chars_eq, joinCapitalized_append_separator member, String.ofList_append]
  rfl

theorem pascalCase_pascalCase (text : String) : pascalCase (pascalCase text) = pascalCase text := by
  rw [pascalCase_of_isOneWord (isOneWord_pascalCase text)]
  apply String.toList_injective
  rw [toList_upperFirst, pascalCase, String.toList_ofList, capitalizeChars_joinCapitalized]

/-- Putting the words of a name together leaves no separator, changes nothing when it is done again,
goes on word by word, and capitalises a name that is a single word. -/
theorem pascalCase_word_by_word :
    (∀ text, ∀ separator ∈ wordSeparators, separator ∉ (pascalCase text).toList) ∧
      (∀ text, pascalCase (pascalCase text) = pascalCase text) ∧
      (∀ front back, ∀ separator ∈ wordSeparators,
        pascalCase (front ++ String.singleton separator ++ back) =
          pascalCase front ++ pascalCase back) ∧
      ∀ text, (∀ separator ∈ wordSeparators, separator ∉ text.toList) →
        pascalCase text = upperFirst text :=
  ⟨isOneWord_pascalCase, pascalCase_pascalCase,
    fun front back _ member => pascalCase_append_separator member front back,
    fun _ word => pascalCase_of_isOneWord word⟩

/-- Words are capitalised in full, also where separators follow one another or begin the name. -/
theorem pascalCase_of_sharp_words :
    ('-' ∈ wordSeparators ∧ '-' ∉ (pascalCase " ßo--ǆ_2x").toList) ∧
      pascalCase (pascalCase " ßo--ǆ_2x") = "SSoǄ2x" ∧
      ('_' ∈ wordSeparators ∧
        pascalCase (" ßo--ǆ" ++ String.singleton '_' ++ "2x") = "SSoǄ" ++ "2x") ∧
      (∀ separator ∈ wordSeparators, separator ∉ "\tßo".toList) ∧
      pascalCase "\tßo" = upperFirst "\tßo" := by
  obtain ⟨separated, again, word_by_word, one_word⟩ := pascalCase_word_by_word
  have whole : pascalCase " ßo--ǆ_2x" = "SSoǄ2x" := by decide +kernel
  have front : pascalCase " ßo--ǆ" = "SSoǄ" := by decide +kernel
  have back : pascalCase "2x" = "2x" := by decide +kernel
  have word : ∀ separator ∈ wordSeparators, separator ∉ "\tßo".toList := by
    simp [wordSeparators]
  refine ⟨⟨by decide, separated _ '-' (by decide)⟩, (again _).trans whole, ⟨by decide, ?_⟩, word,
    one_word _ word⟩
  rw [word_by_word _ _ '_' (by decide), front, back]

end Text
end DataLayer

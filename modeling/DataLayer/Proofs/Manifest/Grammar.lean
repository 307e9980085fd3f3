import DataLayer.Proofs.Text.Split
import DataLayer.Proofs.Manifest.Acceptance

/-!
# The grammar of names

Words are made of ASCII letters, digits and underscores, and namespaces of words with dots between
them.  The checks of a manifest accept exactly these names, and what they find wrong with a name is
the first thing that the grammar has against it.
-/

namespace DataLayer

/-- The character is an ASCII letter. -/
def IsLetter (c : Char) : Prop :=
  'A' ≤ c ∧ c ≤ 'Z' ∨ 'a' ≤ c ∧ c ≤ 'z'

/-- The character is an ASCII digit. -/
def IsDigit (c : Char) : Prop :=
  '0' ≤ c ∧ c ≤ '9'

/-- A word can start with the character. -/
def StartsWord (c : Char) : Prop :=
  IsLetter c ∨ c = '_'

/-- A word can go on with the character. -/
def ContinuesWord (c : Char) : Prop :=
  IsLetter c ∨ IsDigit c ∨ c = '_'

theorem isAlpha_iff (c : Char) : c.isAlpha = true ↔ IsLetter c := by
  change (decide ('A' ≤ c ∧ c ≤ 'Z') || (decide ('a' ≤ c) && decide (c ≤ 'z'))) = true ↔ _
  simp [IsLetter]

theorem isAlphanum_iff (c : Char) : c.isAlphanum = true ↔ IsLetter c ∨ IsDigit c := by
  rw [Char.isAlphanum, Bool.or_eq_true, isAlpha_iff]
  simp [Char.isDigit, IsDigit, Char.le_def]

theorem isIdentifierStart_iff (c : Char) : isIdentifierStart c = true ↔ StartsWord c := by
  rw [isIdentifierStart, Bool.or_eq_true, isAlpha_iff, beq_iff_eq, StartsWord]

theorem isIdentifierChar_iff (c : Char) : isIdentifierChar c = true ↔ ContinuesWord c := by
  rw [isIdentifierChar, Bool.or_eq_true, isAlphanum_iff, beq_iff_eq, ContinuesWord, or_assoc]

/-- The name is a word: a letter or an underscore, and then letters, digits and underscores. -/
def IsWord (name : String) : Prop :=
  ∃ first others, name.toList = first :: others ∧ StartsWord first ∧ ∀ c ∈ others, ContinuesWord c

theorem isIdentifier_iff (name : String) : IsIdentifier name ↔ IsWord name := by
  simp only [IsIdentifier, IsWord, isIdentifierStart_iff, isIdentifierChar_iff]

/-- The name is a word that is not reserved. -/
def IsFreeWord (name : String) : Prop :=
  IsWord name ∧ name ∉ csharpKeywords

theorem isTypeName_iff (name : String) : IsTypeName name ↔ IsFreeWord name := by
  rw [IsFreeWord, ← isIdentifier_iff]
  exact ⟨fun ⟨identifier, unreserved⟩ => ⟨identifier, unreserved⟩,
    fun ⟨identifier, unreserved⟩ => ⟨identifier, unreserved⟩⟩

/-- What the name lacks to be a word. -/
inductive IsNoWord (name : String) : IdentifierFault → Prop where
  /-- It has no characters. -/
  | empty : name = "" → IsNoWord name .empty
  /-- It starts as no word does. -/
  | badStart {first others} : name.toList = first :: others → ¬ StartsWord first →
      IsNoWord name .badStart
  /-- It starts as a word, but some later character is in no word. -/
  | badCharacter {first others c} : name.toList = first :: others → StartsWord first →
      c ∈ others → ¬ ContinuesWord c → IsNoWord name .badCharacter

theorem identifierFault?_eq_some_iff (name : String) (fault : IdentifierFault) :
    identifierFault? name = some fault ↔ IsNoWord name fault := by
  unfold identifierFault?
  constructor
  · intro found
    cases name_eq : name.toList with
    | nil =>
        obtain rfl : fault = .empty := by simpa [name_eq, eq_comm] using found
        exact .empty (String.toList_eq_nil_iff.mp name_eq)
    | cons first others =>
        simp only [name_eq] at found
        split_ifs at found with start each
        · obtain rfl := Option.some.inj found
          rw [Bool.not_eq_true', ← Bool.not_eq_true, isIdentifierStart_iff] at start
          exact .badStart name_eq start
        · obtain rfl := Option.some.inj found
          rw [Bool.not_eq_true', Bool.not_eq_false, isIdentifierStart_iff] at start
          simp only [List.all_eq_true, not_forall, isIdentifierChar_iff] at each
          obtain ⟨c, member, strange⟩ := each
          exact .badCharacter name_eq start member strange
  · rintro (rfl | ⟨name_eq, start⟩ | ⟨name_eq, start, member, strange⟩)
    · rfl
    · rw [← isIdentifierStart_iff] at start
      simp [name_eq, start]
    · rw [← isIdentifierStart_iff] at start
      rw [← isIdentifierChar_iff] at strange
      have not_all := mt List.all_eq_true.mp fun each => strange (each _ member)
      simp [name_eq, start, not_all]

/-- The texts are the parts of the name between its dots. -/
def HasParts (name : String) (parts : List String) : Prop :=
  parts ≠ [] ∧ (∀ part ∈ parts, '.' ∉ part.toList) ∧ name = ".".intercalate parts

theorem splitAtChar_dot_eq_iff (name : String) (parts : List String) :
    Text.splitAtChar '.' name = parts ↔ HasParts name parts :=
  Text.splitAtChar_eq_iff '.' name parts

theorem dot_notMem_of_isWord {name : String} (word : IsWord name) : '.' ∉ name.toList := by
  intro member
  have inside := ((isIdentifier_iff name).mpr word).isIdentifierChar member
  exact absurd inside (by decide)

theorem IsNamespace.eq_dot_or_isIdentifierChar {name : String} (names : IsNamespace name) {c : Char}
    (member : c ∈ name.toList) : c = '.' ∨ isIdentifierChar c = true := by
  refine (Text.mem_splitAtChar_of_mem member).imp_right ?_
  rintro ⟨part, part_mem, inside⟩
  exact (names part part_mem).identifier.isIdentifierChar inside

/-- The name consists of words that are not reserved, with dots between them. -/
def IsDottedName (name : String) : Prop :=
  ∃ parts, parts ≠ [] ∧ (∀ part ∈ parts, IsFreeWord part) ∧ name = ".".intercalate parts

theorem isNamespace_iff (name : String) : IsNamespace name ↔ IsDottedName name := by
  constructor
  · intro names
    obtain ⟨nonempty, -, name_eq⟩ := (splitAtChar_dot_eq_iff name _).mp rfl
    exact ⟨_, nonempty, fun part member => (isTypeName_iff part).mp (names part member), name_eq⟩
  · rintro ⟨parts, nonempty, words, name_eq⟩
    have undotted : ∀ part ∈ parts, '.' ∉ part.toList := fun part member =>
      dot_notMem_of_isWord (words part member).1
    rw [IsNamespace, (splitAtChar_dot_eq_iff name parts).mpr ⟨nonempty, undotted, name_eq⟩]
    exact fun part member => (isTypeName_iff part).mpr (words part member)

/-- Nothing of the name can be seen. -/
def IsInvisible (name : String) : Prop :=
  ∀ c ∈ name.toList, c.toNat ∈ Text.blankCodes

instance : DecidablePred IsInvisible := fun name =>
  inferInstanceAs (Decidable (∀ c ∈ name.toList, _))

theorem isBlank_iff (name : String) : Text.isBlank name = true ↔ IsInvisible name := by
  simp [Text.isBlank, IsInvisible, Text.isBlankChar]

/-- The name is that of one folder. -/
structure IsOneFolder (name : String) : Prop where
  visible : ¬ IsInvisible name
  noSlash : '/' ∉ name.toList
  noBackslash : '\\' ∉ name.toList
  notSelf : name ≠ "."
  notParent : name ≠ ".."

theorem isFolderName_iff (name : String) : IsFolderName name ↔ IsOneFolder name := by
  have visible_iff : Text.isBlank name = false ↔ ¬ IsInvisible name := by
    rw [← isBlank_iff, Bool.not_eq_true]
  constructor
  · rintro ⟨⟨noSlash, -, notSelf, notParent⟩, visible, noBackslash⟩
    exact ⟨visible_iff.mp visible, noSlash, noBackslash, notSelf, notParent⟩
  · rintro ⟨visible, noSlash, noBackslash, notSelf, notParent⟩
    refine ⟨⟨noSlash, ?_, notSelf, notParent⟩, visible_iff.mpr visible, noBackslash⟩
    rintro rfl
    simp [IsInvisible] at visible

/-- What the name lacks to be that of one folder. -/
inductive IsNoFolder (name : String) : FolderFault → Prop where
  /-- Nothing of it can be seen. -/
  | blank : IsInvisible name → IsNoFolder name .blank
  /-- It leads through several folders. -/
  | severalSegments : ¬ IsInvisible name → '/' ∈ name.toList ∨ '\\' ∈ name.toList →
      IsNoFolder name .severalSegments
  /-- It stands for another folder. -/
  | relativeMarker : name = "." ∨ name = ".." → IsNoFolder name .relativeMarker

theorem folderFault?_eq_some_iff (name : String) (fault : FolderFault) :
    folderFault? name = some fault ↔ IsNoFolder name fault := by
  have slashed_iff : (name.toList.any fun c => c == '/' || c == '\\') = true ↔
      '/' ∈ name.toList ∨ '\\' ∈ name.toList := by
    simp only [List.any_eq_true, Bool.or_eq_true, beq_iff_eq, and_or_left, exists_or,
      exists_eq_right]
  unfold folderFault?
  constructor
  · intro found
    split_ifs at found with blank slashed marker
    · obtain rfl := Option.some.inj found
      exact .blank ((isBlank_iff name).mp blank)
    · obtain rfl := Option.some.inj found
      exact .severalSegments (mt (isBlank_iff name).mpr blank) (slashed_iff.mp slashed)
    · obtain rfl := Option.some.inj found
      exact .relativeMarker marker
  · rintro (blank | ⟨visible, slashed⟩ | marker)
    · rw [if_pos ((isBlank_iff name).mpr blank)]
    · rw [if_neg (mt (isBlank_iff name).mp visible), if_pos (slashed_iff.mpr slashed)]
    · rcases marker with rfl | rfl <;> decide

/-- The text consists of letters and digits, and is not empty. -/
def IsAlphanumeric (text : String) : Prop :=
  text ≠ "" ∧ ∀ c ∈ text.toList, IsLetter c ∨ IsDigit c

theorem isExtension_iff (extension : String) :
    IsExtension extension ↔ IsAlphanumeric extension := by
  simp only [IsAlphanumeric, ← isAlphanum_iff]
  exact ⟨fun ⟨nonempty, each⟩ => ⟨nonempty, each⟩, fun ⟨nonempty, each⟩ => ⟨nonempty, each⟩⟩

/-- What the text lacks to be an extension. -/
inductive IsNoExtension (text : String) : ExtensionFault → Prop where
  /-- It has no characters. -/
  | empty : text = "" → IsNoExtension text .empty
  /-- It starts with a dot. -/
  | leadingDot {rest} : text.toList = '.' :: rest → IsNoExtension text .leadingDot
  /-- It starts with no dot, but some character is neither a letter nor a digit. -/
  | badCharacter {c} : text.toList.head? ≠ some '.' → c ∈ text.toList →
      ¬ (IsLetter c ∨ IsDigit c) → IsNoExtension text .badCharacter

theorem extensionFault?_eq_some_iff (extension : String) (fault : ExtensionFault) :
    extensionFault? extension = some fault ↔ IsNoExtension extension fault := by
  unfold extensionFault?
  constructor
  · intro found
    split at found
    case h_1 empty =>
      obtain rfl := Option.some.inj found
      exact .empty (String.toList_eq_nil_iff.mp empty)
    case h_2 rest dotted =>
      obtain rfl := Option.some.inj found
      exact .leadingDot dotted
    case h_3 _ undotted =>
      split_ifs at found with each
      obtain rfl := Option.some.inj found
      simp only [List.all_eq_true, not_forall, isAlphanum_iff] at each
      obtain ⟨c, member, strange⟩ := each
      refine .badCharacter (fun head => ?_) member strange
      obtain ⟨rest, dotted⟩ := List.head?_eq_some_iff.mp head
      exact undotted rest dotted
  · rintro (rfl | dotted | ⟨undotted, member, strange⟩)
    · rfl
    · split
      case h_1 empty => simp [dotted] at empty
      case h_2 => rfl
      case h_3 undotted => exact absurd dotted (undotted _)
    · rw [← isAlphanum_iff] at strange
      have not_all := mt List.all_eq_true.mp fun each => strange (each _ member)
      split
      case h_1 empty => simp [empty] at member
      case h_2 rest dotted => simp [dotted] at undotted
      case h_3 => rw [if_neg not_all]

end DataLayer

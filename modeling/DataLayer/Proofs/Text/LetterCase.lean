import DataLayer.Proofs.Text.Uppercase
import DataLayer.Text.Uppercase
import Mathlib.Data.List.Forall2

/-!
# Spellings of a word

A word of ASCII letters can be spelled with each letter in either case.  Capitalising leaves two
spellings of a word two spellings of a word: their first letters become the same.
-/

namespace DataLayer
namespace Text

/-- Two spellings of a word: the same ASCII letters, each in either case. -/
def IsRespelling (spelling other : List Char) : Prop :=
  List.Forall₂ (fun c d => c.isAlpha = true ∧ d.isAlpha = true ∧ d.toLower = c.toLower) spelling
    other

theorem toNat_lt_of_isAlpha {c : Char} (letter : c.isAlpha = true) : c.toNat < 0x80 := by
  change (decide ('A' ≤ c ∧ c ≤ 'Z') || (decide ('a' ≤ c) && decide (c ≤ 'z'))) = true at letter
  simp only [Bool.or_eq_true, Bool.and_eq_true, decide_eq_true_eq, Char.le_def,
    UInt32.le_iff_toNat_le] at letter
  rcases letter with upper | lower
  · exact Nat.lt_of_le_of_lt upper.2 (by decide)
  · exact Nat.lt_of_le_of_lt lower.2 (by decide)

/-- What holds of the characters of ASCII can be tried on each of them. -/
theorem forall_isAlpha_of_forall_ascii (property : Char → Prop)
    (each : ∀ code < 0x80, (Char.ofNat code).isAlpha = true → property (Char.ofNat code))
    {c : Char} (letter : c.isAlpha = true) : property c := by
  have holds := each c.toNat (toNat_lt_of_isAlpha letter)
  rw [Char.ofNat_toNat] at holds
  exact holds letter

/-- An ASCII letter has two cases, and the uppercase form of both is the capital letter. -/
theorem upperChar_of_isAlpha {c : Char} (letter : c.isAlpha = true) :
    upperChar c = [c.toUpper] ∧ upperChar c.toLower = [c.toUpper] ∧ c.toUpper.isAlpha = true :=
  forall_isAlpha_of_forall_ascii
    (fun c => upperChar c = [c.toUpper] ∧ upperChar c.toLower = [c.toUpper] ∧
      c.toUpper.isAlpha = true) (by decide +kernel) letter

theorem upperChar_toLower {c : Char} (letter : c.isAlpha = true) :
    upperChar c.toLower = upperChar c := by
  rw [(upperChar_of_isAlpha letter).2.1, (upperChar_of_isAlpha letter).1]

theorem isAlpha_of_mem_upperChar {c : Char} (letter : c.isAlpha = true) :
    ∀ upper ∈ upperChar c, upper.isAlpha = true := by
  rw [(upperChar_of_isAlpha letter).1, List.forall_mem_singleton]
  exact (upperChar_of_isAlpha letter).2.2

theorem isAlpha_of_toLower {c : Char} (letter : c.toLower.isAlpha = true) : c.isAlpha = true := by
  by_cases upper : c.isUpper = true
  · exact Bool.or_eq_true_iff.mpr (.inl upper)
  · have toLower_eq : c.toLower = c := dif_neg fun range => upper (decide_eq_true range)
    rwa [toLower_eq] at letter

namespace IsRespelling

variable {spelling other : List Char}

theorem refl (letters : ∀ c ∈ spelling, c.isAlpha = true) : IsRespelling spelling spelling :=
  List.forall₂_same.mpr fun c member => ⟨letters c member, letters c member, rfl⟩

theorem of_sameLetters {text spelled : String} (letters : ∀ c ∈ (foldCase text).toList, c.isAlpha)
    (same : sameLetters text spelled = true) : IsRespelling text.toList spelled.toList := by
  rw [sameLetters, beq_iff_eq, foldCase, foldCase, ← String.toList_inj, String.toList_ofList,
    String.toList_ofList] at same
  have lower_letters : ∀ c ∈ text.toList, c.toLower.isAlpha = true := by
    simpa [foldCase] using letters
  rw [← List.forall₂_eq_eq_eq, List.forall₂_map_left_iff, List.forall₂_map_right_iff] at same
  have pairs := (List.forall₂_and_left _ _).mpr ⟨lower_letters, same⟩
  refine pairs.imp fun c d pair => ?_
  obtain ⟨letter, toLower_eq⟩ := pair
  exact ⟨isAlpha_of_toLower letter, isAlpha_of_toLower (toLower_eq ▸ letter), toLower_eq.symm⟩

theorem isAlpha (pairs : IsRespelling spelling other) : ∀ c ∈ spelling, c.isAlpha = true := by
  induction pairs with
  | nil => simp
  | cons pair _ ih => exact List.forall_mem_cons.mpr ⟨pair.1, ih⟩

theorem symm (pairs : IsRespelling spelling other) : IsRespelling other spelling :=
  pairs.flip.imp fun _ _ pair => ⟨pair.2.1, pair.1, pair.2.2.symm⟩

/-- Capitalised, two spellings of a word begin with the same letter. -/
theorem upperFirst {text spelled : String} (pairs : IsRespelling text.toList spelled.toList) :
    IsRespelling (upperFirst text).toList (upperFirst spelled).toList := by
  rw [toList_upperFirst, toList_upperFirst]
  generalize text.toList = chars, spelled.toList = spelled_chars at pairs ⊢
  cases pairs with
  | nil => exact .nil
  | @cons c d _ _ pair rest_pairs =>
      obtain ⟨letter, other_letter, toLower_eq⟩ := pair
      have upper_eq : upperChar d = upperChar c := by
        rw [← upperChar_toLower other_letter, toLower_eq, upperChar_toLower letter]
      rw [capitalizeChars, capitalizeChars, upper_eq]
      exact List.rel_append (refl (isAlpha_of_mem_upperChar letter)) rest_pairs

end IsRespelling

end Text
end DataLayer

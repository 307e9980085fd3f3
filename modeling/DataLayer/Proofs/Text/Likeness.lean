import DataLayer.Proofs.Text.Blocks
import Mathlib.Data.List.Forall2

/-!
# Likenesses of texts

Two texts may be like each other without being equal.  A likeness that goes along with putting texts
together, with stripping line ends and with reading lines also goes along with everything that is
done to blocks of generated code.
-/

namespace DataLayer
namespace Text

/-- A likeness of texts that goes along with what is done to them. -/
structure IsLikeness (related : String → String → Prop) : Prop where
  /-- Every text is like itself. -/
  refl : ∀ text, related text text
  /-- Texts that are put together are like each other if their parts are. -/
  append : ∀ {front other back behind}, related front other → related back behind →
    related (front ++ back) (other ++ behind)
  /-- Only the empty text is like the empty text. -/
  empty_iff : ∀ {text other}, related text other → (text = "" ↔ other = "")
  /-- Line ends at the end do not matter. -/
  stripLineEnds : ∀ {text other}, related text other →
    related (stripLineEnds text) (stripLineEnds other)
  /-- Texts that are like each other are so line by line. -/
  lines : ∀ {text other}, related text other → List.Forall₂ related (lines text) (lines other)

theorem isLikeness_eq : IsLikeness Eq where
  refl _ := rfl
  append := by
    rintro front _ back _ rfl rfl
    rfl
  empty_iff := by
    rintro text _ rfl
    rfl
  stripLineEnds := by
    rintro text _ rfl
    rfl
  lines := by
    rintro text _ rfl
    exact List.forall₂_same.mpr fun _ _ => rfl

namespace IsLikeness

variable {related : String → String → Prop} (likeness : IsLikeness related)
  {blocks others : List String} {text other : String}
include likeness

theorem refl_list (texts : List String) : List.Forall₂ related texts texts :=
  List.forall₂_same.mpr fun text _ => likeness.refl text

theorem join (pairs : List.Forall₂ related blocks others) :
    related (String.join blocks) (String.join others) := by
  induction pairs with
  | nil => exact likeness.refl _
  | cons pair _ ih =>
      rw [String.join_cons, String.join_cons]
      exact likeness.append pair ih

/-- What stands between fixed parts may be replaced by something like it. -/
theorem intercalate (pair : related text other) (parts : List String) :
    related (text.intercalate parts) (other.intercalate parts) := by
  induction parts with
  | nil => exact likeness.refl _
  | cons part rest ih =>
      cases rest with
      | nil =>
          rw [String.intercalate_singleton, String.intercalate_singleton]
          exact likeness.refl part
      | cons second rest =>
          rw [String.intercalate_cons_cons, String.intercalate_cons_cons]
          exact likeness.append (likeness.append (likeness.refl part) pair) ih

theorem spaced {front back behind : String} (pair : related front other)
    (backs : related back behind) : related (spaced front back) (spaced other behind) := by
  have front_iff := likeness.empty_iff pair
  have back_iff := likeness.empty_iff backs
  unfold Text.spaced
  by_cases front_empty : front = ""
  · rw [if_pos front_empty, if_pos (front_iff.mp front_empty)]
    exact backs
  · rw [if_neg front_empty, if_neg (mt front_iff.mpr front_empty)]
    by_cases back_empty : back = ""
    · rw [if_pos back_empty, if_pos (back_iff.mp back_empty)]
      exact pair
    · rw [if_neg back_empty, if_neg (mt back_iff.mpr back_empty)]
      exact likeness.append (likeness.append pair (likeness.refl _)) backs

theorem joinBlocks (pairs : List.Forall₂ related blocks others) :
    related (joinBlocks blocks) (joinBlocks others) := by
  induction pairs with
  | nil => exact likeness.refl _
  | @cons block other rest others pair _ ih =>
      rw [← List.singleton_append, ← List.singleton_append (l := others), joinBlocks_append,
        joinBlocks_append, joinBlocks_singleton, joinBlocks_singleton]
      exact likeness.spaced (likeness.stripLineEnds pair) ih

theorem ensureTrailingNewline (pair : related text other) :
    related (ensureTrailingNewline text) (ensureTrailingNewline other) :=
  likeness.append (likeness.stripLineEnds pair) (likeness.refl "\n")

end IsLikeness

end Text
end DataLayer

import DataLayer.Files.Path
import Mathlib.Data.List.Basic

/-!
# Joined paths

A path that is joined under a folder goes straight into it exactly when it has no slash.  One that
starts with a slash does not go below the folder at all.
-/

namespace DataLayer
namespace Path

/-- The segment names something in a folder. -/
structure IsName (segment : String) : Prop where
  noSlash : '/' ∉ segment.toList
  nonempty : segment ≠ ""
  /-- It is not the folder itself. -/
  notSelf : segment ≠ "."
  /-- It is not the folder around. -/
  notParent : segment ≠ ".."

instance (segment : String) : Decidable (IsName segment) :=
  decidable_of_iff ('/' ∉ segment.toList ∧ segment ≠ "" ∧ segment ≠ "." ∧ segment ≠ "..")
    ⟨fun ⟨noSlash, nonempty, notSelf, notParent⟩ => ⟨noSlash, nonempty, notSelf, notParent⟩,
      fun name => ⟨name.noSlash, name.nonempty, name.notSelf, name.notParent⟩⟩

theorem IsName.busy {segment : String} (name : IsName segment) : isIdle segment = false := by
  simp [isIdle, name.nonempty, name.notSelf]

theorem IsName.of_mem {segment : String} (noSlash : '/' ∉ segment.toList) {c : Char}
    (member : c ∈ segment.toList) (notDot : c ≠ '.') : IsName segment where
  noSlash := noSlash
  nonempty := by
    rintro rfl
    simp at member
  notSelf := by
    rintro rfl
    simp [notDot] at member
  notParent := by
    rintro rfl
    simp [notDot] at member

theorem startsWith_slash_iff (path : String) :
    path.startsWith "/" = true ↔ ∃ rest, path.toList = '/' :: rest := by
  rw [String.startsWith_string_iff]
  exact ⟨fun ⟨rest, same⟩ => ⟨rest, same.symm⟩, fun ⟨rest, same⟩ => ⟨rest, same.symm⟩⟩

theorem endsWith_slash_iff (path : String) :
    path.endsWith "/" = true ↔ ∃ front, path.toList = front ++ ['/'] := by
  rw [String.endsWith_eq_endsWith_toSlice, String.Slice.endsWith_string_iff, String.copy_toSlice]
  exact ⟨fun ⟨front, same⟩ => ⟨front, same.symm⟩, fun ⟨front, same⟩ => ⟨front, same.symm⟩⟩

theorem startsWith_slash_of_notMem {path : String} (noSlash : '/' ∉ path.toList) :
    path.startsWith "/" = false := by
  rw [Bool.eq_false_iff, ne_eq, startsWith_slash_iff]
  rintro ⟨rest, same⟩
  simp [same] at noSlash

theorem startsWith_slash_append {front : String} (nonempty : front ≠ "") (rest : String) :
    (front ++ rest).startsWith "/" = front.startsWith "/" := by
  obtain ⟨c, others, front_eq⟩ :=
    List.exists_cons_of_ne_nil (mt String.toList_eq_nil_iff.mp nonempty)
  rw [Bool.eq_iff_iff]
  simp [front_eq]

theorem join_append (base : String) {front : String} (nonempty : front ≠ "") (rest : String) :
    join base (front ++ rest) = join base front ++ rest := by
  unfold join
  rw [startsWith_slash_append nonempty]
  split_ifs <;> simp only [String.append_assoc]

namespace IsName

variable {folder : String}

theorem join_eq (name : IsName folder) {path : String} (relative : path.startsWith "/" = false) :
    join folder path = folder ++ "/" ++ path := by
  have open_end : ¬ folder.endsWith "/" = true := by
    rw [endsWith_slash_iff]
    rintro ⟨front, same⟩
    exact name.noSlash (by simp [same])
  simp [join, relative, name.nonempty, open_end]

/-- A path goes straight into the folder under which it is joined exactly when it has no slash. -/
theorem join_directly_iff (name : IsName folder) (path : String) :
    (∃ last : String, '/' ∉ last.toList ∧ join folder path = folder ++ "/" ++ last) ↔
      '/' ∉ path.toList := by
  constructor
  · rintro ⟨last, noSlash, joined⟩
    have relative : path.startsWith "/" = false := by
      by_contra absolute
      rw [Bool.not_eq_false] at absolute
      rw [join, if_pos absolute] at joined
      -- The path would begin as the folder does, which has no slash.
      rw [joined, String.append_assoc, startsWith_slash_append name.nonempty,
        startsWith_slash_of_notMem name.noSlash] at absolute
      exact Bool.false_ne_true absolute
    rw [name.join_eq relative, String.append_right_inj] at joined
    rwa [joined]
  · intro noSlash
    exact ⟨path, noSlash, name.join_eq (startsWith_slash_of_notMem noSlash)⟩

end IsName
end Path
end DataLayer

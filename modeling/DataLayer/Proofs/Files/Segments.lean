import DataLayer.Files.Path
import DataLayer.Proofs.Text.Split

/-!
# Segments of paths

A path and its segments determine each other: segments are free of slashes, and putting slashes
between them gives the path back.
-/

namespace DataLayer

namespace Path

theorem segments_ne_nil (path : String) : segments path ≠ [] :=
  Text.splitAtChar_ne_nil '/' path

theorem length_segments_le (path : String) : (segments path).length ≤ path.length + 1 := by
  rw [segments, Text.splitAtChar, List.length_map, ← String.length_toList]
  exact Text.length_splitChars_le '/' path.toList

theorem segments_append_slash (front back : String) :
    segments (front ++ "/" ++ back) = segments front ++ segments back :=
  Text.splitAtChar_append '/' front back

theorem segments_of_noSlash {path : String} (noSlash : '/' ∉ path.toList) :
    segments path = [path] :=
  Text.splitAtChar_of_notMem noSlash

theorem noSlash_of_mem_segments {path segment : String} (member : segment ∈ segments path) :
    '/' ∉ segment.toList :=
  Text.notMem_of_mem_splitAtChar member

theorem segments_intercalate {parts : List String} (nonempty : parts ≠ [])
    (noSlash : ∀ part ∈ parts, '/' ∉ part.toList) :
    segments ("/".intercalate parts) = parts :=
  Text.splitAtChar_intercalate nonempty noSlash

theorem segments_injective : Function.Injective segments := by
  intro path other same
  rw [← Text.intercalate_splitAtChar '/' path, ← Text.intercalate_splitAtChar '/' other]
  exact congrArg _ same

/-- A path whose segments begin as those of another one begins with it. -/
theorem exists_lead_of_segments {path front last : String} {between : List String}
    (noSlash : '/' ∉ last.toList) (between_noSlash : ∀ segment ∈ between, '/' ∉ segment.toList)
    (segments_eq : segments path = segments front ++ between ++ [last]) :
    ∃ lead, path = front ++ "/" ++ lead ++ last := by
  by_cases nothing : between = []
  · refine ⟨"", segments_injective ?_⟩
    rw [segments_eq, nothing, String.append_empty, segments_append_slash,
      segments_of_noSlash noSlash, List.append_nil]
  · refine ⟨"/".intercalate between ++ "/", segments_injective ?_⟩
    rw [segments_eq, ← String.append_assoc, segments_append_slash, segments_append_slash,
      segments_intercalate nothing between_noSlash, segments_of_noSlash noSlash]

theorem append_slash_inj {front other : String} (noSlash : '/' ∉ front.toList)
    (other_noSlash : '/' ∉ other.toList) (rest back : String) :
    front ++ "/" ++ rest = other ++ "/" ++ back ↔ front = other ∧ rest = back := by
  constructor
  · intro same
    have segments_eq := congrArg segments same
    rw [segments_append_slash, segments_append_slash, segments_of_noSlash noSlash,
      segments_of_noSlash other_noSlash] at segments_eq
    obtain ⟨rfl, -⟩ := List.cons.inj segments_eq
    exact ⟨rfl, (String.append_right_inj _).mp same⟩
  · rintro ⟨rfl, rfl⟩
    rfl

end Path
end DataLayer

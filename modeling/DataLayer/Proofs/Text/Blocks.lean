import DataLayer.Text.Lines
import Mathlib.Data.List.DropRight

/-!
# Joined blocks

Joining blocks works in any number of stages: blocks can first be joined in groups, and the groups
then be joined, without a change to the text.
-/

namespace DataLayer
namespace Text

theorem dropLineEnds_eq_rdropWhile (text : List Char) :
    dropLineEnds text = text.rdropWhile isLineEnd := rfl

theorem toList_stripLineEnds (text : String) :
    (stripLineEnds text).toList = dropLineEnds text.toList := by
  rw [stripLineEnds, String.toList_ofList]

theorem toList_ensureTrailingNewline (text : String) :
    (ensureTrailingNewline text).toList = dropLineEnds text.toList ++ ['\n'] := by
  rw [ensureTrailingNewline, String.toList_append, toList_stripLineEnds]
  rfl

@[simp]
theorem stripLineEnds_empty : stripLineEnds "" = "" := by
  simp [stripLineEnds, dropLineEnds]

@[simp]
theorem stripLineEnds_stripLineEnds (text : String) :
    stripLineEnds (stripLineEnds text) = stripLineEnds text := by
  simp only [stripLineEnds, dropLineEnds_eq_rdropWhile, String.toList_ofList]
  rw [List.rdropWhile_idempotent]

theorem dropLineEnds_append_of_ne_nil (front : List Char) {back : List Char}
    (back_ne : dropLineEnds back ≠ []) :
    dropLineEnds (front ++ back) = front ++ dropLineEnds back := by
  have dropped_ne : back.reverse.dropWhile isLineEnd ≠ [] := by
    simpa [dropLineEnds] using back_ne
  simp [dropLineEnds, List.dropWhile_append, dropped_ne]

/-- Line ends are only dropped from the last part of a text that holds something else. -/
theorem stripLineEnds_append_of_ne_empty (front : String) {back : String}
    (back_ne : stripLineEnds back ≠ "") :
    stripLineEnds (front ++ back) = front ++ stripLineEnds back := by
  have dropped_ne : dropLineEnds back.toList ≠ [] := by
    intro dropped
    exact back_ne (by rw [stripLineEnds, dropped, String.ofList_nil])
  apply String.toList_injective
  simp [stripLineEnds, dropLineEnds_append_of_ne_nil _ dropped_ne]

/-- The blocks that count, without the line ends at their ends. -/
def keptBlocks (blocks : List String) : List String :=
  (blocks.map stripLineEnds).filter (· ≠ "")

theorem joinBlocks_eq_intercalate (blocks : List String) :
    joinBlocks blocks = "\n\n".intercalate (keptBlocks blocks) := rfl

theorem toList_keptBlocks (blocks : List String) : (keptBlocks blocks).map String.toList =
    (blocks.map fun block => dropLineEnds block.toList).filter (· ≠ []) := by
  induction blocks with
  | nil => rfl
  | cons block rest ih =>
      by_cases empty : stripLineEnds block = ""
      · have dropped : dropLineEnds block.toList = [] := by
          rw [← toList_stripLineEnds, empty, String.toList_empty]
        simpa [keptBlocks, empty, dropped] using ih
      · have dropped : dropLineEnds block.toList ≠ [] := by
          rwa [← toList_stripLineEnds, ne_eq, String.toList_eq_nil_iff]
        simpa [keptBlocks, empty, dropped, toList_stripLineEnds] using ih

theorem toList_joinBlocks (blocks : List String) :
    (joinBlocks blocks).toList = ['\n', '\n'].intercalate
      ((blocks.map fun block => dropLineEnds block.toList).filter (· ≠ [])) := by
  rw [joinBlocks_eq_intercalate, String.toList_intercalate, toList_keptBlocks]
  rfl

theorem keptBlocks_append (front back : List String) :
    keptBlocks (front ++ back) = keptBlocks front ++ keptBlocks back := by
  simp [keptBlocks]

theorem stripped_of_mem_keptBlocks {blocks : List String} {block : String}
    (member : block ∈ keptBlocks blocks) : block ≠ "" ∧ stripLineEnds block = block := by
  simp only [keptBlocks, List.mem_filter, List.mem_map, decide_eq_true_eq] at member
  obtain ⟨⟨text, -, rfl⟩, block_ne⟩ := member
  exact ⟨block_ne, stripLineEnds_stripLineEnds text⟩

theorem intercalate_ne_empty {separator : String} {texts : List String} (texts_ne : texts ≠ [])
    (each_ne : ∀ text ∈ texts, text ≠ "") : separator.intercalate texts ≠ "" := by
  cases texts with
  | nil => exact absurd rfl texts_ne
  | cons text rest =>
      have text_ne : text ≠ "" := each_ne text List.mem_cons_self
      cases rest with
      | nil => simpa using text_ne
      | cons next others => simp [text_ne]

theorem joinBlocks_eq_empty_iff (blocks : List String) :
    joinBlocks blocks = "" ↔ keptBlocks blocks = [] := by
  constructor
  · intro joined
    by_contra kept_ne
    have kept_each_ne : ∀ block ∈ keptBlocks blocks, block ≠ "" := fun block member =>
      (stripped_of_mem_keptBlocks member).1
    exact intercalate_ne_empty kept_ne kept_each_ne joined
  · intro kept
    rw [joinBlocks_eq_intercalate, kept, String.intercalate_nil]

theorem stripLineEnds_intercalate {separator : String} {texts : List String}
    (stripped : ∀ text ∈ texts, text ≠ "" ∧ stripLineEnds text = text) :
    stripLineEnds (separator.intercalate texts) = separator.intercalate texts := by
  induction texts with
  | nil => simp
  | cons text rest ih =>
      by_cases rest_eq : rest = []
      · subst rest_eq
        simpa using (stripped text List.mem_cons_self).2
      · have rest_stripped := ih fun other member =>
          stripped other (List.mem_cons_of_mem text member)
        have rest_ne : separator.intercalate rest ≠ "" :=
          intercalate_ne_empty rest_eq fun other member =>
            (stripped other (List.mem_cons_of_mem text member)).1
        rw [String.intercalate_cons_of_ne_nil rest_eq,
          stripLineEnds_append_of_ne_empty _ (by rwa [rest_stripped]), rest_stripped]

@[simp]
theorem stripLineEnds_joinBlocks (blocks : List String) :
    stripLineEnds (joinBlocks blocks) = joinBlocks blocks :=
  stripLineEnds_intercalate fun _ member => stripped_of_mem_keptBlocks member

theorem joinBlocks_singleton (block : String) : joinBlocks [block] = stripLineEnds block := by
  by_cases empty : stripLineEnds block = "" <;> simp [joinBlocks, empty]

/-- Two texts with one blank line between them, unless one of them is empty. -/
def spaced (front back : String) : String :=
  if front = "" then back else if back = "" then front else front ++ "\n\n" ++ back

theorem joinBlocks_append (front back : List String) :
    joinBlocks (front ++ back) = spaced (joinBlocks front) (joinBlocks back) := by
  simp only [spaced, joinBlocks_eq_empty_iff]
  simp only [joinBlocks_eq_intercalate, keptBlocks_append]
  split_ifs with front_eq back_eq
  · rw [front_eq, List.nil_append]
  · rw [back_eq, List.append_nil]
  · exact String.intercalate_append_of_ne_nil front_eq back_eq

theorem joinBlocks_joinBlocks_cons (front back : List String) :
    joinBlocks (joinBlocks front :: back) = joinBlocks (front ++ back) := by
  rw [← List.singleton_append, joinBlocks_append, joinBlocks_append, joinBlocks_singleton,
    stripLineEnds_joinBlocks]

/-- Blocks can be joined group by group. -/
theorem joinBlocks_map_joinBlocks (groups : List (List String)) :
    joinBlocks (groups.map joinBlocks) = joinBlocks groups.flatten := by
  induction groups with
  | nil => rfl
  | cons group rest ih =>
      rw [List.map_cons, joinBlocks_joinBlocks_cons, joinBlocks_append, ih, List.flatten_cons,
        joinBlocks_append]

theorem joinBlocks_cons_map_joinBlocks {α : Type} (first : String) (blocks : α → List String)
    (parts : List α) :
    joinBlocks (joinBlocks [first] :: parts.map fun part => joinBlocks (blocks part)) =
      joinBlocks (first :: parts.flatMap blocks) := by
  have groups_eq := joinBlocks_map_joinBlocks ([first] :: parts.map blocks)
  rw [List.map_cons, List.map_map, List.flatten_cons] at groups_eq
  rwa [List.flatMap_def]

end Text
end DataLayer

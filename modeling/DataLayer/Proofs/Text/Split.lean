import DataLayer.Text.Lines
import Mathlib.Data.List.Basic

/-!
# Parts of a text

A text and its parts between the occurrences of a character determine each other: the parts are free
of that character, and putting it between them gives the text back.
-/

namespace DataLayer
namespace Text

theorem splitChars_eq_splitOn (separator : Char) (text : List Char) :
    splitChars separator text = text.splitOn separator := by
  induction text with
  | nil => rfl
  | cons c rest ih =>
      rw [splitChars, List.splitOn_cons_eq_if_modifyHead, ih]
      by_cases same : c = separator
      · simp [same]
      · obtain ⟨part, parts, parts_eq⟩ :=
          List.exists_cons_of_ne_nil (List.splitOn_ne_nil separator rest)
        simp [same, parts_eq]

theorem notMem_of_mem_splitChars (separator : Char) (text : List Char) :
    ∀ part ∈ splitChars separator text, separator ∉ part := by
  induction text with
  | nil => simp [splitChars]
  | cons c rest ih =>
      obtain ⟨first, others, parts_eq⟩ :=
        List.exists_cons_of_ne_nil (splitChars_ne_nil separator rest)
      rw [parts_eq, List.forall_mem_cons] at ih
      by_cases same : c = separator
      · rw [splitChars, if_pos same, parts_eq, List.forall_mem_cons, List.forall_mem_cons]
        exact ⟨List.not_mem_nil, ih⟩
      · simp only [splitChars, if_neg same, parts_eq, List.forall_mem_cons]
        exact ⟨List.not_mem_cons_of_ne_of_not_mem (Ne.symm same) ih.1, ih.2⟩

theorem notMem_of_mem_splitAtChar {separator : Char} {text part : String}
    (member : part ∈ splitAtChar separator text) : separator ∉ part.toList := by
  obtain ⟨chars, chars_mem, rfl⟩ := List.mem_map.mp member
  rw [String.toList_ofList]
  exact notMem_of_mem_splitChars separator text.toList chars chars_mem

theorem mem_splitChars_of_mem {separator c : Char} {text : List Char} (member : c ∈ text) :
    c = separator ∨ ∃ part ∈ splitChars separator text, c ∈ part := by
  induction text with
  | nil => simp at member
  | cons first rest ih =>
      obtain ⟨part, parts, parts_eq⟩ :=
        List.exists_cons_of_ne_nil (splitChars_ne_nil separator rest)
      rw [parts_eq, List.exists_mem_cons_iff] at ih
      rw [splitChars, parts_eq]
      rcases List.mem_cons.mp member with rfl | below
      · by_cases same : c = separator
        · exact .inl same
        · simp [if_neg same]
      · refine (ih below).imp_right fun found => ?_
        split_ifs
        · rw [List.exists_mem_cons_iff, List.exists_mem_cons_iff]
          exact .inr found
        · rw [List.exists_mem_cons_iff]
          exact found.imp_left (List.mem_cons_of_mem first)

theorem mem_splitAtChar_of_mem {separator c : Char} {text : String} (member : c ∈ text.toList) :
    c = separator ∨ ∃ part ∈ splitAtChar separator text, c ∈ part.toList := by
  refine (mem_splitChars_of_mem member).imp_right fun ⟨part, part_mem, inside⟩ => ?_
  exact ⟨String.ofList part, List.mem_map_of_mem part_mem, by rwa [String.toList_ofList]⟩

theorem length_splitChars_le (separator : Char) (text : List Char) :
    (splitChars separator text).length ≤ text.length + 1 := by
  induction text with
  | nil => simp [splitChars]
  | cons c rest ih =>
      obtain ⟨part, parts, parts_eq⟩ :=
        List.exists_cons_of_ne_nil (splitChars_ne_nil separator rest)
      rw [parts_eq] at ih
      rw [splitChars, parts_eq]
      split_ifs <;> simp at ih ⊢ <;> omega

theorem splitAtChar_ne_nil (separator : Char) (text : String) :
    splitAtChar separator text ≠ [] := by
  simp [splitAtChar, splitChars_ne_nil]

theorem intercalate_splitAtChar (separator : Char) (text : String) :
    (String.singleton separator).intercalate (splitAtChar separator text) = text := by
  apply String.toList_injective
  rw [String.toList_intercalate, splitAtChar, List.map_map, splitChars_eq_splitOn]
  have parts_eq : (text.toList.splitOn separator).map (String.toList ∘ String.ofList) =
      text.toList.splitOn separator := by
    simp [Function.comp_def]
  rw [parts_eq, String.toList_singleton]
  exact List.intercalate_splitOn separator

/-- Separators between texts without separators make a text with these parts. -/
theorem splitAtChar_intercalate {separator : Char} {parts : List String} (nonempty : parts ≠ [])
    (apart : ∀ part ∈ parts, separator ∉ part.toList) :
    splitAtChar separator ((String.singleton separator).intercalate parts) = parts := by
  have chars_apart : ∀ part ∈ parts.map String.toList, separator ∉ part := by
    simpa using apart
  have split_eq := List.splitOn_intercalate separator chars_apart (by simpa using nonempty)
  rw [splitAtChar, String.toList_intercalate, splitChars_eq_splitOn, String.toList_singleton,
    split_eq, List.map_map]
  simp [Function.comp_def]

theorem splitAtChar_eq_iff (separator : Char) (text : String) (parts : List String) :
    splitAtChar separator text = parts ↔
      parts ≠ [] ∧ (∀ part ∈ parts, separator ∉ part.toList) ∧
        text = (String.singleton separator).intercalate parts := by
  constructor
  · rintro rfl
    exact ⟨splitAtChar_ne_nil separator text, fun _ => notMem_of_mem_splitAtChar,
      (intercalate_splitAtChar separator text).symm⟩
  · rintro ⟨nonempty, apart, rfl⟩
    exact splitAtChar_intercalate nonempty apart

/-- A separator between two texts is one between their parts. -/
theorem splitAtChar_append (separator : Char) (front back : String) :
    splitAtChar separator (front ++ String.singleton separator ++ back) =
      splitAtChar separator front ++ splitAtChar separator back := by
  have joined : (front ++ String.singleton separator ++ back).toList =
      front.toList ++ separator :: back.toList := by simp
  rw [splitAtChar, joined, splitChars_eq_splitOn, List.splitOn_append_cons_self, List.map_append]
  simp only [splitAtChar, splitChars_eq_splitOn]

theorem splitAtChar_of_notMem {separator : Char} {text : String}
    (absent : separator ∉ text.toList) :
    splitAtChar separator text = [text] := by
  rw [splitAtChar, splitChars_eq_splitOn, List.splitOn_eq_singleton absent]
  simp

end Text
end DataLayer

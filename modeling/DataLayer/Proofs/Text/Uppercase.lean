import DataLayer.Text.Uppercase
import Mathlib.Data.List.Basic

/-!
# Capitalised texts

The uppercase form of a character is the character itself, or it consists of capital ASCII letters
and characters outside ASCII.  So capitalising a text neither brings in nor takes away any ASCII
character that is not a letter.  And it begins with a character that is its own uppercase form, so a
capitalised text stays as it is when it is capitalised again.
-/

namespace DataLayer
namespace Text

/-- The code point is that of a capital ASCII letter or of a character outside ASCII. -/
def IsUppercaseCode (code : Nat) : Prop :=
  code.isValidChar ∧ (0x41 ≤ code ∧ code ≤ 0x5A ∨ 0x80 ≤ code)

instance (code : Nat) : Decidable (IsUppercaseCode code) :=
  inferInstanceAs (Decidable ((_ ∨ _) ∧ _))

/-- The code point is that of an ASCII character that is not a letter. -/
def IsCaselessCode (code : Nat) : Prop :=
  code < 0x80 ∧ ¬ (0x41 ≤ code ∧ code ≤ 0x5A) ∧ ¬ (0x61 ≤ code ∧ code ≤ 0x7A)

instance (code : Nat) : Decidable (IsCaselessCode code) :=
  inferInstanceAs (Decidable (_ ∧ _))

/-- Letters outside ASCII are mapped onto several characters. -/
theorem shape_of_mem_caseExpansions :
    ∀ expansion ∈ caseExpansions, 0x80 ≤ expansion.1 ∧ expansion.2 ≠ [] ∧
      ∀ code ∈ expansion.2, IsUppercaseCode code := by
  decide +kernel

/-- A run has the lowercase ASCII letters or lies outside ASCII.  The row that it is mapped onto
lies in the capital ASCII letters, or outside ASCII and on one side of the surrogates. -/
theorem shape_of_mem_caseRuns :
    ∀ run ∈ caseRuns, (run.first = 0x61 ∧ run.last = 0x7A ∨ 0x80 ≤ run.first) ∧
      (0x41 ≤ run.target ∧ run.target + (run.last - run.first) ≤ 0x5A ∨
        0x80 ≤ run.target ∧ run.target + (run.last - run.first) < 0xD800 ∨
        0xE000 ≤ run.target ∧ run.target + (run.last - run.first) < 0x110000) := by
  decide +kernel

theorem CaseRun.covers_eq_true_iff (run : CaseRun) (code : Nat) :
    run.covers code = true ↔
      run.first ≤ code ∧ code ≤ run.last ∧ (code - run.first) % run.step = 0 := by
  simp only [covers, Bool.and_eq_true, decide_eq_true_eq, beq_iff_eq, and_assoc]

theorem CaseRun.isUppercaseCode_shift {run : CaseRun} (member : run ∈ caseRuns) {code : Nat}
    (covered : run.covers code) : IsUppercaseCode (run.shift code) := by
  have row := (shape_of_mem_caseRuns run member).2
  obtain ⟨from_first, to_last, -⟩ := (run.covers_eq_true_iff code).mp covered
  simp only [IsUppercaseCode, Nat.isValidChar, shift]
  omega

/-- The uppercase form of a code point stands in one of the tables, or is the code point. -/
theorem upperCodes_cases (code : Nat) :
    (code, upperCodes code) ∈ caseExpansions ∨
      (∃ run ∈ caseRuns, run.covers code = true ∧ upperCodes code = [run.shift code]) ∨
      upperCodes code = [code] := by
  unfold upperCodes
  cases expanded : caseExpansions.lookup code with
  | some codes =>
      obtain ⟨front, back, split, -⟩ := List.lookup_eq_some_iff.mp expanded
      exact .inl (by simp [split])
  | none =>
      cases found : caseRuns.find? (·.covers code) with
      | none => exact .inr (.inr rfl)
      | some run =>
          have covered : run.covers code = true := by simpa using List.find?_some found
          exact .inr (.inl ⟨run, List.mem_of_find?_eq_some found, covered, rfl⟩)

theorem upperCodes_eq_self_or (code : Nat) :
    upperCodes code = [code] ∨ ∀ upper ∈ upperCodes code, IsUppercaseCode upper := by
  rcases upperCodes_cases code with listed | ⟨run, member, covered, upper_eq⟩ | self
  · exact .inr (shape_of_mem_caseExpansions _ listed).2.2
  · rw [upper_eq]
    exact .inr (List.forall_mem_singleton.mpr (CaseRun.isUppercaseCode_shift member covered))
  · exact .inl self

theorem upperCodes_eq_self {code : Nat}
    (not_expanded : ∀ expansion ∈ caseExpansions, code ≠ expansion.1)
    (not_covered : ∀ run ∈ caseRuns, run.covers code = false) : upperCodes code = [code] := by
  have lookup_eq : caseExpansions.lookup code = none := by
    rw [List.lookup_eq_none_iff]
    exact fun expansion member => bne_iff_ne.mpr (not_expanded expansion member)
  have find_eq : caseRuns.find? (·.covers code) = none := by
    rw [List.find?_eq_none]
    intro run member
    rw [not_covered run member]
    exact Bool.false_ne_true
  rw [upperCodes, lookup_eq, find_eq]

/-- The keys of both tables are lowercase ASCII letters or lie outside ASCII. -/
theorem IsCaselessCode.upperCodes_eq {code : Nat} (caseless : IsCaselessCode code) :
    upperCodes code = [code] := by
  obtain ⟨ascii, -, not_lower⟩ := caseless
  refine upperCodes_eq_self (fun expansion member => ?_) fun run member => ?_
  · have beyond := (shape_of_mem_caseExpansions expansion member).1
    omega
  · have beyond := (shape_of_mem_caseRuns run member).1
    rw [← Bool.not_eq_true, CaseRun.covers_eq_true_iff]
    omega

theorem toNat_ofNat_of_mem_upperCodes {c : Char} {upper : Nat}
    (member : upper ∈ upperCodes c.toNat) : (Char.ofNat upper).toNat = upper := by
  rcases upperCodes_eq_self_or c.toNat with self | uppercase
  · rw [self, List.mem_singleton] at member
    rw [member, Char.ofNat_toNat]
  · rw [Char.ofNat, dif_pos (uppercase upper member).1]
    rfl

theorem mem_upperChar_iff {d : Char} (caseless : IsCaselessCode d.toNat) (c : Char) :
    d ∈ upperChar c ↔ d = c := by
  constructor
  · intro member
    obtain ⟨upper, upper_mem, rfl⟩ := List.mem_map.mp member
    rcases upperCodes_eq_self_or c.toNat with self | uppercase
    · rw [self, List.mem_singleton] at upper_mem
      rw [upper_mem, Char.ofNat_toNat]
    · have upper_range := (uppercase upper upper_mem).2
      simp only [IsCaselessCode, toNat_ofNat_of_mem_upperCodes upper_mem] at caseless
      omega
  · rintro rfl
    rw [upperChar, caseless.upperCodes_eq]
    simp

/-! ## Settled code points -/

/-- The code points of a run. -/
def CaseRun.codes (run : CaseRun) : List Nat :=
  List.range' run.first ((run.last - run.first) / run.step + 1) run.step

/-- The code points that the tables map. -/
def mappedCodes : List Nat :=
  caseRuns.flatMap CaseRun.codes ++ caseExpansions.map Prod.fst

/-- The code points that uppercase forms begin with, and those of blank characters. -/
def settledCodes : List Nat :=
  caseRuns.flatMap (fun run => run.codes.map run.shift) ++
    caseExpansions.filterMap (fun expansion => expansion.2.head?) ++ blankCodes

/-- The number whose binary digits mark the given code points. -/
def marks : List Nat → Nat
  | [] => 0
  | code :: rest => 1 <<< code ||| marks rest

theorem testBit_marks_iff (codes : List Nat) (code : Nat) :
    (marks codes).testBit code = true ↔ code ∈ codes := by
  induction codes with
  | nil => simp [marks]
  | cons first rest ih =>
      rw [marks, Nat.testBit_or, Bool.or_eq_true, ih, Nat.one_shiftLeft, Nat.testBit_two_pow,
        decide_eq_true_iff, List.mem_cons, eq_comm]

/-- Code points are in only one of two lists if no digit marks one of both. -/
theorem notMem_of_marks {codes others : List Nat} (apart : marks codes &&& marks others = 0)
    {code : Nat} (member : code ∈ codes) : code ∉ others := by
  intro other_member
  rw [← testBit_marks_iff] at member other_member
  have common : (marks codes &&& marks others).testBit code = true := by
    rw [Nat.testBit_and, member, other_member, Bool.and_self]
  simp [apart] at common

/-- Both lists have more than a thousand code points, so their marks are compared. -/
theorem notMem_mappedCodes {code : Nat} (settled : code ∈ settledCodes) : code ∉ mappedCodes :=
  notMem_of_marks (by decide +kernel) settled

theorem CaseRun.mem_codes_of_covers {run : CaseRun} {code : Nat}
    (covered : run.covers code = true) : code ∈ run.codes := by
  obtain ⟨from_first, to_last, on_step⟩ := (run.covers_eq_true_iff code).mp covered
  have distance := Nat.mul_div_cancel' (Nat.dvd_of_mod_eq_zero on_step)
  refine List.mem_range'.mpr ⟨(code - run.first) / run.step, ?_, by omega⟩
  exact Nat.lt_succ_of_le (Nat.div_le_div_right (Nat.sub_le_sub_right to_last run.first))

theorem upperCodes_of_mem_settledCodes {code : Nat} (settled : code ∈ settledCodes) :
    upperCodes code = [code] := by
  have unmapped := notMem_mappedCodes settled
  rw [mappedCodes, List.mem_append, not_or] at unmapped
  obtain ⟨in_no_run, not_expanded⟩ := unmapped
  refine upperCodes_eq_self (fun expansion member => ?_) fun run member => ?_
  · rintro rfl
    exact not_expanded (List.mem_map_of_mem member)
  · rw [← Bool.not_eq_true]
    intro covered
    exact in_no_run (List.mem_flatMap.mpr ⟨run, member, CaseRun.mem_codes_of_covers covered⟩)

/-- The letters of a run are mapped onto letters that stand in neither table. -/
theorem CaseRun.upperCodes_shift {run : CaseRun} (member : run ∈ caseRuns) {code : Nat}
    (covered : run.covers code = true) : upperCodes (run.shift code) = [run.shift code] := by
  refine upperCodes_of_mem_settledCodes ?_
  simp only [settledCodes, List.append_assoc, List.mem_append, List.mem_flatMap]
  exact .inl ⟨run, member, List.mem_map_of_mem (CaseRun.mem_codes_of_covers covered)⟩

theorem exists_head_of_mem_caseExpansions {expansion : Nat × List Nat}
    (member : expansion ∈ caseExpansions) :
    ∃ first others, expansion.2 = first :: others ∧ upperCodes first = [first] := by
  have nonempty := (shape_of_mem_caseExpansions expansion member).2.1
  obtain ⟨first, others, codes_eq⟩ := List.exists_cons_of_ne_nil nonempty
  refine ⟨first, others, codes_eq, upperCodes_of_mem_settledCodes ?_⟩
  simp only [settledCodes, List.append_assoc, List.mem_append, List.mem_filterMap]
  exact .inr (.inl ⟨expansion, member, by rw [codes_eq, List.head?_cons]⟩)

/-- A blank character is its own uppercase form. -/
theorem upperChar_of_isBlankChar {c : Char} (blank : isBlankChar c = true) : upperChar c = [c] := by
  have settled : c.toNat ∈ settledCodes :=
    List.mem_append_right _ (List.contains_iff_mem.mp blank)
  rw [upperChar, upperCodes_of_mem_settledCodes settled, List.map_singleton, Char.ofNat_toNat]

/-- Blank texts need no case of their own: they have no letter that could change. -/
theorem toList_upperFirst (text : String) :
    (upperFirst text).toList = capitalizeChars text.toList := by
  unfold upperFirst
  split_ifs with blank
  · cases text_eq : text.toList with
    | nil => rfl
    | cons c rest =>
        have first_blank : isBlankChar c = true := by
          rw [isBlank, text_eq, List.all_cons, Bool.and_eq_true] at blank
          exact blank.1
        rw [capitalizeChars, upperChar_of_isBlankChar first_blank, List.singleton_append]
  · rw [String.toList_ofList]

/-- Capitalising a text leaves every ASCII character that is not a letter where it was. -/
theorem mem_upperFirst_iff {d : Char} (caseless : IsCaselessCode d.toNat) (text : String) :
    d ∈ (upperFirst text).toList ↔ d ∈ text.toList := by
  rw [toList_upperFirst]
  cases text.toList with
  | nil => rfl
  | cons c rest => simp [capitalizeChars, mem_upperChar_iff caseless]

theorem exists_head_of_upperCodes (code : Nat) :
    ∃ first others, upperCodes code = first :: others ∧ upperCodes first = [first] := by
  rcases upperCodes_cases code with listed | ⟨run, member, covered, upper_eq⟩ | self
  · exact exists_head_of_mem_caseExpansions listed
  · exact ⟨run.shift code, [], upper_eq, CaseRun.upperCodes_shift member covered⟩
  · exact ⟨code, [], self, self⟩

theorem exists_head_of_upperChar (c : Char) :
    ∃ first others, upperChar c = first :: others ∧ upperChar first = [first] := by
  obtain ⟨first, others, codes_eq, first_eq⟩ := exists_head_of_upperCodes c.toNat
  have toNat_eq : (Char.ofNat first).toNat = first :=
    toNat_ofNat_of_mem_upperCodes (c := c) (by simp [codes_eq])
  refine ⟨Char.ofNat first, others.map Char.ofNat, ?_, ?_⟩
  · rw [upperChar, codes_eq, List.map_cons]
  · rw [upperChar, toNat_eq, first_eq, List.map_singleton]

/-- Characters behind an uppercase form do not change what capitalising makes of it. -/
theorem capitalizeChars_upperChar_append (c : Char) (rest : List Char) :
    capitalizeChars (upperChar c ++ rest) = upperChar c ++ rest := by
  obtain ⟨first, others, upper_eq, first_eq⟩ := exists_head_of_upperChar c
  rw [upper_eq, List.cons_append, capitalizeChars, first_eq, List.singleton_append]

theorem capitalizeChars_capitalizeChars (text : List Char) :
    capitalizeChars (capitalizeChars text) = capitalizeChars text := by
  cases text with
  | nil => rfl
  | cons c rest => exact capitalizeChars_upperChar_append c rest

theorem upperFirst_upperFirst (text : String) : upperFirst (upperFirst text) = upperFirst text := by
  apply String.toList_injective
  rw [toList_upperFirst, toList_upperFirst, capitalizeChars_capitalizeChars]

end Text
end DataLayer

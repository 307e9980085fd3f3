import DataLayer.Proofs.Text.LineForms

/-!
# Braces

Read from left to right, a text opens and closes braces.  What counts for texts that are put
together is that a part leaves the depth as it found it, at whatever depth it is put.  A part can be
at any depth just if it is balanced on its own.
-/

namespace DataLayer
namespace Text

/-- No brace is closed that was not opened before, and all are closed in the end. -/
structure IsBalanced (text : String) : Prop where
  /-- Wherever one stops reading, at most as many braces were closed as opened. -/
  opened : ∀ front, front <+: text.toList → front.count '\x7d' ≤ front.count '\x7b'
  /-- In the end as many were closed as opened. -/
  closed : text.toList.count '\x7d' = text.toList.count '\x7b'

/-- No character is a brace. -/
def IsBraceFree (text : String) : Prop :=
  ∀ c ∈ text.toList, c ≠ '\x7b' ∧ c ≠ '\x7d'

instance (text : String) : Decidable (IsBraceFree text) :=
  List.decidableBAll (fun c => c ≠ '\x7b' ∧ c ≠ '\x7d') text.toList

theorem ne_brace_of {p : Char → Bool} {c : Char} (holds : p c = true)
    (opening : p '\x7b' = false) (closing : p '\x7d' = false) : c ≠ '\x7b' ∧ c ≠ '\x7d' := by
  refine ⟨?_, ?_⟩
  · rintro rfl
    exact Bool.noConfusion (holds.symm.trans opening)
  · rintro rfl
    exact Bool.noConfusion (holds.symm.trans closing)

/-- The number of open braces behind a character; a brace can only be closed if one is open. -/
def nextDepth? (depth : Nat) (c : Char) : Option Nat :=
  if c = '\x7b' then some (depth + 1)
  else if c = '\x7d' then (if depth = 0 then none else some (depth - 1))
  else some depth

/-- The number of open braces behind a text, if none is closed that is not open. -/
def depthBehind? (depth : Nat) (text : List Char) : Option Nat :=
  text.foldlM nextDepth? depth

/-- The text leaves the number of open braces as it was, whatever it was. -/
def KeepsDepth (text : String) : Prop :=
  ∀ depth, depthBehind? depth text.toList = some depth

theorem depthBehind?_nil (depth : Nat) : depthBehind? depth [] = some depth := rfl

theorem depthBehind?_cons (depth : Nat) (c : Char) (rest : List Char) :
    depthBehind? depth (c :: rest) = (nextDepth? depth c).bind (depthBehind? · rest) :=
  List.foldlM_cons

theorem depthBehind?_append (depth : Nat) (front back : List Char) :
    depthBehind? depth (front ++ back) =
      (depthBehind? depth front).bind (depthBehind? · back) :=
  List.foldlM_append

theorem depthBehind?_of_braceFree {text : List Char} (free : ∀ c ∈ text, c ≠ '\x7b' ∧ c ≠ '\x7d')
    (depth : Nat) : depthBehind? depth text = some depth := by
  induction text with
  | nil => rfl
  | cons c rest ih =>
      obtain ⟨⟨no_opening, no_closing⟩, rest_free⟩ := List.forall_mem_cons.mp free
      rw [depthBehind?_cons, nextDepth?, if_neg no_opening, if_neg no_closing, Option.bind_some,
        ih rest_free]

theorem forall_prefix_cons_iff (c : Char) (rest : List Char) (property : List Char → Prop) :
    (∀ front, front <+: c :: rest → property front) ↔
      property [] ∧ ∀ front, front <+: rest → property (c :: front) := by
  constructor
  · intro all
    exact ⟨all [] List.nil_prefix, fun front starts =>
      all (c :: front) (List.cons_prefix_cons.mpr ⟨rfl, starts⟩)⟩
  · rintro ⟨empty, longer⟩ front starts
    rcases List.prefix_cons_iff.mp starts with rfl | ⟨back, rfl, back_starts⟩
    · exact empty
    · exact longer back back_starts

/-- The depth is the number of braces opened and not closed. -/
theorem depthBehind?_eq_some_iff (depth after : Nat) (text : List Char) :
    depthBehind? depth text = some after ↔
      (∀ front, front <+: text → front.count '\x7d' ≤ depth + front.count '\x7b') ∧
        depth + text.count '\x7b' = after + text.count '\x7d' := by
  induction text generalizing depth with
  | nil => simp [depthBehind?_nil]
  | cons c rest ih =>
      rw [depthBehind?_cons, nextDepth?]
      rw [forall_prefix_cons_iff]
      split_ifs with opening closing outermost
      · rw [Option.bind_some, ih, opening]
        simp only [List.count_cons_self, List.count_cons_of_ne (by decide : '\x7b' ≠ '\x7d')]
        grind
      · rw [closing, outermost]
        simp only [Option.bind_none, List.count_cons_self,
          List.count_cons_of_ne (by decide : '\x7d' ≠ '\x7b')]
        constructor
        · simp
        · rintro ⟨⟨-, bounded⟩, -⟩
          simpa using bounded [] List.nil_prefix
      · rw [Option.bind_some, ih, closing]
        simp only [List.count_cons_self, List.count_cons_of_ne (by decide : '\x7d' ≠ '\x7b')]
        grind
      · rw [Option.bind_some, ih]
        simp only [List.count_cons_of_ne opening, List.count_cons_of_ne closing]
        simp

/-- A text fits in at every depth just if it is balanced. -/
theorem keepsDepth_iff_isBalanced (text : String) : KeepsDepth text ↔ IsBalanced text := by
  constructor
  · intro keeps
    obtain ⟨opened, closed⟩ := (depthBehind?_eq_some_iff 0 0 text.toList).mp (keeps 0)
    refine ⟨fun front starts => ?_, ?_⟩
    · have bounded := opened front starts
      rwa [Nat.zero_add] at bounded
    · omega
  · intro balanced depth
    refine (depthBehind?_eq_some_iff depth depth text.toList).mpr ⟨fun front starts => ?_, ?_⟩
    · exact (balanced.opened front starts).trans (Nat.le_add_left _ depth)
    · rw [balanced.closed]

theorem keepsDepth_of_outermost {text : String} (outermost : depthBehind? 0 text.toList = some 0) :
    KeepsDepth text := by
  obtain ⟨opened, closed⟩ := (depthBehind?_eq_some_iff 0 0 text.toList).mp outermost
  refine (keepsDepth_iff_isBalanced text).mpr ⟨fun front starts => ?_, ?_⟩
  · have bounded := opened front starts
    rwa [Nat.zero_add] at bounded
  · omega

theorem IsBraceFree.keepsDepth {text : String} (free : IsBraceFree text) : KeepsDepth text :=
  depthBehind?_of_braceFree free

theorem IsBraceFree.append {front back : String} (front_free : IsBraceFree front)
    (back_free : IsBraceFree back) : IsBraceFree (front ++ back) := by
  intro c member
  rw [String.toList_append, List.mem_append] at member
  exact member.elim (front_free c) (back_free c)

theorem KeepsDepth.append {front back : String} (front_keeps : KeepsDepth front)
    (back_keeps : KeepsDepth back) : KeepsDepth (front ++ back) := by
  intro depth
  rw [String.toList_append, depthBehind?_append, front_keeps depth, Option.bind_some,
    back_keeps depth]

theorem KeepsDepth.intercalate {separator : String} (separator_keeps : KeepsDepth separator)
    {texts : List String} (keep : ∀ text ∈ texts, KeepsDepth text) :
    KeepsDepth (separator.intercalate texts) := by
  induction texts with
  | nil => exact keepsDepth_of_outermost rfl
  | cons text rest ih =>
      obtain ⟨text_keeps, rest_keep⟩ := List.forall_mem_cons.mp keep
      by_cases rest_eq : rest = []
      · rw [rest_eq, String.intercalate_singleton]
        exact text_keeps
      · rw [String.intercalate_cons_of_ne_nil rest_eq]
        exact (text_keeps.append separator_keeps).append (ih rest_keep)

theorem KeepsDepth.braced {body : String} (keeps : KeepsDepth body) :
    KeepsDepth ("\x7b" ++ body ++ "\x7d") := by
  intro depth
  have opened : depthBehind? depth "\x7b".toList = some (depth + 1) := rfl
  have closed : depthBehind? (depth + 1) "\x7d".toList = some depth := rfl
  rw [String.toList_append, String.toList_append, depthBehind?_append, depthBehind?_append, opened,
    Option.bind_some, keeps (depth + 1), Option.bind_some, closed]

theorem KeepsDepth.stripLineEnds {text : String} (keeps : KeepsDepth text) :
    KeepsDepth (stripLineEnds text) := by
  obtain ⟨ends, lineEnds, text_eq⟩ := exists_lineEnds text
  have ends_free : IsBraceFree ends := by
    intro c member
    rcases lineEnds c member with rfl | rfl
    · decide
    · decide
  intro depth
  have behind := keeps depth
  rw [text_eq, String.toList_append, depthBehind?_append] at behind
  simpa only [ends_free.keepsDepth _, Option.bind_fun_some] using behind

theorem KeepsDepth.joinBlocks {blocks : List String} (keep : ∀ block ∈ blocks, KeepsDepth block) :
    KeepsDepth (joinBlocks blocks) := by
  refine KeepsDepth.intercalate (IsBraceFree.keepsDepth (by decide)) fun text member => ?_
  obtain ⟨block, block_mem, rfl⟩ := List.mem_map.mp (List.mem_of_mem_filter member)
  exact (keep block block_mem).stripLineEnds

theorem KeepsDepth.ensureTrailingNewline {text : String} (keeps : KeepsDepth text) :
    KeepsDepth (ensureTrailingNewline text) :=
  keeps.stripLineEnds.append (IsBraceFree.keepsDepth (by decide))

theorem IsBraceFree.of_mem_lines {text line : String} (free : IsBraceFree text)
    (member : line ∈ lines text) : IsBraceFree line :=
  fun c c_mem => free c (mem_of_mem_lines member c_mem).1

end Text
end DataLayer

import DataLayer.Proofs.Text.Blocks
import Mathlib.Data.List.Forall2

/-!
# Line ends at the end of a text

Stripping splits a text into a part that ends in no line end and the line ends behind it.
Everything that blocks and files have to do with line ends follows from that split.
-/

namespace DataLayer
namespace Text

/-- The text has no characters but line feeds and carriage returns. -/
def IsLineEnds (text : String) : Prop :=
  ∀ c ∈ text.toList, c = '\n' ∨ c = '\r'

/-- The text does not end in a line feed or a carriage return. -/
def EndsOpen (text : String) : Prop :=
  ∀ c, text.toList.getLast? = some c → c ≠ '\n' ∧ c ≠ '\r'

/-- The text ends in a line feed, and in front of that stands neither a line feed nor a carriage
return. -/
def EndsInOneLineFeed (text : String) : Prop :=
  ∃ front, EndsOpen front ∧ text = front ++ "\n"

/-- The second text is the first one without the line ends behind it. -/
def StripsTo (text stripped : String) : Prop :=
  EndsOpen stripped ∧ ∃ ends, IsLineEnds ends ∧ text = stripped ++ ends

/-- The text is what blocks hold without the line ends behind them, with one blank line between
those that hold anything. -/
def IsJoined (blocks : List String) (text : String) : Prop :=
  ∃ parts, List.Forall₂ StripsTo blocks parts ∧ text = "\n\n".intercalate (parts.filter (· ≠ ""))

theorem isLineEnd_iff (c : Char) : isLineEnd c = true ↔ c = '\n' ∨ c = '\r' := by
  simp [isLineEnd]

theorem stripLineEnds_eq_empty_iff (text : String) : stripLineEnds text = "" ↔ IsLineEnds text := by
  rw [stripLineEnds, String.ofList_eq_empty_iff, dropLineEnds_eq_rdropWhile,
    List.rdropWhile_eq_nil_iff]
  simp only [isLineEnd_iff, IsLineEnds]

theorem stripLineEnds_eq_self_iff (text : String) : stripLineEnds text = text ↔ EndsOpen text := by
  rw [← String.toList_inj, stripLineEnds, String.toList_ofList, dropLineEnds_eq_rdropWhile,
    List.rdropWhile_eq_self_iff, EndsOpen]
  constructor
  · intro last c found
    obtain ⟨nonempty, rfl⟩ := List.mem_getLast?_eq_getLast (Option.mem_def.mpr found)
    simpa [isLineEnd_iff] using last nonempty
  · intro last nonempty
    simpa [isLineEnd_iff] using last _ (List.getLast?_eq_some_getLast nonempty)

theorem stripLineEnds_append_lineEnds (text : String) {ends : String} (lineEnds : IsLineEnds ends) :
    stripLineEnds (text ++ ends) = stripLineEnds text := by
  have all_dropped : ends.toList.reverse.dropWhile isLineEnd = [] := by
    simpa [isLineEnd_iff, IsLineEnds] using lineEnds
  simp only [stripLineEnds, dropLineEnds, String.toList_append, List.reverse_append,
    List.dropWhile_append, all_dropped, List.isEmpty_nil, if_true]

theorem exists_lineEnds (text : String) :
    ∃ ends, IsLineEnds ends ∧ text = stripLineEnds text ++ ends := by
  refine ⟨String.ofList (text.toList.rtakeWhile isLineEnd), ?_, ?_⟩
  · intro c member
    rw [String.toList_ofList] at member
    exact (isLineEnd_iff c).mp (List.mem_rtakeWhile_imp member)
  · apply String.toList_injective
    rw [stripLineEnds, String.toList_append, String.toList_ofList, String.toList_ofList,
      dropLineEnds_eq_rdropWhile, List.rdropWhile_append_rtakeWhile]

theorem endsOpen_stripLineEnds (text : String) : EndsOpen (stripLineEnds text) :=
  (stripLineEnds_eq_self_iff _).mp (stripLineEnds_stripLineEnds text)

theorem stripLineEnds_eq_iff (text stripped : String) :
    stripLineEnds text = stripped ↔ StripsTo text stripped := by
  constructor
  · rintro rfl
    exact ⟨endsOpen_stripLineEnds text, exists_lineEnds text⟩
  · rintro ⟨endsOpen, ends, lineEnds, rfl⟩
    rw [stripLineEnds_append_lineEnds stripped lineEnds]
    exact (stripLineEnds_eq_self_iff stripped).mpr endsOpen

theorem joinBlocks_eq_iff (blocks : List String) (text : String) :
    joinBlocks blocks = text ↔ IsJoined blocks text := by
  have stripped : List.Forall₂ StripsTo blocks (blocks.map stripLineEnds) := by
    rw [List.forall₂_map_right_iff, List.forall₂_same]
    exact fun block _ => (stripLineEnds_eq_iff block _).mp rfl
  constructor
  · rintro rfl
    exact ⟨_, stripped, rfl⟩
  · rintro ⟨parts, pairs, rfl⟩
    have parts_eq : blocks.map stripLineEnds = parts := by
      rw [← List.forall₂_eq_eq_eq, List.forall₂_map_left_iff]
      exact pairs.imp fun block part => (stripLineEnds_eq_iff block part).mpr
    rw [joinBlocks, parts_eq]

theorem isJoined_joinBlocks (blocks : List String) : IsJoined blocks (joinBlocks blocks) :=
  (joinBlocks_eq_iff blocks _).mp rfl

theorem endsOpen_joinBlocks (blocks : List String) : EndsOpen (joinBlocks blocks) :=
  (stripLineEnds_eq_self_iff _).mp (stripLineEnds_joinBlocks blocks)

/-- Nothing is left of blocks that hold nothing but line ends, and of no others. -/
theorem joinBlocks_eq_empty_iff_lineEnds (blocks : List String) :
    joinBlocks blocks = "" ↔ ∀ block ∈ blocks, IsLineEnds block := by
  rw [joinBlocks_eq_empty_iff, keptBlocks, List.filter_eq_nil_iff]
  simp [stripLineEnds_eq_empty_iff]

theorem joinBlocks_congr {blocks others : List String}
    (same : others.map stripLineEnds = blocks.map stripLineEnds) :
    joinBlocks others = joinBlocks blocks := by
  rw [joinBlocks, same, joinBlocks]

theorem joinBlocks_of_longer {blocks others : List String}
    (longer : List.Forall₂ (fun block other => ∃ ends, IsLineEnds ends ∧ other = block ++ ends)
      blocks others) : joinBlocks others = joinBlocks blocks := by
  apply joinBlocks_congr
  induction longer with
  | nil => rfl
  | cons pair _ ih =>
      obtain ⟨ends, lineEnds, rfl⟩ := pair
      rw [List.map_cons, List.map_cons, ih, stripLineEnds_append_lineEnds _ lineEnds]

theorem endsInOneLineFeed_ensureTrailingNewline (text : String) :
    EndsInOneLineFeed (ensureTrailingNewline text) :=
  ⟨stripLineEnds text, endsOpen_stripLineEnds text, rfl⟩

/-- Just the texts that end in one line feed stay as they are. -/
theorem ensureTrailingNewline_eq_self_iff (text : String) :
    ensureTrailingNewline text = text ↔ EndsInOneLineFeed text := by
  constructor
  · intro same
    rw [← same]
    exact endsInOneLineFeed_ensureTrailingNewline text
  · rintro ⟨front, endsOpen, rfl⟩
    have lineFeed : IsLineEnds "\n" := by simp [IsLineEnds]
    rw [ensureTrailingNewline, stripLineEnds_append_lineEnds front lineFeed,
      (stripLineEnds_eq_self_iff front).mpr endsOpen]

end Text
end DataLayer

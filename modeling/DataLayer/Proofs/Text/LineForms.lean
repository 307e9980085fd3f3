import DataLayer.Proofs.Text.LineEnds
import DataLayer.Proofs.Text.Lines
import DataLayer.Proofs.Text.Split

/-!
# The forms of lines

The lines of a text hold no line feeds, so a text that consists of lines with a line feed behind
each is read back as these lines.  A text may end its lines in another way and still have the same
ones.
-/

namespace DataLayer
namespace Text

/-- The characters of a line come from the text, and none of them is a line feed. -/
theorem mem_of_mem_lineList {text line : List Char} (member : line ∈ lineList text) :
    ∀ c ∈ line, c ∈ text ∧ c ≠ '\n' := by
  induction text generalizing line with
  | nil => simp [lineList] at member
  | cons d rest ih =>
      have of_rest (other : List Char) (below : other ∈ lineList rest) :
          ∀ c ∈ other, c ∈ d :: rest ∧ c ≠ '\n' := fun c c_mem =>
        (ih below c c_mem).imp_left (List.mem_cons_of_mem d)
      rw [lineList_cons] at member
      split_ifs at member with lineFeed pair
      · rcases List.mem_cons.mp member with rfl | below
        · simp
        · exact of_rest line below
      · exact of_rest line member
      · have in_front (back : List Char) (from_rest : ∀ c ∈ back, c ∈ d :: rest ∧ c ≠ '\n') :
            ∀ c ∈ [d] ++ back, c ∈ d :: rest ∧ c ≠ '\n' :=
          List.forall_mem_cons.mpr ⟨⟨List.mem_cons_self, lineFeed⟩, from_rest⟩
        cases lines_eq : lineList rest with
        | nil =>
            rw [lines_eq, putInFront, List.mem_singleton] at member
            rw [member]
            exact in_front [] (by simp)
        | cons first others =>
            rw [lines_eq] at of_rest member
            rcases List.mem_cons.mp member with rfl | below
            · exact in_front first (of_rest first List.mem_cons_self)
            · exact of_rest line (List.mem_cons_of_mem first below)

theorem mem_of_mem_lines {text line : String} (member : line ∈ lines text) {c : Char}
    (c_mem : c ∈ line.toList) : c ∈ text.toList ∧ c ≠ '\n' := by
  obtain ⟨chars, chars_mem, rfl⟩ := List.mem_map.mp member
  rw [String.toList_ofList] at c_mem
  exact mem_of_mem_lineList chars_mem c c_mem

theorem newline_notMem_of_mem_lines {text line : String} (member : line ∈ lines text) :
    '\n' ∉ line.toList :=
  fun newline_mem => (mem_of_mem_lines member newline_mem).2 rfl

theorem unlines_append (front back : List String) :
    unlines (front ++ back) = unlines front ++ unlines back := by
  rw [unlines, List.map_append, String.join_append, unlines, unlines]

theorem toList_unlines_cons (line : String) (below : List String) :
    (unlines (line :: below)).toList = line.toList ++ '\n' :: (unlines below).toList := by
  simp [unlines, String.join_cons]

theorem toList_unlines (texts : List String) :
    (unlines texts).toList = texts.flatMap fun line => line.toList ++ ['\n'] := by
  induction texts with
  | nil => rfl
  | cons line below ih => rw [toList_unlines_cons, ih, List.flatMap_cons]; simp

/-- Lines with a line feed behind each are found again at the line feeds. -/
theorem splitAtChar_unlines {texts : List String} (within : ∀ text ∈ texts, '\n' ∉ text.toList) :
    splitAtChar '\n' (unlines texts) = texts ++ [""] := by
  induction texts with
  | nil => exact splitAtChar_of_notMem List.not_mem_nil
  | cons text rest ih =>
      obtain ⟨text_within, rest_within⟩ := List.forall_mem_cons.mp within
      have unlines_eq : unlines (text :: rest) = text ++ "\n" ++ unlines rest := by
        rw [unlines, List.map_cons, String.join_cons, unlines]
      rw [unlines_eq]
      refine (splitAtChar_append '\n' text (unlines rest)).trans ?_
      rw [splitAtChar_of_notMem text_within, ih rest_within]
      rfl

/-- The text with a carriage return in front of each line feed. -/
def withReturns (text : String) : String :=
  String.ofList (text.toList.flatMap fun c => if c = '\n' then ['\r', '\n'] else [c])

/-- The second text is the first one with other line ends. -/
inductive IsReended : String → String → Prop where
  /-- The line ends stay. -/
  | same (text : String) : IsReended text text
  /-- Carriage returns come in front of the line feeds of a text that has none yet. -/
  | returns {text : String} (free : '\r' ∉ text.toList) : IsReended text (withReturns text)
  /-- A line feed comes behind the last line of a text, which had no line end. -/
  | closed {text : String} (nonempty : text ≠ "") (endsOpen : EndsOpen text) :
    IsReended text (text ++ "\n")

theorem lineList_withReturns {text : List Char} (free : '\r' ∉ text) :
    lineList (text.flatMap fun c => if c = '\n' then ['\r', '\n'] else [c]) = lineList text := by
  induction text with
  | nil => rfl
  | cons c rest ih =>
      rw [List.mem_cons, not_or] at free
      have rest_eq := ih free.2
      rw [List.flatMap_cons]
      by_cases lineFeed : c = '\n'
      · rw [if_pos lineFeed, lineFeed, List.cons_append, List.singleton_append, lineList, lineList,
          rest_eq]
      · have no_return : c ≠ '\r' := Ne.symm free.1
        rw [if_neg lineFeed, List.singleton_append, lineList_cons, lineList_cons, rest_eq]
        simp only [no_return, false_and, if_false]

theorem lineList_append_newline {text : List Char} (nonempty : text ≠ [])
    (endsOpen : ∀ c, text.getLast? = some c → c ≠ '\n' ∧ c ≠ '\r') :
    lineList (text ++ ['\n']) = lineList text := by
  induction text with
  | nil => exact absurd rfl nonempty
  | cons c rest ih =>
      cases rest with
      | nil =>
          obtain ⟨no_lineFeed, no_return⟩ := endsOpen c rfl
          simp [lineList_cons, no_lineFeed, no_return, putInFront, lineList]
      | cons d rest =>
          have rest_eq := ih (List.cons_ne_nil d rest) endsOpen
          rw [List.cons_append, lineList_cons, lineList_cons c (d :: rest), rest_eq,
            List.cons_append, List.head?_cons, List.head?_cons]

theorem IsReended.lines_eq {text other : String} (reended : IsReended text other) :
    lines other = lines text := by
  cases reended with
  | same => rfl
  | returns free =>
      rw [lines, withReturns, String.toList_ofList, lines, lineList_withReturns free]
  | closed nonempty endsOpen =>
      have chars_nonempty : text.toList ≠ [] := by simpa using nonempty
      rw [lines, String.toList_append, lines]
      exact congrArg _ (lineList_append_newline chars_nonempty endsOpen)

end Text

/-- Lines with their characters.  Set against its characters a line is known at once, whereas they
are slow to compute from it. -/
inductive SpelledLines : List String → List (List Char) → Prop where
  /-- There are no lines. -/
  | nil : SpelledLines [] []
  /-- The characters of the first line come first. -/
  | cons {lines : List String} {spelled : List (List Char)} (chars : List Char)
    (rest : SpelledLines lines spelled) :
    SpelledLines (String.ofList chars :: lines) (chars :: spelled)

theorem SpelledLines.toList_unlines {lines : List String} {spelled : List (List Char)}
    (spells : SpelledLines lines spelled) :
    (Text.unlines lines).toList = spelled.flatMap (· ++ ['\n']) := by
  rw [Text.toList_unlines]
  induction spells with
  | nil => rfl
  | cons chars _ ih => rw [List.flatMap_cons, List.flatMap_cons, ih, String.toList_ofList]

end DataLayer

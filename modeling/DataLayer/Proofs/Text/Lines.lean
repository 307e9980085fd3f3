import DataLayer.Proofs.Text.Blocks

/-!
# Lines of a text

A text without line ends belongs to one line.  In front of another text it is in front of its first
line, and the line ends at the end of that text are all that can be dropped.
-/

namespace DataLayer
namespace Text

/-- A text without line ends. -/
def IsWithinLine (text : List Char) : Prop :=
  ∀ c ∈ text, isLineEnd c = false

/-- A text put in front of the first of several lines; it is a line of its own if there are
none. -/
def putInFront (front : List Char) : List (List Char) → List (List Char)
  | [] => [front]
  | line :: others => (front ++ line) :: others

theorem putInFront_putInFront (front middle : List Char) (lines : List (List Char)) :
    putInFront front (putInFront middle lines) = putInFront (front ++ middle) lines := by
  cases lines with
  | nil => rfl
  | cons line others => simp [putInFront]

/-- A carriage return counts only where no line feed comes right behind it. -/
theorem lineList_cons (c : Char) (rest : List Char) :
    lineList (c :: rest) =
      if c = '\n' then [] :: lineList rest
      else if c = '\r' ∧ rest.head? = some '\n' then lineList rest
      else putInFront [c] (lineList rest) := by
  split_ifs with lineFeed pair
  · rw [lineFeed, lineList]
  · obtain ⟨rfl, followed⟩ := pair
    obtain ⟨behind, rfl⟩ := List.head?_eq_some_iff.mp followed
    rw [lineList, lineList]
  · have no_pair (behind : List Char) (return_eq : c = '\r') (rest_eq : rest = '\n' :: behind) :
        False := pair ⟨return_eq, by rw [rest_eq, List.head?_cons]⟩
    rw [lineList.eq_4 c rest lineFeed no_pair]
    cases lineList rest <;> rfl

theorem lineList_append_of_isWithinLine {front : List Char} (within : IsWithinLine front)
    (nonempty : front ≠ []) (rest : List Char) :
    lineList (front ++ rest) = putInFront front (lineList rest) := by
  induction front with
  | nil => exact absurd rfl nonempty
  | cons c front ih =>
      obtain ⟨not_end, within⟩ := List.forall_mem_cons.mp within
      have neither : ¬ c = '\n' ∧ ¬ c = '\r' := by
        simpa [isLineEnd] using not_end
      rw [List.cons_append, lineList_cons, if_neg neither.1, if_neg fun pair => neither.2 pair.1]
      cases front with
      | nil => rfl
      | cons d front =>
          rw [ih within (List.cons_ne_nil d front), putInFront_putInFront]
          rfl

theorem dropLineEnds_cons (c : Char) (rest : List Char) :
    dropLineEnds (c :: rest) =
      if dropLineEnds rest = [] ∧ isLineEnd c = true then [] else c :: dropLineEnds rest := by
  simp only [dropLineEnds, List.reverse_cons, List.dropWhile_append, List.reverse_eq_nil_iff,
    List.isEmpty_iff]
  by_cases dropped : rest.reverse.dropWhile isLineEnd = []
  · by_cases lineEnd : isLineEnd c = true <;> simp [dropped, lineEnd]
  · simp [dropped]

theorem dropLineEnds_append_of_isWithinLine {front : List Char} (within : IsWithinLine front)
    (rest : List Char) : dropLineEnds (front ++ rest) = front ++ dropLineEnds rest := by
  induction front with
  | nil => rfl
  | cons c front ih =>
      obtain ⟨not_end, within⟩ := List.forall_mem_cons.mp within
      rw [List.cons_append, dropLineEnds_cons, ih within, not_end]
      simp

end Text
end DataLayer

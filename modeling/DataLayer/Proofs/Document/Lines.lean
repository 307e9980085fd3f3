import DataLayer.Document.Reading
import DataLayer.Proofs.Text.LineForms

/-!
# Documents line by line

In a document that puts each statement on a line of its own, a line says the same whatever stands
below it.  The kinds of lines that a new manifest is made of are read here one by one, and from them
the whole text.
-/

namespace DataLayer
namespace Toml

/-- The text can stand between double quotes as it is, on one line. -/
def IsPlainText (text : List Char) : Prop :=
  '"' ∉ text ∧ '\\' ∉ text

/-- A text without quotes and escapes is read back as it stands, unless it holds a character that no
document may hold. -/
theorem basicBody_append {text : List Char} (plain : IsPlainText text) (rest : List Char) :
    basicBody 0 (text ++ '"' :: rest) =
      if text.any isForbidden then none else some (text, rest) := by
  induction text with
  | nil => simp [basicBody]
  | cons c text ih =>
      obtain ⟨noQuote, noEscape⟩ := plain
      rw [List.mem_cons, not_or] at noQuote noEscape
      rw [List.cons_append, basicBody, if_neg (Ne.symm noQuote.1), if_neg (Ne.symm noEscape.1),
        ih ⟨noQuote.2, noEscape.2⟩, List.any_cons]
      by_cases forbidden : isForbidden c = true
      · simp [forbidden]
      · by_cases later : text.any isForbidden = true <;> simp [forbidden, later, pushChar]

theorem literalBody_append {text : List Char} (noQuote : '\'' ∉ text)
    (allowed : ∀ c ∈ text, isForbidden c = false) (rest : List Char) :
    literalBody (text ++ '\'' :: rest) = some (text, rest) := by
  induction text with
  | nil => simp [literalBody]
  | cons c text ih =>
      rw [List.mem_cons, not_or] at noQuote
      rw [List.forall_mem_cons] at allowed
      rw [List.cons_append, literalBody, if_neg (Ne.symm noQuote.1), allowed.1,
        ih noQuote.2 allowed.2]
      rfl

/-- A text on one line is not taken for one over several lines. -/
theorem closesMultiline_append {quote : Char} {text : List Char} (noQuote : quote ∉ text)
    (apart : quote ≠ '\n') (rest : List Char) :
    closesMultiline quote (text ++ quote :: '\n' :: rest) = false := by
  cases text with
  | nil => simp [closesMultiline, List.isPrefixOf, apart]
  | cons c text =>
      have c_ne : quote ≠ c := fun same => noQuote (same ▸ List.mem_cons_self)
      simp [closesMultiline, List.isPrefixOf, c_ne]

/-- The text is a key without quotes. -/
def IsBareKey (key : List Char) : Prop :=
  key ≠ [] ∧ ∀ c ∈ key, isKeyChar c = true

instance (key : List Char) : Decidable (IsBareKey key) :=
  decidable_of_iff (key ≠ [] ∧ key.all isKeyChar = true) (and_congr_right fun _ => List.all_eq_true)

theorem IsBareKey.exists_cons {key : List Char} (bare : IsBareKey key) :
    ∃ first others, key = first :: others ∧ isKeyChar first = true := by
  obtain ⟨first, others, rfl⟩ := List.exists_cons_of_ne_nil bare.1
  exact ⟨first, others, rfl, bare.2 first List.mem_cons_self⟩

theorem simpleKey?_append {key : List Char} (bare : IsBareKey key) {next : Char}
    (stops : isKeyChar next = false) (rest : List Char) :
    simpleKey? (key ++ next :: rest) = some (String.ofList key, next :: rest) := by
  have taken : (key ++ next :: rest).takeWhile isKeyChar = key := by
    rw [List.takeWhile_append_of_pos bare.2, List.takeWhile_cons_of_neg (by simp [stops]),
      List.append_nil]
  have dropped : (key ++ next :: rest).dropWhile isKeyChar = next :: rest := by
    rw [List.dropWhile_append_of_pos bare.2, List.dropWhile_cons_of_neg (by simp [stops])]
  unfold simpleKey?
  obtain ⟨first, others, key_eq, first_key⟩ := bare.exists_cons
  split
  case h_1 body starts =>
    obtain rfl : first = '"' := by simpa [key_eq] using congrArg List.head? starts
    exact absurd first_key (by decide)
  case h_2 body starts =>
    obtain rfl : first = '\'' := by simpa [key_eq] using congrArg List.head? starts
    exact absurd first_key (by decide)
  case h_3 => simp [taken, dropped, bare.1]

/-- A key without quotes ends at the first character behind it that is no blank. -/
theorem readKey?_append {key : List Char} (bare : IsBareKey key) {next c : Char}
    (stops : isKeyChar next = false) (rest behind : List Char)
    (skipped : skipInline (next :: rest) = c :: behind) (undotted : c ≠ '.') :
    readKey? (key ++ next :: rest) = some (([], String.ofList key), c :: behind) := by
  rw [readKey?, key?, simpleKey?_append bare stops]
  simp only [skipped]
  split
  case h_1 dotted => exact absurd (List.cons.inj dotted).1 undotted
  case h_2 => rfl

/-- A line, given without its end, says a statement or nothing at all, whatever stands below. -/
def Says (line : List Char) (said : Option Statement) : Prop :=
  ∀ fuel rest, statements? (fuel + said.toList.length) (line ++ '\n' :: rest) =
    (statements? fuel rest).map (said.toList ++ ·)

theorem statements?_congr {text other : List Char}
    (same : skipLines false text = skipLines false other) (fuel : Nat) :
    statements? fuel text = statements? fuel other := by
  cases fuel with
  | zero => rfl
  | succ fuel => rw [statements?, statements?, same]

theorem says_nothing_of_skipLines {line : List Char}
    (skipped : ∀ rest, skipLines false (line ++ '\n' :: rest) = skipLines false rest) :
    Says line none := by
  intro fuel rest
  simpa using statements?_congr (skipped rest) fuel

theorem says_nothing_of_empty : Says [] none :=
  says_nothing_of_skipLines fun _ => rfl

theorem skipLines_comment {comment : List Char} (allowed : ∀ c ∈ comment, isForbidden c = false)
    (rest : List Char) :
    skipLines true (comment ++ '\n' :: rest) = skipLines false rest := by
  induction comment with
  | nil => rfl
  | cons c comment ih =>
      rw [List.forall_mem_cons] at allowed
      rw [List.cons_append, ← ih allowed.2]
      have notEnd : c ≠ '\n' := by
        rintro rfl
        exact absurd allowed.1 (by decide)
      have notReturn : c ≠ '\r' := by
        rintro rfl
        exact absurd allowed.1 (by decide)
      rw [skipLines]
      · simp [allowed.1]
      · exact notEnd
      · exact fun _ returned => absurd returned notReturn

theorem says_nothing_of_comment {comment : List Char}
    (allowed : ∀ c ∈ comment, isForbidden c = false) : Says ('#' :: comment) none :=
  says_nothing_of_skipLines fun rest => skipLines_comment allowed rest

/-- The text starts as a statement does: with a bracket or a key without quotes. -/
def StartsStatement (text : List Char) : Prop :=
  ∃ first others, text = first :: others ∧ (first = '[' ∨ isKeyChar first = true)

theorem StartsStatement.append {text : List Char} (starts : StartsStatement text)
    (rest : List Char) : StartsStatement (text ++ rest) := by
  obtain ⟨first, others, rfl, first_eq⟩ := starts
  exact ⟨first, others ++ rest, rfl, first_eq⟩

theorem skipLines_statement {text : List Char} (starts : StartsStatement text) :
    skipLines false text = some text := by
  obtain ⟨first, others, rfl, first_eq⟩ := starts
  have absent : ∀ other, other ≠ '[' → isKeyChar other = false → first ≠ other := by
    rintro other bracket noKey rfl
    rcases first_eq with rfl | isKey
    · exact bracket rfl
    · simp [noKey] at isKey
  have notBlank : isInlineBlank first = false := by
    simp [isInlineBlank, absent ' ' (by decide) (by decide), absent '\t' (by decide) (by decide)]
  rw [skipLines]
  · simp [notBlank, absent '#' (by decide) (by decide)]
  · exact absent '\n' (by decide) (by decide)
  · exact fun _ returned => absurd returned (absent '\r' (by decide) (by decide))

/-- A line that starts as a statement does says what the statement on it says, if nothing but a
comment stands behind it.  The document is broken if there is no statement. -/
theorem statements?_of_statement {line : List Char} (found : Option Statement)
    (starts : StartsStatement line) (fuel : Nat) {rest behind : List Char}
    (read : statement? (line ++ '\n' :: rest) = found.map (·, behind))
    (ends : atLineEnd behind = true) (below : skipLines false behind = skipLines false rest) :
    statements? (fuel + 1) (line ++ '\n' :: rest) =
      found.bind fun statement => (statements? fuel rest).map (statement :: ·) := by
  obtain ⟨first, others, text_eq, -⟩ := starts.append ('\n' :: rest)
  rw [statements?, skipLines_statement (starts.append _)]
  rw [text_eq] at read ⊢
  cases found with
  | none => simp [read]
  | some statement => simp [read, ends, statements?_congr below fuel]

theorem says_of_statement? {line : List Char} {said : Statement} (starts : StartsStatement line)
    (read : ∀ rest, ∃ behind, statement? (line ++ '\n' :: rest) = some (said, behind) ∧
      atLineEnd behind = true ∧ skipLines false behind = skipLines false rest) :
    Says line (some said) := by
  intro fuel rest
  obtain ⟨behind, statement_read, ends, below⟩ := read rest
  exact statements?_of_statement (some said) starts fuel statement_read ends below

theorem skipLines_lineEnd (rest : List Char) :
    skipLines false ('\n' :: rest) = skipLines false rest := by
  rw [skipLines]

theorem IsBareKey.startsStatement {key : List Char} (bare : IsBareKey key) :
    StartsStatement key := by
  obtain ⟨first, others, key_eq, first_key⟩ := bare.exists_cons
  exact ⟨first, others, key_eq, .inr first_key⟩

theorem IsBareKey.skipInline_append {key : List Char} (bare : IsBareKey key) (rest : List Char) :
    skipInline (key ++ rest) = key ++ rest := by
  obtain ⟨first, others, rfl, first_key⟩ := bare.exists_cons
  have notBlank : isInlineBlank first = false := by
    rw [← Bool.not_eq_true, isInlineBlank, Bool.or_eq_true, beq_iff_eq, beq_iff_eq]
    rintro (rfl | rfl) <;> exact absurd first_key (by decide)
  rw [List.cons_append, skipInline, List.dropWhile_cons_of_neg (by simp [notBlank])]

theorem IsBareKey.ne_bracket {key : List Char} (bare : IsBareKey key) {rest tail : List Char} :
    key ++ rest ≠ '[' :: tail := by
  obtain ⟨first, others, rfl, first_key⟩ := bare.exists_cons
  intro same
  obtain rfl : first = '[' := (List.cons.inj same).1
  exact absurd first_key (by decide)

theorem says_header {key : List Char} (bare : IsBareKey key) :
    Says ('[' :: (key ++ [']'])) (some (.header [] (String.ofList key))) := by
  refine says_of_statement? ⟨_, _, rfl, .inl rfl⟩ fun rest =>
    ⟨'\n' :: rest, ?_, rfl, skipLines_lineEnd rest⟩
  have key_read : readKey? (skipInline (key ++ ']' :: '\n' :: rest)) =
      some (([], String.ofList key), ']' :: '\n' :: rest) := by
    rw [bare.skipInline_append]
    exact readKey?_append bare rfl _ _ rfl (by decide)
  rw [List.cons_append, List.append_assoc, List.singleton_append]
  unfold statement?
  split
  case h_1 double => exact absurd (List.cons.inj double).2 bare.ne_bracket
  case h_2 single =>
    obtain rfl := (List.cons.inj single).2
    simp only [key_read]
  case h_3 noBracket => exact absurd rfl (noBracket _)

theorem statement?_assignment {key : List Char} (bare : IsBareKey key) (c : Char)
    (notBlank : isInlineBlank c = false) (written : List Char) :
    statement? (key ++ ' ' :: '=' :: ' ' :: c :: written) =
      (readValue? (c :: written)).map fun found =>
        (.assignment [] (String.ofList key) found.1, found.2) := by
  have key_read : readKey? (key ++ ' ' :: '=' :: ' ' :: c :: written) =
      some (([], String.ofList key), '=' :: ' ' :: c :: written) :=
    readKey?_append bare rfl _ _ rfl (by decide)
  have skipped : skipInline (' ' :: c :: written) = c :: written := by
    rw [skipInline, List.dropWhile_cons_of_pos rfl,
      List.dropWhile_cons_of_neg (by simp [notBlank])]
  unfold statement?
  split
  case h_1 double => exact absurd double bare.ne_bracket
  case h_2 single => exact absurd single bare.ne_bracket
  case h_3 => simp only [key_read, skipped]

theorem readValue?_text {text : List Char} (plain : IsPlainText text) (rest : List Char) :
    readValue? ('"' :: (text ++ '"' :: '\n' :: rest)) =
      if text.any isForbidden then none else some (.text (String.ofList text), '\n' :: rest) := by
  rw [readValue?, value?, quotedText?, closesMultiline_append plain.1 (by decide)]
  simp only [Bool.false_eq_true, if_false, basicBody_append plain]
  cases text.any isForbidden <;> rfl

theorem readValue?_literal {text : List Char} (noQuote : '\'' ∉ text)
    (allowed : ∀ c ∈ text, isForbidden c = false) (rest : List Char) :
    readValue? ('\'' :: (text ++ '\'' :: '\n' :: rest)) =
      some (.text (String.ofList text), '\n' :: rest) := by
  rw [readValue?, value?, quotedText?, closesMultiline_append noQuote (by decide)]
  simp only [Bool.false_eq_true, if_false, literalBody_append noQuote allowed]
  rfl

theorem readValue?_false (rest : List Char) :
    readValue? ('f' :: 'a' :: 'l' :: 's' :: 'e' :: '\n' :: rest) =
      some (.boolean false, '\n' :: rest) := rfl

/-! ## Lines as texts -/

/-- The line of a header. -/
def headerLine (key : String) : String :=
  "[" ++ key ++ "]"

/-- The line of a comment. -/
def commentLine (comment : String) : String :=
  "#" ++ comment

/-- The line that assigns a text between double quotes. -/
def textLine (key text : String) : String :=
  key ++ " = \"" ++ text ++ "\""

/-- The line that assigns a text between single quotes. -/
def literalLine (key text : String) : String :=
  key ++ " = '" ++ text ++ "'"

theorem says_commentLine {comment : String}
    (allowed : ∀ c ∈ comment.toList, isForbidden c = false) :
    Says (commentLine comment).toList none := by
  simpa [commentLine] using says_nothing_of_comment allowed

theorem says_headerLine {key : String} (bare : IsBareKey key.toList) :
    Says (headerLine key).toList (some (.header [] key)) := by
  simpa [headerLine] using says_header bare

/-- A text between double quotes is assigned as it stands.  The document is broken if the text holds
a character that must not be there. -/
theorem statements?_textLine {key text : String} (bare : IsBareKey key.toList)
    (plain : IsPlainText text.toList) (fuel : Nat) (rest : List Char) :
    statements? (fuel + 1) ((textLine key text).toList ++ '\n' :: rest) =
      if text.toList.any isForbidden then none
      else (statements? fuel rest).map (.assignment [] key (.text text) :: ·) := by
  have line_eq : (textLine key text).toList ++ '\n' :: rest =
      key.toList ++ ' ' :: '=' :: ' ' :: '"' :: (text.toList ++ '"' :: '\n' :: rest) := by
    simp [textLine]
  have read := statement?_assignment bare '"' rfl (text.toList ++ '"' :: '\n' :: rest)
  rw [readValue?_text plain, ← line_eq, String.ofList_toList, String.ofList_toList] at read
  have starts : StartsStatement (textLine key text).toList := by
    simpa [textLine, List.append_assoc] using bare.startsStatement.append _
  by_cases forbidden : text.toList.any isForbidden = true
  · rw [if_pos forbidden] at read ⊢
    exact statements?_of_statement none starts fuel read rfl (skipLines_lineEnd rest)
  · rw [if_neg forbidden] at read ⊢
    exact statements?_of_statement (some _) starts fuel read rfl (skipLines_lineEnd rest)

theorem says_textLine {key text : String} (bare : IsBareKey key.toList)
    (plain : IsPlainText text.toList) (allowed : ∀ c ∈ text.toList, isForbidden c = false) :
    Says (textLine key text).toList (some (.assignment [] key (.text text))) := by
  intro fuel rest
  have none_forbidden : ¬ text.toList.any isForbidden = true := by
    simpa [List.any_eq_true] using allowed
  exact (statements?_textLine bare plain fuel rest).trans (if_neg none_forbidden)

theorem says_literalLine {key text : String} (bare : IsBareKey key.toList)
    (noQuote : '\'' ∉ text.toList) (allowed : ∀ c ∈ text.toList, isForbidden c = false) :
    Says (literalLine key text).toList (some (.assignment [] key (.text text))) := by
  refine says_of_statement? ?_ fun rest => ⟨'\n' :: rest, ?_, rfl, skipLines_lineEnd rest⟩
  · simpa [literalLine, List.append_assoc] using bare.startsStatement.append _
  · have line_eq : (literalLine key text).toList ++ '\n' :: rest =
        key.toList ++ ' ' :: '=' :: ' ' :: '\'' :: (text.toList ++ '\'' :: '\n' :: rest) := by
      simp [literalLine]
    rw [line_eq, statement?_assignment bare _ rfl, readValue?_literal noQuote allowed]
    simp

/-- The line that assigns false. -/
def falseLine (key : String) : String :=
  key ++ " = false"

theorem says_falseLine {key : String} (bare : IsBareKey key.toList) :
    Says (falseLine key).toList (some (.assignment [] key (.boolean false))) := by
  refine says_of_statement? ?_ fun rest => ⟨'\n' :: rest, ?_, rfl, skipLines_lineEnd rest⟩
  · simpa [falseLine] using bare.startsStatement.append _
  · have line_eq : (falseLine key).toList ++ '\n' :: rest =
        key.toList ++ ' ' :: '=' :: ' ' :: 'f' :: 'a' :: 'l' :: 's' :: 'e' :: '\n' :: rest := by
      simp [falseLine]
    rw [line_eq, statement?_assignment bare _ rfl, readValue?_false]
    simp

/-- A document whose lines each say something of their own says it line by line. -/
theorem statements?_unlines (pairs : List (String × Option Statement))
    (each : ∀ entry ∈ pairs, Says entry.1.toList entry.2) (fuel : Nat) :
    statements? (fuel + 1 + (pairs.filterMap Prod.snd).length)
        (Text.unlines (pairs.map Prod.fst)).toList =
      some (pairs.filterMap Prod.snd) := by
  induction pairs with
  | nil => rfl
  | cons entry below ih =>
      obtain ⟨line, said⟩ := entry
      rw [List.forall_mem_cons] at each
      rw [List.map_cons, Text.toList_unlines_cons]
      have below_read := ih each.2
      have line_read := each.1 (fuel + 1 + (below.filterMap Prod.snd).length)
        (Text.unlines (below.map Prod.fst)).toList
      rw [below_read] at line_read
      cases said with
      | none => simpa using line_read
      | some statement => simpa [Nat.add_assoc] using line_read

theorem length_le_length_unlines (texts : List String) :
    texts.length ≤ (Text.unlines texts).toList.length := by
  induction texts with
  | nil => exact Nat.zero_le _
  | cons line below ih =>
      rw [Text.toList_unlines_cons, List.length_append, List.length_cons, List.length_cons]
      omega

theorem dropByteOrderMark_of_head? {text : List Char} (noMark : text.head? ≠ some '\uFEFF') :
    dropByteOrderMark text = text := by
  unfold dropByteOrderMark
  split
  · exact absurd rfl noMark
  · rfl

theorem document?_unlines (pairs : List (String × Option Statement))
    (each : ∀ entry ∈ pairs, Says entry.1.toList entry.2)
    (noMark : (Text.unlines (pairs.map Prod.fst)).toList.head? ≠ some '\uFEFF') :
    document? (Text.unlines (pairs.map Prod.fst)) =
      valueOfStatements? (pairs.filterMap Prod.snd) := by
  have said_le : (pairs.filterMap Prod.snd).length ≤
      (Text.unlines (pairs.map Prod.fst)).toList.length := by
    refine Nat.le_trans (List.length_filterMap_le _ _) ?_
    simpa using length_le_length_unlines (pairs.map Prod.fst)
  obtain ⟨fuel, length_eq⟩ := Nat.exists_eq_add_of_le' said_le
  have fuel_eq : (Text.unlines (pairs.map Prod.fst)).toList.length + 1 =
      fuel + 1 + (pairs.filterMap Prod.snd).length := by
    omega
  rw [document?, dropByteOrderMark_of_head? noMark]
  simp only [fuel_eq, statements?_unlines pairs each, Option.bind_some]

end Toml
end DataLayer

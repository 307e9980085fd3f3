import DataLayer.Proofs.Text.Span

/-!
# Bytes between quotes

The span of a value is found by looking at characters, but it counts bytes.  A byte below 128 is a
character of its own.  So the bytes of a quoted value stand among the bytes of a text exactly where
the quoted value stands in the text, and the leftmost bytes belong to the first occurrence.
-/

namespace DataLayer
namespace Text

/-- The bytes of a value stand at the span, with the byte of one quote character right before and
right behind it. -/
structure Span.IsQuoted (span : Span) (quote : Char) (source value : String) : Prop where
  /-- Something stands before the span. -/
  offset_pos : 0 < span.offset
  /-- The span ends before the text does. -/
  inside : span.offset + span.length < source.utf8ByteSize
  bytes_eq : span.bytes source = value.toUTF8
  /-- The byte right before the span. -/
  opening : source.toUTF8[span.offset - 1]? = some quote.toUInt8
  /-- The byte right behind the span. -/
  closing : source.toUTF8[span.offset + span.length]? = some quote.toUInt8

variable {source value : String} {quote : Char} {span : Span}

/-- A text can be split in front of a byte that is a character of its own. -/
theorem exists_split_of_ascii {start : Nat} {byte : UInt8} (ascii : byte &&& 128 = 0)
    (there : source.toUTF8[start]? = some byte) :
    ∃ front back : String, source = front ++ back ∧ front.utf8ByteSize = start := by
  obtain ⟨start_lt, rfl⟩ := getElem?_eq_some_iff.mp there
  have valid : (String.Pos.Raw.mk start).IsValid source :=
    String.Pos.Raw.isValid_iff_isUTF8FirstByte.mpr (.inr ⟨start_lt, .inl ascii⟩)
  obtain ⟨front, back, split, start_eq⟩ := String.Pos.Raw.isValid_iff_exists_append.mp valid
  exact ⟨front, back, split, (congrArg String.Pos.Raw.byteIdx start_eq).symm⟩

theorem exists_append_of_extract {front : String}
    (bytes_eq : source.toUTF8.extract 0 front.utf8ByteSize = front.toUTF8) :
    ∃ back, source = front ++ back := by
  have size_le : front.utf8ByteSize ≤ source.utf8ByteSize := by
    have sizes := congrArg ByteArray.size bytes_eq
    simp only [ByteArray.size_extract, String.toUTF8, String.size_toByteArray] at sizes
    omega
  have valid : (String.Pos.Raw.mk front.utf8ByteSize).IsValid source := by
    refine String.Pos.Raw.isValid_iff_isValidUTF8_extract_zero.mpr ⟨size_le, ?_⟩
    exact bytes_eq ▸ front.isValidUTF8
  obtain ⟨start, back, rfl, size_eq⟩ := String.Pos.Raw.isValid_iff_exists_append.mp valid
  have start_size : front.utf8ByteSize = start.toByteArray.size :=
    (congrArg String.Pos.Raw.byteIdx size_eq).trans String.size_toByteArray.symm
  have start_eq : start.toByteArray = front.toByteArray := by
    rw [String.toUTF8, String.toByteArray_append,
      ByteArray.extract_append_eq_left start_size] at bytes_eq
    exact bytes_eq
  exact ⟨back, by rw [String.toByteArray_inj.mp start_eq]⟩

theorem extract_of_getElem? {bytes : ByteArray} {i : Nat} {byte : UInt8}
    (there : bytes[i]? = some byte) : bytes.extract i (i + 1) = [byte].toByteArray := by
  obtain ⟨i_lt, rfl⟩ := getElem?_eq_some_iff.mp there
  exact ByteArray.extract_add_one i_lt

theorem toUTF8_singleton (isQuote : quote = '"' ∨ quote = '\'') :
    (String.singleton quote).toUTF8 = [quote.toUInt8].toByteArray := by
  rcases isQuote with rfl | rfl <;> rfl

theorem ascii_of_isQuote (isQuote : quote = '"' ∨ quote = '\'') : quote.toUInt8 &&& 128 = 0 := by
  rcases isQuote with rfl | rfl <;> rfl

theorem getElem?_behind (isQuote : quote = '"' ∨ quote = '\'') (front back : String) :
    (front ++ (String.singleton quote ++ back)).toUTF8[front.utf8ByteSize]? =
      some quote.toUInt8 := by
  have bytes_eq : (front ++ (String.singleton quote ++ back)).toUTF8 =
      front.toByteArray ++ ([quote.toUInt8].toByteArray ++ back.toByteArray) := by
    rw [← toUTF8_singleton isQuote]
    simp only [String.toUTF8, String.toByteArray_append]
  have size_eq : front.toByteArray.size = front.utf8ByteSize := String.size_toByteArray
  have inside : front.utf8ByteSize <
      (front.toByteArray ++ ([quote.toUInt8].toByteArray ++ back.toByteArray)).size := by
    rw [ByteArray.size_append, ByteArray.size_append, List.size_toByteArray, size_eq]
    exact Nat.lt_add_of_pos_right (Nat.add_pos_left (Nat.succ_pos _) _)
  rw [bytes_eq, getElem?_eq_some_iff]
  refine ⟨inside, ?_⟩
  rw [ByteArray.getElem_append_right (Nat.le_of_eq size_eq)]
  simp [size_eq]

theorem Span.IsQuoted.exists_stands (isQuote : quote = '"' ∨ quote = '\'')
    (quoted : span.IsQuoted quote source value) :
    ∃ before, before ++ inQuotes quote value <+: source.toList ∧
      ⟨byteLength before + 1, byteLength value.toList⟩ = span := by
  obtain ⟨offset_pos, inside, bytes_eq, opening, closing⟩ := quoted
  obtain ⟨offset, length⟩ := span
  obtain ⟨start, rfl⟩ := Nat.exists_eq_succ_of_ne_zero (Nat.ne_of_gt offset_pos)
  simp only [Span.bytes, Nat.succ_eq_add_one, Nat.add_sub_cancel]
    at inside bytes_eq opening closing
  -- The opening quote tells where the text can be split; from there on the bytes are added up.
  obtain ⟨front, rest, split, rfl⟩ := exists_split_of_ascii (ascii_of_isQuote isQuote) opening
  have length_eq : value.utf8ByteSize = length := by
    have sizes := congrArg ByteArray.size bytes_eq
    simp only [ByteArray.size_extract, String.toUTF8, String.size_toByteArray] at sizes
    omega
  let through := front ++ (String.singleton quote ++ (value ++ String.singleton quote))
  have through_size : through.utf8ByteSize = front.utf8ByteSize + 1 + length + 1 := by
    simp only [through, String.utf8ByteSize_append, String.utf8ByteSize_singleton,
      utf8Size_of_isQuote isQuote, length_eq]
    omega
  have front_eq : source.toUTF8.extract 0 front.utf8ByteSize = front.toUTF8 := by
    rw [split, String.toUTF8, String.toByteArray_append]
    exact ByteArray.extract_append_eq_left String.size_toByteArray.symm
  have through_eq : source.toUTF8.extract 0 through.utf8ByteSize = through.toUTF8 := by
    rw [through_size,
      ByteArray.extract_eq_extract_append_extract (front.utf8ByteSize + 1 + length)
        (Nat.zero_le _) (Nat.le_succ _),
      ByteArray.extract_eq_extract_append_extract (front.utf8ByteSize + 1)
        (Nat.zero_le _) (Nat.le_add_right _ _),
      ByteArray.extract_eq_extract_append_extract front.utf8ByteSize
        (Nat.zero_le _) (Nat.le_succ _),
      front_eq, extract_of_getElem? opening, bytes_eq, extract_of_getElem? closing,
      ← toUTF8_singleton isQuote]
    simp only [through, String.toUTF8, String.toByteArray_append, ByteArray.append_assoc]
  obtain ⟨back, source_eq⟩ := exists_append_of_extract through_eq
  refine ⟨front.toList, ⟨back.toList, ?_⟩, ?_⟩
  · rw [source_eq]
    simp [through, inQuotes]
  · rw [byteLength_toList, byteLength_toList, length_eq]

theorem Span.isQuoted_of_stands (isQuote : quote = '"' ∨ quote = '\'') {before : List Char}
    (stands : before ++ inQuotes quote value <+: source.toList) :
    Span.IsQuoted ⟨byteLength before + 1, byteLength value.toList⟩ quote source value := by
  have bytes_eq := bytes_of_stands isQuote stands
  have quote_size : quote.utf8Size = 1 := utf8Size_of_isQuote isQuote
  obtain ⟨after, split⟩ := stands
  let front := String.ofList before
  let back := String.ofList after
  have front_size : front.utf8ByteSize = byteLength before := (byteLength_eq_utf8ByteSize _).symm
  have source_eq : source =
      front ++ (String.singleton quote ++ (value ++ (String.singleton quote ++ back))) := by
    apply String.toList_injective
    simp [← split, inQuotes, front, back]
  have source_eq_behind : source =
      (front ++ String.singleton quote ++ value) ++ (String.singleton quote ++ back) := by
    simp only [source_eq, String.append_assoc]
  refine ⟨Nat.succ_pos _, ?_, bytes_eq, ?_, ?_⟩
  · rw [source_eq, byteLength_toList]
    simp only [String.utf8ByteSize_append, String.utf8ByteSize_singleton, quote_size, front_size]
    omega
  · rw [Nat.add_sub_cancel, source_eq, ← front_size]
    exact getElem?_behind isQuote front _
  · have closing := getElem?_behind isQuote (front ++ String.singleton quote ++ value) back
    rw [← source_eq_behind] at closing
    simpa only [String.utf8ByteSize_append, String.utf8ByteSize_singleton, quote_size, front_size,
      ← byteLength_toList value] using closing

/-- The bytes of a quoted value stand where the quoted value stands. -/
theorem Span.isQuoted_iff (isQuote : quote = '"' ∨ quote = '\'') (span : Span) :
    span.IsQuoted quote source value ↔
      ∃ before, before ++ inQuotes quote value <+: source.toList ∧
        ⟨byteLength before + 1, byteLength value.toList⟩ = span := by
  constructor
  · exact Span.IsQuoted.exists_stands isQuote
  · rintro ⟨before, stands, rfl⟩
    exact Span.isQuoted_of_stands isQuote stands

/-- The first occurrence is the one with the fewest bytes in front. -/
theorem isFirst_iff_byteLength (word text before : List Char) :
    IsFirst word text before ↔ before ++ word <+: text ∧
      ∀ earlier, earlier ++ word <+: text → byteLength before ≤ byteLength earlier := by
  have starts {front : List Char} (stands : front ++ word <+: text) : front <+: text :=
    (List.prefix_append front word).trans stands
  constructor
  · intro first
    refine ⟨first.stands, fun earlier stands => byteLength_le_of_prefix ?_⟩
    exact List.prefix_of_prefix_length_le (starts first.stands) (starts stands)
      (first.leftmost earlier stands)
  · rintro ⟨stands, fewest⟩
    refine ⟨stands, fun earlier earlier_stands => List.IsPrefix.length_le ?_⟩
    exact prefix_of_byteLength_le (starts stands) (starts earlier_stands)
      (fewest earlier earlier_stands)

/-- The span of the first occurrence is the leftmost one with quoted bytes. -/
theorem exists_isFirst_iff (isQuote : quote = '"' ∨ quote = '\'') (span : Span) :
    (∃ before, IsFirst (inQuotes quote value) source.toList before ∧
        ⟨byteLength before + 1, byteLength value.toList⟩ = span) ↔
      span.IsQuoted quote source value ∧
        ∀ other : Span, other.IsQuoted quote source value → span.offset ≤ other.offset := by
  simp only [isFirst_iff_byteLength, Span.isQuoted_iff isQuote]
  constructor
  · rintro ⟨before, ⟨stands, fewest⟩, rfl⟩
    refine ⟨⟨before, stands, rfl⟩, ?_⟩
    rintro _ ⟨earlier, earlier_stands, rfl⟩
    exact Nat.succ_le_succ (fewest earlier earlier_stands)
  · rintro ⟨⟨before, stands, rfl⟩, leftmost⟩
    refine ⟨before, ⟨stands, fun earlier earlier_stands => ?_⟩, rfl⟩
    exact Nat.le_of_succ_le_succ (leftmost _ ⟨earlier, earlier_stands, rfl⟩)

theorem isDecisive_iff (quote : Char) (source value : String) :
    IsDecisive quote source value ↔
      quote = '"' ∨ quote = '\'' ∧ ∀ other : Span, ¬ other.IsQuoted '"' source value := by
  have nowhere_iff : (∀ before, ¬ before ++ inQuotes '"' value <+: source.toList) ↔
      ∀ other : Span, ¬ other.IsQuoted '"' source value := by
    simp only [Span.isQuoted_iff (.inl rfl)]
    constructor
    · rintro nowhere _ ⟨before, stands, -⟩
      exact nowhere before stands
    · intro nowhere before stands
      exact nowhere _ ⟨before, stands, rfl⟩
  rw [IsDecisive, nowhere_iff]

theorem exists_valueSpan?_iff (source value : String) :
    (∃ span, valueSpan? source value = some span) ↔
      inQuotes '"' value <:+: source.toList ∨ inQuotes '\'' value <:+: source.toList := by
  simp only [valueSpan?_eq_some_iff]
  constructor
  · rintro ⟨-, quote, before, decisive, first, -⟩
    obtain ⟨after, split⟩ := first.stands
    have infix_there : inQuotes quote value <:+: source.toList := ⟨before, after, split⟩
    rcases decisive.isQuote with rfl | rfl
    · exact .inl infix_there
    · exact .inr infix_there
  · intro there
    by_cases double : ∃ before, before ++ inQuotes '"' value <+: source.toList
    · obtain ⟨before, stands⟩ := double
      obtain ⟨first, isFirst⟩ := exists_isFirst stands
      exact ⟨_, '"', first, .inl rfl, isFirst, rfl⟩
    · rw [not_exists] at double
      rcases there with ⟨before, after, split⟩ | ⟨before, after, split⟩
      · exact absurd ⟨after, split⟩ (double before)
      · have stands : before ++ inQuotes '\'' value <+: source.toList := ⟨after, split⟩
        obtain ⟨first, isFirst⟩ := exists_isFirst stands
        exact ⟨_, '\'', first, .inr ⟨rfl, double⟩, isFirst, rfl⟩

/-- A value has a span exactly if it stands between two double quotes or between two single quotes
somewhere in the text.  The span lies inside the text, holds the bytes of the value, and has the
byte of one quote character on either side.  No other such stretch lies further left, and the quote
character is the double quote unless the value never stands between double quotes. -/
theorem valueSpan?_leftmost_quoted (source value : String) :
    ((∃ span, valueSpan? source value = some span) ↔
      inQuotes '"' value <:+: source.toList ∨ inQuotes '\'' value <:+: source.toList) ∧
    ∀ span, valueSpan? source value = some span ↔
      ∃ quote, (quote = '"' ∨ quote = '\'' ∧ ∀ other : Span, ¬ other.IsQuoted '"' source value) ∧
        span.IsQuoted quote source value ∧
        ∀ other : Span, other.IsQuoted quote source value → span.offset ≤ other.offset := by
  refine ⟨exists_valueSpan?_iff source value, fun span => ?_⟩
  rw [valueSpan?_eq_some_iff]
  refine exists_congr fun quote => ?_
  rw [exists_and_left, ← isDecisive_iff]
  exact and_congr_right fun decisive => exists_isFirst_iff decisive.isQuote span

example : valueSpan? "é = 'ü' # ü" "ü" = some ⟨6, 2⟩ := by decide

end Text
end DataLayer

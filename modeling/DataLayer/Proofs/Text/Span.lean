import DataLayer.Text.Span
import Mathlib.Data.List.Infix

/-!
# First occurrences

Looking for a word finds its leftmost occurrence, if there is one.  A value is looked for between
double quotes, and only where it never stands between double quotes also between single ones.
-/

namespace DataLayer
namespace Text

/-- A word stands in a text right behind `before`, and nowhere further left. -/
structure IsFirst (word text before : List Char) : Prop where
  /-- The word stands there. -/
  stands : before ++ word <+: text
  /-- No other occurrence has less in front of it. -/
  leftmost : ∀ earlier, earlier ++ word <+: text → before.length ≤ earlier.length

theorem beforeFirst?_eq_some_iff (word text before : List Char) :
    beforeFirst? word text = some before ↔ IsFirst word text before := by
  induction text generalizing before with
  | nil =>
      have found_iff : beforeFirst? word [] = some before ↔ word = [] ∧ before = [] := by
        cases word <;> simp [beforeFirst?, eq_comm]
      rw [found_iff]
      constructor
      · rintro ⟨rfl, rfl⟩
        exact ⟨List.prefix_rfl, fun earlier _ => Nat.zero_le _⟩
      · intro first
        have nothing := List.append_eq_nil_iff.mp (List.prefix_nil.mp first.stands)
        exact ⟨nothing.2, nothing.1⟩
  | cons c rest ih =>
      by_cases starts : word <+: c :: rest
      · rw [beforeFirst?, if_pos (List.isPrefixOf_iff_prefix.mpr starts), Option.some.injEq]
        constructor
        · rintro rfl
          exact ⟨starts, fun earlier _ => Nat.zero_le _⟩
        · intro first
          exact (List.eq_nil_of_length_eq_zero (Nat.le_zero.mp (first.leftmost [] starts))).symm
      · rw [beforeFirst?, if_neg (mt List.isPrefixOf_iff_prefix.mp starts), Option.map_eq_some_iff]
        simp only [ih]
        constructor
        · rintro ⟨front, first, rfl⟩
          refine ⟨List.cons_prefix_cons.mpr ⟨rfl, first.stands⟩, fun earlier stands => ?_⟩
          cases earlier with
          | nil => exact absurd stands starts
          | cons d earlier =>
              have behind := first.leftmost earlier (List.cons_prefix_cons.mp stands).2
              exact Nat.succ_le_succ behind
        · intro first
          cases before with
          | nil => exact absurd first.stands starts
          | cons d front =>
              obtain ⟨rfl, stands⟩ := List.cons_prefix_cons.mp first.stands
              refine ⟨front, ⟨stands, fun earlier earlier_stands => ?_⟩, rfl⟩
              have behind := first.leftmost (d :: earlier)
                (List.cons_prefix_cons.mpr ⟨rfl, earlier_stands⟩)
              exact Nat.le_of_succ_le_succ behind

theorem beforeFirst?_eq_none_iff (word text : List Char) :
    beforeFirst? word text = none ↔ ∀ before, ¬ before ++ word <+: text := by
  induction text with
  | nil => cases word <;> simp [beforeFirst?]
  | cons c rest ih =>
      by_cases starts : word <+: c :: rest
      · rw [beforeFirst?, if_pos (List.isPrefixOf_iff_prefix.mpr starts)]
        exact iff_of_false (by simp) fun nowhere => nowhere [] starts
      · rw [beforeFirst?, if_neg (mt List.isPrefixOf_iff_prefix.mp starts), Option.map_eq_none_iff,
          ih]
        constructor
        · intro nowhere before stands
          cases before with
          | nil => exact starts stands
          | cons d before => exact nowhere before (List.cons_prefix_cons.mp stands).2
        · intro nowhere before stands
          exact nowhere (c :: before) (List.cons_prefix_cons.mpr ⟨rfl, stands⟩)

theorem exists_isFirst {word text before : List Char} (stands : before ++ word <+: text) :
    ∃ first, IsFirst word text first := by
  cases found : beforeFirst? word text with
  | none => exact absurd stands ((beforeFirst?_eq_none_iff word text).mp found before)
  | some first => exact ⟨first, (beforeFirst?_eq_some_iff word text first).mp found⟩

/-- A value between two copies of a quote character. -/
def inQuotes (quote : Char) (value : String) : List Char :=
  quote :: value.toList ++ [quote]

/-- The quote character between two copies of which a value is looked for: a double quote, unless
the value never stands between double quotes. -/
def IsDecisive (quote : Char) (source value : String) : Prop :=
  quote = '"' ∨ quote = '\'' ∧ ∀ before, ¬ before ++ inQuotes '"' value <+: source.toList

theorem IsDecisive.isQuote {quote : Char} {source value : String}
    (decisive : IsDecisive quote source value) : quote = '"' ∨ quote = '\'' :=
  decisive.imp_right And.left

theorem quotedSpan?_eq_some_iff (quote : Char) (source value : String) (span : Span) :
    quotedSpan? quote source.toList value.toList = some span ↔
      ∃ before, IsFirst (inQuotes quote value) source.toList before ∧
        ⟨byteLength before + 1, byteLength value.toList⟩ = span := by
  simp only [quotedSpan?, Option.map_eq_some_iff, beforeFirst?_eq_some_iff, inQuotes]

/-- The span of a value is that of its first occurrence between two copies of the decisive quote
character. -/
theorem valueSpan?_eq_some_iff (source value : String) (span : Span) :
    valueSpan? source value = some span ↔
      ∃ quote before, IsDecisive quote source value ∧
        IsFirst (inQuotes quote value) source.toList before ∧
        ⟨byteLength before + 1, byteLength value.toList⟩ = span := by
  rw [valueSpan?, Option.or_eq_some_iff, quotedSpan?_eq_some_iff, quotedSpan?_eq_some_iff]
  have none_iff : quotedSpan? '"' source.toList value.toList = none ↔
      ∀ before, ¬ before ++ inQuotes '"' value <+: source.toList := by
    rw [quotedSpan?, Option.map_eq_none_iff, beforeFirst?_eq_none_iff]
    rfl
  rw [none_iff]
  constructor
  · rintro (⟨before, first, span_eq⟩ | ⟨nowhere, before, first, span_eq⟩)
    · exact ⟨'"', before, .inl rfl, first, span_eq⟩
    · exact ⟨'\'', before, .inr ⟨rfl, nowhere⟩, first, span_eq⟩
  · rintro ⟨quote, before, rfl | ⟨rfl, nowhere⟩, first, span_eq⟩
    · exact .inl ⟨before, first, span_eq⟩
    · exact .inr ⟨nowhere, before, first, span_eq⟩

/-- The bytes of a text at a span. -/
def Span.bytes (source : String) (span : Span) : ByteArray :=
  source.toUTF8.extract span.offset (span.offset + span.length)

theorem byteLength_eq_utf8ByteSize (chars : List Char) :
    byteLength chars = (String.ofList chars).utf8ByteSize := by
  induction chars with
  | nil => rfl
  | cons c rest ih => simp [byteLength, ih]

theorem byteLength_toList (text : String) : byteLength text.toList = text.utf8ByteSize := by
  rw [byteLength_eq_utf8ByteSize, String.ofList_toList]

theorem byteLength_append (front back : List Char) :
    byteLength (front ++ back) = byteLength front + byteLength back := by
  induction front with
  | nil => simp [byteLength]
  | cons c front ih => simp [byteLength, ih, Nat.add_assoc]

/-- Of two starts of a text the one with fewer bytes is a start of the other one. -/
theorem prefix_of_byteLength_le {front other text : List Char} (starts : front <+: text)
    (otherStarts : other <+: text) (fewer : byteLength front ≤ byteLength other) :
    front <+: other := by
  rcases Nat.le_total front.length other.length with shorter | longer
  · exact List.prefix_of_prefix_length_le starts otherStarts shorter
  · obtain ⟨rest, rfl⟩ := List.prefix_of_prefix_length_le otherStarts starts longer
    rw [byteLength_append] at fewer
    cases rest with
    | nil => rw [List.append_nil]
    | cons c rest =>
        have some_byte := c.utf8Size_pos
        rw [byteLength] at fewer
        omega

theorem byteLength_le_of_prefix {front text : List Char} (starts : front <+: text) :
    byteLength front ≤ byteLength text := by
  obtain ⟨rest, rfl⟩ := starts
  rw [byteLength_append]
  exact Nat.le_add_right _ _

theorem extract_between (front value back : String) :
    (front ++ (value ++ back)).toUTF8.extract front.toUTF8.size
      (front.toUTF8.size + value.toUTF8.size) = value.toUTF8 := by
  simp only [String.toUTF8, String.toByteArray_append]
  have behind := @ByteArray.extract_append_size_add front.toByteArray
    (value.toByteArray ++ back.toByteArray) 0 value.toByteArray.size
  rw [Nat.add_zero] at behind
  rw [behind]
  apply ByteArray.extract_append_eq_left
  rfl

theorem utf8Size_of_isQuote {quote : Char} (isQuote : quote = '"' ∨ quote = '\'') :
    quote.utf8Size = 1 := by
  rcases isQuote with rfl | rfl <;> rfl

/-- Behind the opening quote stands the value. -/
theorem bytes_of_stands {source value : String} {quote : Char} {before : List Char}
    (isQuote : quote = '"' ∨ quote = '\'')
    (stands : before ++ inQuotes quote value <+: source.toList) :
    Span.bytes source ⟨byteLength before + 1, byteLength value.toList⟩ = value.toUTF8 := by
  obtain ⟨after, split⟩ := stands
  have source_eq : source = String.ofList (before ++ [quote]) ++ (value ++ String.ofList
      (quote :: after)) := by
    apply String.toList_injective
    simp [← split, inQuotes]
  have quote_size : quote.utf8Size = 1 := utf8Size_of_isQuote isQuote
  have offset_eq : byteLength before + 1 =
      (String.ofList (before ++ [quote])).toUTF8.size := by
    rw [String.toUTF8, String.size_toByteArray, ← byteLength_eq_utf8ByteSize, byteLength_append]
    simp [byteLength, quote_size]
  have length_eq : byteLength value.toList = value.toUTF8.size := by
    rw [byteLength_toList, String.toUTF8, String.size_toByteArray]
  rw [Span.bytes, offset_eq, length_eq, source_eq]
  exact extract_between _ _ _

theorem bytes_of_valueSpan? {source value : String} {span : Span}
    (found : valueSpan? source value = some span) : span.bytes source = value.toUTF8 := by
  obtain ⟨quote, before, decisive, first, rfl⟩ :=
    (valueSpan?_eq_some_iff source value span).mp found
  exact bytes_of_stands decisive.isQuote first.stands

end Text
end DataLayer

import DataLayer.Proofs.Manifest.FirstFault
import DataLayer.Proofs.Text.Span

/-!
# Where errors of a manifest point

An error about a setting points at a quoted copy of the setting's value: the first one between
double quotes, or else the first one between single quotes.  It need not stand in the section of the
setting.  It does so exactly when the section has such a copy and nothing in front of the section
has one.
-/

namespace DataLayer

/-- The text starts with a header: there are only blanks in front of an opening bracket. -/
def StartsHeader (text : List Char) : Prop :=
  (Toml.skipInline text).head? = some '['

instance (text : List Char) : Decidable (StartsHeader text) :=
  inferInstanceAs (Decidable (_ = _))

/-- The text starts with the header of a section. -/
def StartsHeaderOf (name : String) (text : List Char) : Prop :=
  '[' :: name.toList ++ [']'] <+: Toml.skipInline text

instance (name : String) (text : List Char) : Decidable (StartsHeaderOf name text) :=
  inferInstanceAs (Decidable (_ <+: _))

/-- The text consists of lines that are ended. -/
def HasEnded (text : String) : Prop :=
  text = "" ∨ ∃ front, text = front ++ "\n"

/-- A text is cut in front of and behind a section: the first part ends with the header line of the
section, the second one has no header line, and the third one starts with the next one. -/
structure IsSection (name source above inside below : String) : Prop where
  /-- The parts make up the text. -/
  parts : above ++ inside ++ below = source
  /-- The header of the section is the last line of the first part. -/
  header : ∃ front line, above = front ++ line ++ "\n" ∧ HasEnded front ∧ '\n' ∉ line.toList ∧
    StartsHeaderOf name line.toList
  /-- No line of the second part is a header. -/
  plain : ∀ line ∈ Text.splitAtChar '\n' inside, ¬ StartsHeader line.toList
  /-- Where there is a third part, its first line is a header. -/
  next : below = "" ∨ HasEnded inside ∧ StartsHeader below.toList

/-- The span lies behind one text and within the next one. -/
def Text.Span.LiesIn (span : Text.Span) (above inside : String) : Prop :=
  above.utf8ByteSize ≤ span.offset ∧ span.offset + span.length ≤ (above ++ inside).utf8ByteSize

instance (span : Text.Span) (above inside : String) : Decidable (span.LiesIn above inside) :=
  inferInstanceAs (Decidable (_ ∧ _))

/-- In front of the end of a text no copy of a value starts between two copies of a quote
character. -/
def NoneStartsIn (above source : String) (quote : Char) (value : String) : Prop :=
  ∀ before, before ++ Text.inQuotes quote value <+: source.toList →
    above.toList.length ≤ before.length

namespace IsSection

variable {name source above inside below value : String} {quote : Char} {before : List Char}

theorem ne_quote_of_startsHeader {text : List Char} (starts : StartsHeader text)
    (isQuote : quote = '"' ∨ quote = '\'') : text.head? ≠ some quote := by
  intro found
  obtain ⟨rest, rfl⟩ := List.head?_eq_some_iff.mp found
  rcases isQuote with rfl | rfl <;>
    simp [StartsHeader, Toml.skipInline, Toml.isInlineBlank] at starts

theorem parts_prefix (cut : IsSection name source above inside below) :
    above.toList ++ inside.toList <+: source.toList := by
  rw [← cut.parts, String.toList_append, String.toList_append]
  exact List.prefix_append _ _

theorem above_prefix (cut : IsSection name source above inside below) :
    above.toList <+: source.toList :=
  (List.prefix_append _ _).trans cut.parts_prefix

/-- A quote that opens not before the end of the first part opens behind it. -/
theorem above_prefix_of_opens (cut : IsSection name source above inside below)
    (isQuote : quote = '"' ∨ quote = '\'') (opens : before ++ [quote] <+: source.toList)
    (behind : Text.byteLength above.toList ≤ Text.byteLength before + 1) :
    above.toList <+: before := by
  have quote_size := Text.utf8Size_of_isQuote isQuote
  have reaches : above.toList <+: before ++ [quote] := by
    refine Text.prefix_of_byteLength_le cut.above_prefix opens ?_
    simpa [Text.byteLength_append, Text.byteLength, quote_size] using behind
  rcases List.prefix_concat_iff.mp reaches with same | within
  · obtain ⟨front, line, rfl, -⟩ := cut.header
    rw [String.toList_append] at same
    have last_eq := (List.append_inj' same rfl).2
    rcases isQuote with rfl | rfl <;> simp at last_eq
  · exact within

/-- A quote that closes within the second part, or right at its end, closes within it. -/
theorem closes_within (cut : IsSection name source above inside below)
    (isQuote : quote = '"' ∨ quote = '\'') (word : List Char)
    (closes : word ++ [quote] <+: source.toList)
    (ends : word <+: above.toList ++ inside.toList) :
    word ++ [quote] <+: above.toList ++ inside.toList := by
  rw [← cut.parts, String.toList_append, String.toList_append] at closes
  rcases Nat.lt_or_ge word.length (above.toList ++ inside.toList).length with shorter | longer
  · refine List.prefix_of_prefix_length_le closes (List.prefix_append _ _) ?_
    rw [List.length_append]
    exact shorter
  · obtain rfl := ends.eq_of_length_le longer
    have next_is_quote : below.toList.head? = some quote := by
      obtain ⟨rest, rest_eq⟩ := (List.prefix_append_right_inj _).mp closes
      rw [← rest_eq]
      rfl
    rcases cut.next with rfl | ⟨-, starts⟩
    · simp at next_is_quote
    · exact absurd next_is_quote (ne_quote_of_startsHeader starts isQuote)

/-- What is between two quotes lies in a section exactly if the quotes stand in it. -/
theorem liesIn_iff_of_stands (cut : IsSection name source above inside below)
    (isQuote : quote = '"' ∨ quote = '\'')
    (stands : before ++ Text.inQuotes quote value <+: source.toList) :
    Text.Span.LiesIn ⟨Text.byteLength before + 1, Text.byteLength value.toList⟩ above inside ↔
      above.toList <+: before ∧
        before ++ Text.inQuotes quote value <+: above.toList ++ inside.toList := by
  have quotes_eq : before ++ Text.inQuotes quote value =
      before ++ quote :: value.toList ++ [quote] := by
    simp [Text.inQuotes]
  have word_size : Text.byteLength (before ++ quote :: value.toList) =
      Text.byteLength before + 1 + Text.byteLength value.toList := by
    rw [Text.byteLength_append, Text.byteLength, Text.utf8Size_of_isQuote isQuote, Nat.add_assoc]
  rw [Text.Span.LiesIn, ← Text.byteLength_toList, ← Text.byteLength_toList, String.toList_append,
    ← word_size]
  rw [quotes_eq] at stands ⊢
  constructor
  · rintro ⟨behind, ends⟩
    have opens : before ++ [quote] <+: before ++ quote :: value.toList ++ [quote] := by simp
    have word_prefix :=
      Text.prefix_of_byteLength_le ((List.prefix_append _ _).trans stands) cut.parts_prefix ends
    exact ⟨cut.above_prefix_of_opens isQuote (opens.trans stands) behind,
      cut.closes_within isQuote _ stands word_prefix⟩
  · rintro ⟨behind, within⟩
    exact ⟨Nat.le_succ_of_le (Text.byteLength_le_of_prefix behind),
      Text.byteLength_le_of_prefix ((List.prefix_append _ _).trans within)⟩

/-- The span of a value lies in a section exactly if the section has a copy of the value between the
decisive quotes, and there is none in front of it. -/
theorem liesIn_iff (cut : IsSection name source above inside below) {span : Text.Span}
    (found : Text.valueSpan? source value = some span) :
    span.LiesIn above inside ↔
      ∃ quote, Text.IsDecisive quote source value ∧ NoneStartsIn above source quote value ∧
        Text.inQuotes quote value <:+: inside.toList := by
  constructor
  · intro lies
    obtain ⟨quote, before, decisive, first, rfl⟩ := (Text.valueSpan?_eq_some_iff _ _ _).mp found
    obtain ⟨⟨front, rfl⟩, within⟩ :=
      (cut.liesIn_iff_of_stands decisive.isQuote first.stands).mp lies
    refine ⟨quote, decisive, fun earlier earlier_stands => ?_, ?_⟩
    · have leftmost := first.leftmost earlier earlier_stands
      rw [List.length_append] at leftmost
      exact Nat.le_trans (Nat.le_add_right _ _) leftmost
    · rw [List.append_assoc, List.prefix_append_right_inj] at within
      exact List.infix_append_right.trans within.isInfix
  · rintro ⟨quote, decisive, none_before, front, rest, inside_eq⟩
    have copy : above.toList ++ front ++ Text.inQuotes quote value <+:
        above.toList ++ inside.toList := by
      rw [← inside_eq]
      simp [List.append_assoc]
    -- The span is that of the first copy, which stands between the end of the header and this one.
    obtain ⟨before, first⟩ := Text.exists_isFirst (copy.trans cut.parts_prefix)
    have span_eq := (Text.valueSpan?_eq_some_iff source value _).mpr
      ⟨quote, before, decisive, first, rfl⟩
    obtain rfl := Option.some.inj (found.symm.trans span_eq)
    refine (cut.liesIn_iff_of_stands decisive.isQuote first.stands).mpr ⟨?_, ?_⟩
    · exact List.prefix_of_prefix_length_le cut.above_prefix
        ((List.prefix_append _ _).trans first.stands) (none_before before first.stands)
    · refine List.prefix_of_prefix_length_le first.stands cut.parts_prefix ?_
      have leftmost := first.leftmost _ (copy.trans cut.parts_prefix)
      have copy_fits := copy.length_le
      rw [List.length_append] at copy_fits ⊢
      omega

end IsSection

/-! ## Spans of errors -/

namespace ManifestRule

/-- The section of the setting that the rule is about. -/
def sectionName : ManifestRule → String
  | rootNamespace | extension => "project"
  | contextName => "context"
  | modelsFolder | modelsNamespace => "models"
  | repositoriesFolder | repositoriesNamespace | foldersDiffer => "repositories"

/-- The setting that the rule is about. -/
def value (manifest : Manifest) : ManifestRule → String
  | rootNamespace => manifest.project.rootNamespace
  | extension => manifest.project.extension
  | contextName => manifest.context.name
  | modelsFolder => manifest.models.folder
  | modelsNamespace => manifest.models.groupNamespace
  | repositoriesFolder | foldersDiffer => manifest.repositories.folder
  | repositoriesNamespace => manifest.repositories.groupNamespace

variable {source file : String} {manifest : Manifest} {rule : ManifestRule} {error : ManifestError}

theorem span?_of_blamesPart {context whole part : String}
    (blamed : BlamesPart source file context whole part error) :
    error.span? = Text.valueSpan? source whole := by
  cases blamed <;> rfl

theorem span?_of_blamesName {context name : String}
    (blamed : BlamesName source file context name error) :
    error.span? = Text.valueSpan? source name := by
  obtain ⟨front, part, back, -, -, blamed⟩ := blamed
  exact span?_of_blamesPart blamed

theorem span?_of_blamesFolder {context folder : String}
    (blamed : BlamesFolder source file context folder error) :
    error.span? = Text.valueSpan? source folder := by
  obtain ⟨fault, -, rfl⟩ := blamed
  rfl

/-- An error points at the setting of the rule that it blames. -/
theorem span?_of_blames (blamed : rule.Blames source file manifest error) :
    error.span? = Text.valueSpan? source (rule.value manifest) := by
  cases rule with
  | rootNamespace => exact span?_of_blamesName blamed
  | extension =>
      obtain ⟨fault, -, rfl⟩ := blamed
      rfl
  | contextName => exact span?_of_blamesPart blamed
  | modelsFolder => exact span?_of_blamesFolder blamed
  | modelsNamespace => exact span?_of_blamesName blamed
  | repositoriesFolder => exact span?_of_blamesFolder blamed
  | repositoriesNamespace => exact span?_of_blamesName blamed
  | foldersDiffer =>
      obtain ⟨-, rfl⟩ := blamed
      rfl

end ManifestRule

namespace Manifest

theorem exists_blames_of_span? {source file : String} {error : ManifestError} {span : Text.Span}
    (failed : parse source file = .error error) (shown : error.span? = some span) :
    ∃ manifest rule, DocumentFormat.toml.read ofValue source = .ok manifest ∧
      ManifestRule.Blames source file manifest rule error := by
  rw [parse] at failed
  cases read : DocumentFormat.toml.read ofValue source with
  | error problem =>
      obtain rfl : .unparsable file problem = error := by simpa [read] using failed
      simp [ManifestError.span?] at shown
  | ok manifest =>
      simp only [read, Traversal.bind_eq_error_iff, check_eq_forM, Traversal.forM_eq_error_iff,
        ManifestRule.check_eq_error_iff, Traversal.pure_ne_error, and_false, exists_false,
        or_false] at failed
      obtain ⟨front, rule, back, -, -, blamed⟩ := failed
      exact ⟨manifest, rule, rfl, blamed⟩

/-- An error that points somewhere points at the text of the setting that it blames.  It points into
the section of the setting exactly if that section has a copy of the text between the decisive
quotes, and there is none in front of it. -/
theorem error_span_in_section_iff (source file : String) (error : ManifestError)
    (span : Text.Span) (failed : parse source file = .error error)
    (shown : error.span? = some span) :
    (∃ manifest rule, DocumentFormat.toml.read ofValue source = .ok manifest ∧
      ManifestRule.Blames source file manifest rule error) ∧
    ∀ (manifest : Manifest) (rule : ManifestRule), rule.Blames source file manifest error →
      span.bytes source = (rule.value manifest).toUTF8 ∧
        ∀ above inside below, IsSection rule.sectionName source above inside below →
          (span.LiesIn above inside ↔
            ∃ quote, Text.IsDecisive quote source (rule.value manifest) ∧
              NoneStartsIn above source quote (rule.value manifest) ∧
              Text.inQuotes quote (rule.value manifest) <:+: inside.toList) := by
  refine ⟨exists_blames_of_span? failed shown, fun manifest rule blamed => ?_⟩
  have found : Text.valueSpan? source (rule.value manifest) = some span :=
    (ManifestRule.span?_of_blames blamed).symm.trans shown
  exact ⟨Text.bytes_of_valueSpan? found, fun above inside below cut => cut.liesIn_iff found⟩

/-- The lines of a manifest down to the header of the data context. -/
def linesToContext (catalogPath : String) : String :=
  "[project]\nnamespace = \"Shop\"\n[catalog]\npath = \"" ++ catalogPath ++ "\"" ++ "\n" ++
    "[context]" ++ "\n"

/-- A manifest in which a reserved word names the data context. -/
def reservedContext (catalogPath : String) : String :=
  linesToContext catalogPath ++ "name = \"class\"\n"

theorem isSection_reservedContext (catalogPath : String) :
    IsSection "context" (reservedContext catalogPath) (linesToContext catalogPath)
      "name = \"class\"\n" "" where
  parts := String.append_empty
  header := ⟨_, "[context]", rfl, .inr ⟨_, rfl⟩, by decide, by decide⟩
  plain := by decide
  next := .inl rfl

/-- The value of such a manifest. -/
def reservedDocument (catalogPath : String) : Value :=
  .record [("project", .record [("namespace", .text "Shop")] true),
    ("catalog", .record [("path", .text catalogPath)] true),
    ("context", .record [("name", .text "class")] true)] true

theorem ofValue_reservedDocument (catalogPath : String) :
    ofValue .toml (reservedDocument catalogPath) =
      .ok {
        project := ⟨"Shop", false, "cs"⟩, catalog := ⟨catalogPath⟩, context := ⟨"class", none⟩ } :=
  ofValue_brief "Shop" catalogPath (some "class") none

/-- Where no other value is the reserved word, the error points into the section of the context. -/
theorem reserved_context_points_at_context :
    parse (reservedContext "schema.toml") "dalgen.toml" =
        .error (.reservedKeyword "dalgen.toml" (some ⟨78, 5⟩) "class" "context name in 'context'") ∧
      Text.Span.bytes (reservedContext "schema.toml") ⟨78, 5⟩ = "class".toUTF8 ∧
      Text.Span.LiesIn ⟨78, 5⟩ (linesToContext "schema.toml") "name = \"class\"\n" := by
  have failed : parse (reservedContext "schema.toml") "dalgen.toml" =
      .error
        (.reservedKeyword "dalgen.toml" (some ⟨78, 5⟩) "class" "context name in 'context'") := by
    have document_eq : Toml.document? (reservedContext "schema.toml") =
        some (reservedDocument "schema.toml") := by
      decide +kernel
    rw [parse_of_document document_eq (ofValue_reservedDocument _)]
    decide +kernel
  have span_eq : Text.valueSpan? (reservedContext "schema.toml") "class" = some ⟨78, 5⟩ := by
    decide +kernel
  have first : Text.IsFirst (Text.inQuotes '"' "class") (reservedContext "schema.toml").toList
      ((linesToContext "schema.toml").toList ++ "name = ".toList) :=
    (Text.beforeFirst?_eq_some_iff _ _ _).mp (by decide +kernel)
  have blamed : ManifestRule.Blames (reservedContext "schema.toml") "dalgen.toml"
      { project := ⟨"Shop", false, "cs"⟩, catalog := ⟨"schema.toml"⟩, context := ⟨"class", none⟩ }
      .contextName
      (.reservedKeyword "dalgen.toml" (some ⟨78, 5⟩) "class" "context name in 'context'") := by
    rw [← span_eq]
    exact .reserved (by decide)
  obtain ⟨bytes_eq, lies_iff⟩ :=
    (error_span_in_section_iff _ _ _ _ failed rfl).2 _ .contextName blamed
  refine ⟨failed, bytes_eq, (lies_iff _ _ _ (isSection_reservedContext "schema.toml")).mpr
    ⟨'"', .inl rfl, fun before stands => ?_, by decide⟩⟩
  have leftmost := first.leftmost before stands
  rw [List.length_append] at leftmost
  omega

/-- The name of the context is a reserved word, and so is the path of the catalog.  The error about
the first one points at the second one, in another section. -/
theorem reserved_context_points_at_catalog :
    parse (reservedContext "class") "dalgen.toml" =
        .error (.reservedKeyword "dalgen.toml" (some ⟨47, 5⟩) "class" "context name in 'context'") ∧
      (Text.splitAtChar '\n' (reservedContext "class")).filter
          (fun line => StartsHeader line.toList) = ["[project]", "[catalog]", "[context]"] ∧
      IsSection "context" (reservedContext "class") (linesToContext "class")
          "name = \"class\"\n" "" ∧
        ¬ Text.Span.LiesIn ⟨47, 5⟩ (linesToContext "class") "name = \"class\"\n" := by
  have document_eq :
      Toml.document? (reservedContext "class") = some (reservedDocument "class") := by
    decide +kernel
  have failed : parse (reservedContext "class") "dalgen.toml" =
      .error
        (.reservedKeyword "dalgen.toml" (some ⟨47, 5⟩) "class" "context name in 'context'") := by
    rw [parse_of_document document_eq (ofValue_reservedDocument _)]
    decide +kernel
  exact ⟨failed, by decide +kernel, isSection_reservedContext "class", by decide +kernel⟩

end Manifest
end DataLayer

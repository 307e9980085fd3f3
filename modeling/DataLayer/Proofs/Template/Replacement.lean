import Mathlib.Data.List.Basic

/-!
# Simultaneous replacement

A rule names words and the texts that take their place.  A cut of a text consists of single
characters and words of the rule, and every occurrence of a word in the text is one of its segments.
So a cut replaces all words at once: no replacement depends on another one, and inserted text is
never looked at.  A text has at most one cut, and it has one if words of the rule never overlap.
-/

namespace DataLayer

/-- Words that are to be replaced, each with the text that takes its place. -/
abbrev ReplacementRule := List Char → List Char → Prop

/-- A segment of a text in which words are replaced. -/
inductive Segment where
  /-- A character that stays. -/
  | kept (c : Char)
  /-- A word with the text that takes its place. -/
  | replaced (word text : List Char)
  deriving Repr, DecidableEq

namespace Segment

/-- What the segment was. -/
def source : Segment → List Char
  | kept c => [c]
  | replaced word _ => word

/-- What the segment becomes. -/
def target : Segment → List Char
  | kept c => [c]
  | replaced _ text => text

theorem sources_map_kept (run : List Char) : (run.map kept).flatMap source = run := by
  induction run with
  | nil => rfl
  | cons c run ih => simp [source, ih]

theorem targets_map_kept (run : List Char) : (run.map kept).flatMap target = run := by
  induction run with
  | nil => rfl
  | cons c run ih => simp [target, ih]

end Segment

open Segment

/-- The segments cut a text into words of a rule, wherever they stand, and single characters. -/
structure IsCut (rule : ReplacementRule) (text : List Char) (segments : List Segment) : Prop where
  /-- The segments make up the text. -/
  covers : segments.flatMap source = text
  /-- A segment is replaced only by the rule. -/
  lawful : ∀ word replacement, .replaced word replacement ∈ segments → rule word replacement
  /-- Every word of the rule that stands in the text is a segment in its place. -/
  complete : ∀ before word after replacement, rule word replacement →
    text = before ++ word ++ after →
      ∃ left right, segments = left ++ .replaced word replacement :: right ∧
        left.flatMap source = before

/-- The target is the source with all words of a rule replaced at once and all else left as it
is. -/
def ReplacesAll (rule : ReplacementRule) (source target : List Char) : Prop :=
  ∃ segments, IsCut rule source segments ∧ segments.flatMap Segment.target = target

namespace ReplacementRule

/-- Words of the rule are not empty and never overlap. -/
structure Separate (rule : ReplacementRule) : Prop where
  /-- No word is empty. -/
  nonempty : ∀ word text, rule word text → word ≠ []
  /-- A word that starts within another one is that word. -/
  apart : ∀ first firstText second secondText, rule first firstText → rule second secondText →
    ∀ rest before after, first ++ rest = before ++ second ++ after →
      before.length < first.length → before = [] ∧ second = first ∧ secondText = firstText

end ReplacementRule

/-- A word that starts behind a run of characters stands in what follows the run. -/
theorem split_behind {run rest before word after : List Char}
    (same : run ++ rest = before ++ word ++ after) (behind : run.length ≤ before.length) :
    ∃ front, before = run ++ front ∧ rest = front ++ word ++ after := by
  rw [List.append_assoc] at same
  obtain ⟨front, before_eq, rest_eq⟩ | ⟨front, run_eq, tail_eq⟩ := List.append_eq_append_iff.mp same
  · exact ⟨front, before_eq, by rw [rest_eq, List.append_assoc]⟩
  · have front_nil : front = [] := by
      have lengths := congrArg List.length run_eq
      rw [List.length_append] at lengths
      exact List.length_eq_zero_iff.mp (by omega)
    subst front_nil
    exact ⟨[], by simpa using run_eq.symm, by simpa using tail_eq.symm⟩

namespace IsCut

variable {rule : ReplacementRule} {text rest word replacement : List Char}
  {segments others : List Segment}

theorem nil (nonempty : ∀ word text, rule word text → word ≠ []) : IsCut rule [] [] where
  covers := rfl
  lawful := by simp
  complete := by
    intro before word after replacement holds same
    have word_nil : word = [] := by simp_all
    exact absurd word_nil (nonempty word replacement holds)

theorem append_kept (cut : IsCut rule rest segments) (run : List Char)
    (free : ∀ before word after replacement, rule word replacement →
      run ++ rest = before ++ word ++ after → run.length ≤ before.length) :
    IsCut rule (run ++ rest) (run.map .kept ++ segments) where
  covers := by rw [List.flatMap_append, sources_map_kept, cut.covers]
  lawful := by
    intro word replacement member
    rcases List.mem_append.mp member with inRun | inRest
    · simp at inRun
    · exact cut.lawful word replacement inRest
  complete := by
    intro before word after replacement holds same
    have behind := free before word after replacement holds same
    obtain ⟨front, rfl, rest_eq⟩ := split_behind same behind
    obtain ⟨left, right, rfl, left_eq⟩ := cut.complete front word after replacement holds rest_eq
    refine ⟨run.map .kept ++ left, right, by simp, ?_⟩
    rw [List.flatMap_append, sources_map_kept, left_eq]

theorem cons_kept (cut : IsCut rule rest segments) (c : Char)
    (free : ∀ word replacement, rule word replacement → ¬ word <+: c :: rest) :
    IsCut rule (c :: rest) (.kept c :: segments) := by
  refine cut.append_kept [c] ?_
  intro before word after replacement holds same
  cases before with
  | nil => exact absurd ⟨after, by simpa using same.symm⟩ (free word replacement holds)
  | cons _ before => simp

theorem cons_replaced (cut : IsCut rule rest segments) (separate : rule.Separate)
    (holds : rule word replacement) :
    IsCut rule (word ++ rest) (.replaced word replacement :: segments) where
  covers := by rw [List.flatMap_cons, cut.covers]; rfl
  lawful := by
    intro other text member
    rcases List.mem_cons.mp member with same | inRest
    · cases same
      exact holds
    · exact cut.lawful other text inRest
  complete := by
    intro before other after text otherHolds same
    by_cases inside : before.length < word.length
    · obtain ⟨rfl, rfl, rfl⟩ :=
        separate.apart _ _ _ _ holds otherHolds rest before after same inside
      exact ⟨[], segments, rfl, rfl⟩
    · obtain ⟨front, rfl, rest_eq⟩ := split_behind same (Nat.le_of_not_lt inside)
      obtain ⟨left, right, rfl, left_eq⟩ := cut.complete front other after text otherHolds rest_eq
      refine ⟨.replaced word replacement :: left, right, rfl, ?_⟩
      rw [List.flatMap_cons, left_eq]
      rfl

theorem source_ne_nil {segment : Segment} (nonempty : ∀ word text, rule word text → word ≠ [])
    (cut : IsCut rule text segments) (member : segment ∈ segments) : segment.source ≠ [] := by
  cases segment with
  | kept c => simp [source]
  | replaced word replacement =>
      exact nonempty word replacement (cut.lawful word replacement member)

theorem tail {first : Segment} (nonempty : ∀ word text, rule word text → word ≠ [])
    (cut : IsCut rule text (first :: segments)) :
    IsCut rule (segments.flatMap source) segments where
  covers := rfl
  lawful := fun word replacement member =>
    cut.lawful word replacement (List.mem_cons_of_mem first member)
  complete := by
    intro before word after replacement holds same
    have whole : text = (first.source ++ before) ++ word ++ after := by
      rw [← cut.covers, List.flatMap_cons, same]
      simp only [List.append_assoc]
    obtain ⟨left, right, split, left_eq⟩ := cut.complete _ word after replacement holds whole
    cases left with
    | nil =>
        have first_nil : first.source = [] := by simp_all
        exact absurd first_nil (cut.source_ne_nil nonempty List.mem_cons_self)
    | cons head left =>
        obtain ⟨rfl, rfl⟩ := List.cons.inj split
        rw [List.flatMap_cons] at left_eq
        exact ⟨left, right, rfl, List.append_cancel_left left_eq⟩

/-- Cuts are taken apart from the left.  No word starts where a character is kept. -/
theorem induction {motive : List Char → List Segment → Prop}
    (nonempty : ∀ word text, rule word text → word ≠ []) (nil : motive [] [])
    (kept : ∀ c rest segments, (∀ word text, rule word text → ¬ word <+: c :: rest) →
      IsCut rule rest segments → motive rest segments → motive (c :: rest) (.kept c :: segments))
    (replaced : ∀ word replacement rest segments, rule word replacement →
      IsCut rule rest segments → motive rest segments →
        motive (word ++ rest) (.replaced word replacement :: segments))
    (cut : IsCut rule text segments) : motive text segments := by
  induction segments generalizing text with
  | nil =>
      obtain rfl : [] = text := cut.covers
      exact nil
  | cons first segments ih =>
      have rest := cut.tail nonempty
      cases first with
      | kept c =>
          obtain rfl : c :: segments.flatMap source = text := cut.covers
          refine kept c _ segments ?_ rest (ih rest)
          intro word replacement holds starts
          obtain ⟨after, same⟩ := starts
          obtain ⟨left, right, split, left_eq⟩ :=
            cut.complete [] word after replacement holds same.symm
          cases left with
          | nil => simp at split
          | cons head left =>
              obtain ⟨rfl, rfl⟩ := List.cons.inj split
              simp [source] at left_eq
      | replaced word replacement =>
          obtain rfl : word ++ segments.flatMap source = text := cut.covers
          exact replaced word replacement _ segments
            (cut.lawful word replacement List.mem_cons_self) rest (ih rest)

/-- A text has at most one cut. -/
theorem unique (nonempty : ∀ word text, rule word text → word ≠ [])
    (cut : IsCut rule text segments) (other : IsCut rule text others) : segments = others := by
  refine cut.induction (motive := fun text segments => ∀ others, IsCut rule text others →
    segments = others) nonempty ?nil ?kept ?replaced others other
  case nil =>
    intro others other
    have covers := other.covers
    cases others with
    | nil => rfl
    | cons head tail =>
        rw [List.flatMap_cons] at covers
        have head_nil : head.source = [] := (List.append_eq_nil_iff.mp covers).1
        exact absurd head_nil (other.source_ne_nil nonempty List.mem_cons_self)
  case kept =>
    intro c rest segments free _ ih others other
    have covers := other.covers
    cases others with
    | nil => simp at covers
    | cons head tail =>
        have tailCut := other.tail nonempty
        cases head with
        | kept d =>
            obtain ⟨rfl, tail_eq⟩ : d = c ∧ tail.flatMap source = rest := List.cons.inj covers
            rw [tail_eq] at tailCut
            rw [ih tail tailCut]
        | replaced word replacement =>
            have holds := other.lawful word replacement List.mem_cons_self
            exact absurd ⟨_, covers⟩ (free word replacement holds)
  case replaced =>
    intro word replacement rest segments holds _ ih others other
    obtain ⟨left, right, rfl, left_eq⟩ := other.complete [] word rest replacement holds rfl
    cases left with
    | nil =>
        have covers := other.covers
        have tailCut := other.tail nonempty
        have tail_eq : right.flatMap source = rest := List.append_cancel_left covers
        rw [tail_eq] at tailCut
        rw [ih right tailCut]
        rfl
    | cons head left =>
        rw [List.flatMap_cons] at left_eq
        have head_nil : head.source = [] := (List.append_eq_nil_iff.mp left_eq).1
        exact absurd head_nil (other.source_ne_nil nonempty (by simp))

/-- Every text has a cut for a rule whose words never overlap. -/
theorem exists_of_separate (separate : rule.Separate) (text : List Char) :
    ∃ segments, IsCut rule text segments := by
  induction length_eq : text.length using Nat.strongRecOn generalizing text with
  | ind length ih =>
      by_cases starts : ∃ word replacement, rule word replacement ∧ word <+: text
      · obtain ⟨word, replacement, holds, rest, rfl⟩ := starts
        have word_pos : 0 < word.length :=
          List.length_pos_iff.mpr (separate.nonempty word replacement holds)
        have shorter : rest.length < length := by
          rw [← length_eq, List.length_append]
          omega
        obtain ⟨segments, cut⟩ := ih rest.length shorter rest rfl
        exact ⟨_, cut.cons_replaced separate holds⟩
      · cases text with
        | nil => exact ⟨[], .nil separate.nonempty⟩
        | cons c rest =>
            have shorter : rest.length < length := by
              rw [← length_eq]
              simp
            obtain ⟨segments, cut⟩ := ih rest.length shorter rest rfl
            refine ⟨_, cut.cons_kept c ?_⟩
            intro word replacement holds front
            exact starts ⟨word, replacement, holds, front⟩

end IsCut

namespace ReplacesAll

variable {rule : ReplacementRule} {source target other rest word text : List Char}

/-- The target of a replacement is determined. -/
theorem unique (nonempty : ∀ word text, rule word text → word ≠ [])
    (first : ReplacesAll rule source target) (second : ReplacesAll rule source other) :
    target = other := by
  obtain ⟨segments, cut, rfl⟩ := first
  obtain ⟨others, otherCut, rfl⟩ := second
  rw [cut.unique nonempty otherCut]

theorem nil (nonempty : ∀ word text, rule word text → word ≠ []) : ReplacesAll rule [] [] :=
  ⟨[], .nil nonempty, rfl⟩

theorem append_kept (replaced : ReplacesAll rule rest target) (run : List Char)
    (free : ∀ before word after replacement, rule word replacement →
      run ++ rest = before ++ word ++ after → run.length ≤ before.length) :
    ReplacesAll rule (run ++ rest) (run ++ target) := by
  obtain ⟨segments, cut, rfl⟩ := replaced
  refine ⟨_, cut.append_kept run free, ?_⟩
  rw [List.flatMap_append, Segment.targets_map_kept]

theorem cons_kept (replaced : ReplacesAll rule rest target) (c : Char)
    (free : ∀ word replacement, rule word replacement → ¬ word <+: c :: rest) :
    ReplacesAll rule (c :: rest) (c :: target) := by
  obtain ⟨segments, cut, rfl⟩ := replaced
  exact ⟨_, cut.cons_kept c free, rfl⟩

theorem cons_replaced (replaced : ReplacesAll rule rest target) (separate : rule.Separate)
    (holds : rule word text) : ReplacesAll rule (word ++ rest) (text ++ target) := by
  obtain ⟨segments, cut, rfl⟩ := replaced
  exact ⟨_, cut.cons_replaced separate holds, rfl⟩

theorem of_kept (separate : rule.Separate) {c : Char}
    (free : ∀ word replacement, rule word replacement → ¬ word <+: c :: rest)
    (replaced : ReplacesAll rule (c :: rest) target) :
    ∃ tail, target = c :: tail ∧ ReplacesAll rule rest tail := by
  obtain ⟨segments, cut⟩ := IsCut.exists_of_separate separate rest
  have replacedRest : ReplacesAll rule rest _ := ⟨segments, cut, rfl⟩
  exact ⟨_, replaced.unique separate.nonempty (replacedRest.cons_kept c free), replacedRest⟩

theorem of_replaced (separate : rule.Separate) (holds : rule word text)
    (replaced : ReplacesAll rule (word ++ rest) target) :
    ∃ tail, target = text ++ tail ∧ ReplacesAll rule rest tail := by
  obtain ⟨segments, cut⟩ := IsCut.exists_of_separate separate rest
  have replacedRest : ReplacesAll rule rest _ := ⟨segments, cut, rfl⟩
  exact ⟨_, replaced.unique separate.nonempty (replacedRest.cons_replaced separate holds),
    replacedRest⟩

end ReplacesAll
end DataLayer

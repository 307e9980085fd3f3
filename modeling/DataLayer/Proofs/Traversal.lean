import Mathlib.Data.List.Forall2

/-!
# Steps and traversals that may fail

One step after another succeeds when both do.  Going through a list stops at the first element that
fails.  So it succeeds exactly when every element succeeds, and it fails with the error of the first
element that does not.
-/

namespace DataLayer
namespace Traversal

variable {ε α β γ δ : Type}

theorem bind_eq_ok_iff (first : Except ε α) (next : α → Except ε β) (result : β) :
    first >>= next = .ok result ↔ ∃ value, first = .ok value ∧ next value = .ok result := by
  cases first <;> simp [bind, Except.bind]

theorem check_bind_eq_ok_iff (check : Except ε Unit) (next : Unit → Except ε β) (result : β) :
    check >>= next = .ok result ↔ check = .ok () ∧ next () = .ok result := by
  cases check <;> simp [bind, Except.bind]

theorem bind_eq_error_iff (first : Except ε α) (next : α → Except ε β) (error : ε) :
    first >>= next = .error error ↔
      first = .error error ∨ ∃ value, first = .ok value ∧ next value = .error error := by
  cases first <;> simp [bind, Except.bind]

@[simp]
theorem pure_eq_ok_iff (value result : α) :
    (pure value : Except ε α) = .ok result ↔ value = result := by
  simp [pure, Except.pure]

theorem pure_ne_error (value : α) (error : ε) : (pure value : Except ε α) ≠ .error error := by
  simp [pure, Except.pure]

theorem map_eq_ok_iff (computation : Except ε α) (change : α → β) (result : β) :
    computation.map change = .ok result ↔
      ∃ value, computation = .ok value ∧ change value = result := by
  cases computation <;> simp [Except.map]

theorem mapM_eq_ok_iff (step : α → Except ε β) (inputs : List α) (outputs : List β) :
    inputs.mapM step = .ok outputs ↔
      List.Forall₂ (fun input output => step input = .ok output) inputs outputs := by
  induction inputs generalizing outputs with
  | nil => cases outputs <;> simp [pure, Except.pure]
  | cons input rest ih =>
      rw [List.mapM_cons]
      cases first : step input with
      | error error => cases outputs <;> simp [bind, Except.bind, first]
      | ok output =>
          cases others : rest.mapM step with
          | error error => cases outputs <;> simp [bind, Except.bind, first, ← ih, others]
          | ok tail =>
              cases outputs <;> simp [bind, Except.bind, pure, Except.pure, first, ← ih, others]

/-- A traversal succeeds exactly when every element succeeds. -/
theorem exists_mapM_eq_ok_iff (step : α → Except ε β) (inputs : List α) :
    (∃ outputs, inputs.mapM step = .ok outputs) ↔
      ∀ input ∈ inputs, ∃ output, step input = .ok output := by
  simp only [mapM_eq_ok_iff]
  induction inputs with
  | nil => simp
  | cons input rest ih => simp [List.forall₂_cons_left_iff, ← ih]

/-- A traversal fails at its first failing element. -/
theorem mapM_eq_error_iff (step : α → Except ε β) (inputs : List α) (error : ε) :
    inputs.mapM step = .error error ↔
      ∃ front failing back, inputs = front ++ failing :: back ∧
        (∀ input ∈ front, ∃ output, step input = .ok output) ∧ step failing = .error error := by
  constructor
  · intro failed
    induction inputs with
    | nil => simp [pure, Except.pure] at failed
    | cons input rest ih =>
        rw [List.mapM_cons] at failed
        cases first : step input with
        | error cause =>
            obtain rfl : cause = error := by simpa [bind, Except.bind, first] using failed
            exact ⟨[], input, rest, rfl, by simp, first⟩
        | ok output =>
            cases others : rest.mapM step with
            | ok tail => simp [bind, Except.bind, pure, Except.pure, first, others] at failed
            | error cause =>
                obtain rfl : cause = error := by
                  simpa [bind, Except.bind, first, others] using failed
                obtain ⟨front, failing, back, rfl, passed, refused⟩ := ih others
                refine ⟨input :: front, failing, back, rfl, ?_, refused⟩
                simpa [first] using passed
  · rintro ⟨front, failing, back, rfl, passed, refused⟩
    obtain ⟨outputs, front_eq⟩ := (exists_mapM_eq_ok_iff step front).mpr passed
    simp [List.mapM_append, List.mapM_cons, front_eq, refused, bind, Except.bind]

theorem exists_input_of_mapM {step : α → Except ε β} {inputs : List α} {outputs : List β}
    (done : inputs.mapM step = .ok outputs) {output : β} (member : output ∈ outputs) :
    ∃ input ∈ inputs, step input = .ok output := by
  have pairs := (mapM_eq_ok_iff step inputs outputs).mp done
  clear done
  induction pairs with
  | nil => simp at member
  | cons pair _ ih =>
      rcases List.mem_cons.mp member with rfl | later
      · exact ⟨_, List.mem_cons_self, pair⟩
      · obtain ⟨input, below, step_eq⟩ := ih later
        exact ⟨input, List.mem_cons_of_mem _ below, step_eq⟩

/-- Inputs that succeed can be left out, if the outputs show which ones they came from. -/
theorem mapM_filter {step : α → Except ε β} {keep : α → Bool} {kept : β → Bool} {inputs : List α}
    (shows : ∀ input ∈ inputs, ∀ output, step input = .ok output → kept output = keep input)
    (succeeds : ∀ input ∈ inputs, keep input = false → ∃ output, step input = .ok output) :
    (inputs.filter keep).mapM step = (inputs.mapM step).map (List.filter kept) := by
  induction inputs with
  | nil => rfl
  | cons input rest ih =>
      rw [List.forall_mem_cons] at shows succeeds
      have rest_eq := ih shows.2 succeeds.2
      rw [List.filter_cons, List.mapM_cons]
      cases keep_eq : keep input with
      | false =>
          obtain ⟨output, output_eq⟩ := succeeds.1 keep_eq
          have left_out : kept output = false := (shows.1 output output_eq).trans keep_eq
          rw [if_neg Bool.false_ne_true, rest_eq, output_eq]
          cases rest.mapM step with
          | error error => rfl
          | ok outputs =>
              exact congrArg Except.ok (List.filter_cons_of_neg (by simp [left_out])).symm
      | true =>
          rw [if_pos rfl, List.mapM_cons, rest_eq]
          cases output_eq : step input with
          | error error => rfl
          | ok output =>
              have stays : kept output = true := (shows.1 output output_eq).trans keep_eq
              cases rest.mapM step with
              | error error => rfl
              | ok outputs => exact congrArg Except.ok (List.filter_cons_of_pos stays).symm

theorem forM_eq_ok_iff (step : α → Except ε Unit) (inputs : List α) :
    inputs.forM step = .ok () ↔ ∀ input ∈ inputs, step input = .ok () := by
  induction inputs with
  | nil => simp [pure, Except.pure]
  | cons input rest ih =>
      rw [List.forall_mem_cons, ← ih]
      exact check_bind_eq_ok_iff (step input) (fun _ => rest.forM step) ()

/-- Checks of all elements fail at the first element that does not pass. -/
theorem forM_eq_error_iff (step : α → Except ε Unit) (inputs : List α) (error : ε) :
    inputs.forM step = .error error ↔
      ∃ front failing back, inputs = front ++ failing :: back ∧
        (∀ input ∈ front, step input = .ok ()) ∧ step failing = .error error := by
  constructor
  · intro failed
    induction inputs with
    | nil => exact absurd failed (pure_ne_error () error)
    | cons input rest ih =>
        rcases (bind_eq_error_iff (step input) (fun _ => rest.forM step) error).mp failed with
          refused | ⟨_, passed, failed⟩
        · exact ⟨[], input, rest, rfl, by simp, refused⟩
        · obtain ⟨front, failing, back, rfl, front_passed, refused⟩ := ih failed
          exact ⟨input :: front, failing, back, rfl,
            List.forall_mem_cons.mpr ⟨passed, front_passed⟩, refused⟩
  · rintro ⟨front, failing, back, rfl, passed, refused⟩
    induction front with
    | nil =>
        exact (bind_eq_error_iff (step failing) (fun _ => back.forM step) error).mpr (.inl refused)
    | cons input rest ih =>
        rw [List.forall_mem_cons] at passed
        exact (bind_eq_error_iff (step input) (fun _ => (rest ++ failing :: back).forM step)
          error).mpr (.inr ⟨(), passed.1, ih passed.2⟩)

theorem map_eq_map_of_forall₂ {related : α → β → Prop} {inputs : List α} {outputs : List β}
    (pairs : List.Forall₂ related inputs outputs) {left : α → γ} {right : β → γ}
    (same : ∀ input output, related input output → right output = left input) :
    outputs.map right = inputs.map left := by
  induction pairs with
  | nil => rfl
  | cons pair _ ih => rw [List.map_cons, List.map_cons, same _ _ pair, ih]

theorem mapM_eq_map_mapM {step : α → Except ε β} {changedStep : α → Except ε γ} {change : β → γ}
    {inputs : List α}
    (changed : ∀ input ∈ inputs, changedStep input = (step input).map change) :
    inputs.mapM changedStep = (inputs.mapM step).map (List.map change) := by
  induction inputs with
  | nil => rfl
  | cons input rest ih =>
      have rest_eq := ih fun other member => changed other (List.mem_cons_of_mem input member)
      rw [List.mapM_cons, List.mapM_cons, changed input List.mem_cons_self, rest_eq]
      cases step input with
      | error error => rfl
      | ok output => cases rest.mapM step <;> rfl

/-- Two traversals succeed with the two views of what one traversal gives that takes both steps at
each element. -/
theorem mapM_eq_ok_and_mapM_eq_ok_iff {step : α → Except ε β} {left : β → γ} {right : β → δ}
    {leftStep : α → Except ε γ} {rightStep : α → Except ε δ} {inputs : List α}
    (splits : ∀ input ∈ inputs, ∀ first second,
      leftStep input = .ok first ∧ rightStep input = .ok second ↔
        ∃ output, step input = .ok output ∧ left output = first ∧ right output = second)
    (firsts : List γ) (seconds : List δ) :
    inputs.mapM leftStep = .ok firsts ∧ inputs.mapM rightStep = .ok seconds ↔
      ∃ outputs, inputs.mapM step = .ok outputs ∧
        outputs.map left = firsts ∧ outputs.map right = seconds := by
  simp only [mapM_eq_ok_iff]
  induction inputs generalizing firsts seconds with
  | nil => simp [eq_comm]
  | cons input rest ih =>
      have input_splits := splits input List.mem_cons_self
      have rest_splits := ih fun other member => splits other (List.mem_cons_of_mem input member)
      simp only [List.forall₂_cons_left_iff]
      constructor
      · rintro ⟨⟨first, others, first_eq, others_eq, rfl⟩, second, ends, second_eq, ends_eq, rfl⟩
        obtain ⟨output, output_eq, rfl, rfl⟩ := (input_splits first second).mp ⟨first_eq, second_eq⟩
        obtain ⟨outputs, outputs_eq, rfl, rfl⟩ := (rest_splits others ends).mp ⟨others_eq, ends_eq⟩
        exact ⟨output :: outputs, ⟨output, outputs, output_eq, outputs_eq, rfl⟩, rfl, rfl⟩
      · rintro ⟨-, ⟨output, outputs, output_eq, outputs_eq, rfl⟩, rfl, rfl⟩
        obtain ⟨first_eq, second_eq⟩ := (input_splits _ _).mpr ⟨output, output_eq, rfl, rfl⟩
        obtain ⟨others_eq, ends_eq⟩ := (rest_splits _ _).mpr ⟨outputs, outputs_eq, rfl, rfl⟩
        exact ⟨⟨_, _, first_eq, others_eq, rfl⟩, _, _, second_eq, ends_eq, rfl⟩

/-- Every error that the computation ends with is an allowed one. -/
def FailsOnly (allowed : ε → Prop) (outcome : Except ε α) : Prop :=
  ∀ error, outcome = .error error → allowed error

namespace FailsOnly

variable {allowed : ε → Prop}

theorem pure (value : α) : FailsOnly allowed (pure value : Except ε α) :=
  fun error failed => absurd failed (pure_ne_error value error)

theorem bind {first : Except ε α} {next : α → Except ε β} (first_fails : FailsOnly allowed first)
    (next_fails : ∀ value, FailsOnly allowed (next value)) :
    FailsOnly allowed (first >>= next) := by
  intro error failed
  rcases (bind_eq_error_iff first next error).mp failed with failed | ⟨value, -, failed⟩
  · exact first_fails error failed
  · exact next_fails value error failed

theorem mapM {step : α → Except ε β} {inputs : List α}
    (each_fails : ∀ input ∈ inputs, FailsOnly allowed (step input)) :
    FailsOnly allowed (inputs.mapM step) := by
  intro error failed
  obtain ⟨front, failing, back, rfl, -, refused⟩ := (mapM_eq_error_iff step inputs error).mp failed
  exact each_fails failing (by simp) error refused

end FailsOnly

/-! ## Two computations side by side -/

/-- Both computations fail with one error, or they have related results. -/
inductive Alike (related : α → β → Prop) : Except ε α → Except ε β → Prop where
  /-- Both fail. -/
  | error (error : ε) : Alike related (.error error) (.error error)
  /-- Both succeed. -/
  | ok {first : α} {second : β} : related first second → Alike related (.ok first) (.ok second)

theorem alike_eq_iff (first second : Except ε α) : Alike Eq first second ↔ first = second := by
  constructor
  · rintro (error | same)
    · rfl
    · rw [same]
  · rintro rfl
    cases first with
    | error error => exact .error error
    | ok value => exact .ok rfl

namespace Alike

variable {related : α → β → Prop} {results : γ → δ → Prop}

theorem bind {first : Except ε α} {second : Except ε β} {next : α → Except ε γ}
    {following : β → Except ε δ} (alike : Alike related first second)
    (each_alike : ∀ left right, related left right → Alike results (next left) (following right)) :
    Alike results (first >>= next) (second >>= following) := by
  cases alike with
  | error error => exact .error error
  | ok pair => exact each_alike _ _ pair

theorem map {first : Except ε α} {second : Except ε β} {change : α → γ} {other : β → δ}
    (alike : Alike related first second)
    (each_related : ∀ left right, related left right → results (change left) (other right)) :
    Alike results (first.map change) (second.map other) := by
  cases alike with
  | error error => exact .error error
  | ok pair => exact .ok (each_related _ _ pair)

/-- Two traversals come out alike if their steps do at each place. -/
theorem mapM (results : γ → δ → Prop) {inputs : List α} {others : List β}
    {step : α → Except ε γ} {other : β → Except ε δ}
    (pairs : List.Forall₂ related inputs others)
    (each_alike : ∀ left right, related left right → Alike results (step left) (other right)) :
    Alike (List.Forall₂ results) (inputs.mapM step) (others.mapM other) := by
  induction pairs with
  | nil => exact .ok .nil
  | cons pair _ ih =>
      rw [List.mapM_cons, List.mapM_cons]
      refine (each_alike _ _ pair).bind fun first second outcome => ?_
      exact ih.bind fun rest ends outcomes => .ok (.cons outcome outcomes)

end Alike

/-- Two searches stop at the same place, if they agree on every pair of elements. -/
theorem find?_rel {related : α → β → Prop} {inputs : List α} {others : List β}
    (pairs : List.Forall₂ related inputs others) (test : α → Bool) (other : β → Bool)
    (same : ∀ left right, related left right → other right = test left) :
    Option.Rel related (inputs.find? test) (others.find? other) := by
  induction pairs with
  | nil => exact .none
  | cons pair _ ih =>
      rw [List.find?_cons, List.find?_cons, same _ _ pair]
      split
      · exact .some pair
      · exact ih

theorem or_rel {related : α → β → Prop} {first second : Option α} {other behind : Option β}
    (pair : Option.Rel related first other) (backs : Option.Rel related second behind) :
    Option.Rel related (first.or second) (other.or behind) := by
  cases pair with
  | none => exact backs
  | some pair => exact .some pair

theorem map_eq_map_of_rel {related : α → β → Prop} {first : Option α} {second : Option β}
    (pair : Option.Rel related first second) {left : α → γ} {right : β → γ}
    (same : ∀ input output, related input output → right output = left input) :
    second.map right = first.map left := by
  cases pair with
  | none => rfl
  | some pair => exact congrArg some (same _ _ pair)

theorem getD_rel {related : α → β → Prop} {first : Option α} {second : Option β} {usual : α}
    {other : β} (pair : Option.Rel related first second) (usuals : related usual other) :
    related (first.getD usual) (second.getD other) := by
  cases pair with
  | none => exact usuals
  | some pair => exact pair

theorem toList_rel {related : α → β → Prop} {first : Option α} {second : Option β}
    (pair : Option.Rel related first second) : List.Forall₂ related first.toList second.toList := by
  cases pair with
  | none => exact .nil
  | some pair => exact .cons pair .nil

end Traversal
end DataLayer

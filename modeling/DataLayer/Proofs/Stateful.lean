/-!
# Steps on a state that may fail

A command takes one step after another.  A step that succeeds hands its state on to the next one,
and the first step that fails is the last one taken.
-/

namespace DataLayer
namespace Stateful

variable {ε ε' σ α β : Type}

/-- What a command comes to from a state, and the state that it leaves. -/
def outcome (command : ExceptT ε (StateM σ) α) (state : σ) : Except ε α × σ :=
  command.run.run state

@[simp]
theorem outcome_pure (value : α) (state : σ) :
    outcome (pure value : ExceptT ε (StateM σ) α) state = (.ok value, state) := rfl

@[simp]
theorem outcome_throw (error : ε) (state : σ) :
    outcome (throw error : ExceptT ε (StateM σ) α) state = (.error error, state) := rfl

@[simp]
theorem outcome_liftM (action : StateM σ α) (state : σ) :
    outcome (liftM action : ExceptT ε (StateM σ) α) state =
      (.ok (action.run state).1, (action.run state).2) := rfl

@[simp]
theorem outcome_adapt (change : ε → ε') (command : ExceptT ε (StateM σ) α) (state : σ) :
    outcome (command.adapt change) state =
      ((outcome command state).1.mapError change, (outcome command state).2) := rfl

theorem outcome_bind (first : ExceptT ε (StateM σ) α) (next : α → ExceptT ε (StateM σ) β)
    (state : σ) :
    outcome (first >>= next) state =
      match outcome first state with
      | (.ok value, after) => outcome (next value) after
      | (.error error, after) => (.error error, after) := by
  simp only [outcome, ExceptT.run_bind, StateT.run_bind]
  cases first.run.run state with
  | mk result after => cases result <;> rfl

end Stateful
end DataLayer

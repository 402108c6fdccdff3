/-
# Actions

An action works on a state and gives a value or a failure; what it did to the
state before it failed stays done.

Failures have a type of their own.  An action that is defined for every type of
failures cannot fail, and fits among actions of each type; `complete` runs it.
-/

namespace Mqtt

/-- Something done to a state, which may fail. -/
abbrev Action (ε σ α : Type) := EStateM ε σ α

namespace Action

variable {ε ε' σ τ α : Type}

/-- A value or a failure, without doing anything. -/
def ofExcept : Except ε α → Action ε σ α
  | .ok a => pure a
  | .error e => throw e

/-- Does something that may fail, and says how it went. -/
def attempt (action : Action ε σ α) : Action ε' σ (Except ε α) := fun state =>
  match action state with
  | .ok a state => .ok (.ok a) state
  | .error e state => .ok (.error e) state

/-- Does something to a part of the state. -/
def within (part : σ → τ) (put : τ → σ → σ) (action : Action ε τ α) : Action ε σ α := fun state =>
  match action (part state) with
  | .ok a t => .ok a (put t state)
  | .error e t => .error e (put t state)

/-- A sequence goes on with its second part where its first part succeeds, with the value
it gave and in the state it left. -/
theorem bind_of_ok {β : Type} {action : Action ε σ α} {next : α → Action ε σ β} {s t : σ} {a : α}
    (h : action s = .ok a t) : (action >>= next) s = next a t := by
  simp [bind, EStateM.bind, h]

/-- Where the first part of a sequence fails, the second is not begun: the failure is that
of the sequence, and so is the state it left. -/
theorem bind_of_error {β : Type} {action : Action ε σ α} {next : α → Action ε σ β} {s t : σ} {e : ε}
    (h : action s = .error e t) : (action >>= next) s = .error e t := by
  simp [bind, EStateM.bind, h]

/-- Attempting an action that succeeds gives its value, marked as a success. -/
theorem attempt_of_ok {action : Action ε σ α} {s t : σ} {a : α} (h : action s = .ok a t) :
    (attempt action : Action ε' σ (Except ε α)) s = .ok (.ok a) t := by
  simp [attempt, h]

/-- Attempting an action that fails succeeds, and gives the failure as a value.  What the
action did before it failed stays done. -/
theorem attempt_of_error {action : Action ε σ α} {s t : σ} {e : ε} (h : action s = .error e t) :
    (attempt action : Action ε' σ (Except ε α)) s = .ok (.error e) t := by
  simp [attempt, h]

/-- Runs an action that cannot fail. -/
def complete (action : Action Empty σ α) (state : σ) : α × σ :=
  match action state with
  | .ok a state => (a, state)

end Action
end Mqtt

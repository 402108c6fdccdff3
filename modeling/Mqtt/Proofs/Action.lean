/-
# What an action yields

`Yields action s r t` says that the action takes the state `s` to `t` and gives
`r`, a value or a failure.  Every action yields exactly one thing in each state;
the lemmas here take the statement apart along the way the action is built, so
that a run of a long action becomes the runs of its parts.
-/
import Mqtt.Action

namespace Mqtt
namespace Action

variable {ε ε' σ τ α β : Type}

/-- The action takes one state to another and gives a value or a failure. -/
inductive Yields (action : Action ε σ α) (s : σ) : Except ε α → σ → Prop
  | ok {a : α} {t : σ} (h : action s = .ok a t) : Yields action s (.ok a) t
  | error {e : ε} {t : σ} (h : action s = .error e t) : Yields action s (.error e) t

/-- Where an action succeeds, this is the one thing it yields. -/
theorem yields_of_ok {action : Action ε σ α} {s t u : σ} {a : α} {r : Except ε α}
    (h : action s = .ok a t) : Yields action s r u ↔ r = .ok a ∧ u = t := by
  constructor
  · rintro (h' | h')
    · rw [h] at h'
      cases h'
      exact ⟨rfl, rfl⟩
    · rw [h] at h'
      cases h'
  · rintro ⟨rfl, rfl⟩
    exact .ok h

/-- Where an action fails, this is the one thing it yields. -/
theorem yields_of_error {action : Action ε σ α} {s t u : σ} {e : ε} {r : Except ε α}
    (h : action s = .error e t) : Yields action s r u ↔ r = .error e ∧ u = t := by
  constructor
  · rintro (h' | h')
    · rw [h] at h'
      cases h'
    · rw [h] at h'
      cases h'
      exact ⟨rfl, rfl⟩
  · rintro ⟨rfl, rfl⟩
    exact .error h

/-- An action always yields something. -/
theorem exists_yields (action : Action ε σ α) (s : σ) : ∃ r t, Yields action s r t := by
  cases h : action s with
  | ok a t => exact ⟨.ok a, t, .ok h⟩
  | error e t => exact ⟨.error e, t, .error h⟩

/-- An action yields one thing only. -/
theorem Yields.unique {action : Action ε σ α} {s t u : σ} {x y : Except ε α}
    (h : Yields action s x t) (h' : Yields action s y u) : x = y ∧ t = u := by
  cases h with
  | ok ha =>
    obtain ⟨rfl, rfl⟩ := (yields_of_ok ha).1 h'
    exact ⟨rfl, rfl⟩
  | error he =>
    obtain ⟨rfl, rfl⟩ := (yields_of_error he).1 h'
    exact ⟨rfl, rfl⟩

/-- Giving a value yields that value and leaves the state as it is. -/
@[simp] theorem yields_pure {a : α} {s t : σ} {r : Except ε α} :
    Yields (pure a : Action ε σ α) s r t ↔ r = .ok a ∧ t = s :=
  yields_of_ok rfl

/-- Failing yields that failure and leaves the state as it is. -/
@[simp] theorem yields_throw {e : ε} {s t : σ} {r : Except ε α} :
    Yields (throw e : Action ε σ α) s r t ↔ r = .error e ∧ t = s :=
  yields_of_error rfl

/-- Looking at the state yields the state, unchanged. -/
@[simp] theorem yields_get {s t : σ} {r : Except ε σ} :
    Yields (get : Action ε σ σ) s r t ↔ r = .ok s ∧ t = s :=
  yields_of_ok rfl

/-- A change of the state yields the changed state and cannot fail. -/
@[simp] theorem yields_modify {f : σ → σ} {s t : σ} {r : Except ε PUnit} :
    Yields (modify f : Action ε σ PUnit) s r t ↔ r = .ok () ∧ t = f s :=
  yields_of_ok rfl

/-- A result taken for an action yields that result, whether a value or a failure, and
leaves the state as it is. -/
@[simp] theorem yields_ofExcept {x : Except ε α} {s t : σ} {r : Except ε α} :
    Yields (ofExcept x : Action ε σ α) s r t ↔ r = x ∧ t = s := by
  cases x with
  | ok a => exact yields_pure
  | error e => exact yields_throw

/-- Two actions that come to the same result in their states yield the same there.  It is
all the other lemmas need to know of how actions are run. -/
theorem yields_congr {action action' : Action ε σ α} {s s' t : σ} {r : Except ε α}
    (h : action s = action' s') : Yields action s r t ↔ Yields action' s' r t := by
  cases h' : action' s' with
  | ok a u => rw [yields_of_ok h', yields_of_ok (h.trans h')]
  | error e u => rw [yields_of_error h', yields_of_error (h.trans h')]

/-- A sequence fails where its first part fails, or goes on with the value. -/
theorem yields_bind {action : Action ε σ α} {next : α → Action ε σ β} {s u : σ} {r : Except ε β} :
    Yields (action >>= next) s r u ↔
      (∃ e, Yields action s (.error e) u ∧ r = .error e) ∨
        ∃ a t, Yields action s (.ok a) t ∧ Yields (next a) t r u := by
  cases h : action s with
  | ok a t =>
    have hrun : (action >>= next) s = next a t := bind_of_ok h
    simp only [yields_congr hrun, yields_of_ok h]
    constructor
    · intro hn
      exact .inr ⟨a, t, ⟨rfl, rfl⟩, hn⟩
    · rintro (⟨e, ⟨he, -⟩, -⟩ | ⟨b, v, ⟨hb, rfl⟩, hn⟩)
      · cases he
      · cases hb
        exact hn
  | error e t =>
    have hrun : (action >>= next) s = .error e t := bind_of_error h
    simp only [yields_of_error hrun, yields_of_error h]
    constructor
    · rintro ⟨rfl, rfl⟩
      exact .inl ⟨e, ⟨rfl, rfl⟩, rfl⟩
    · rintro (⟨f, ⟨hf, rfl⟩, rfl⟩ | ⟨b, v, ⟨hb, -⟩, -⟩)
      · cases hf
        exact ⟨rfl, rfl⟩
      · cases hb

/-- A value that is given first is what the rest goes on with. -/
@[simp] theorem yields_pure_bind {a : α} {next : α → Action ε σ β} {s u : σ} {r : Except ε β} :
    Yields ((pure a : Action ε σ α) >>= next) s r u ↔ Yields (next a) s r u :=
  yields_congr (bind_of_ok rfl)

/-- After a failure the rest of a sequence is not begun. -/
@[simp] theorem yields_throw_bind {e : ε} {next : α → Action ε σ β} {s u : σ} {r : Except ε β} :
    Yields ((throw e : Action ε σ α) >>= next) s r u ↔ r = .error e ∧ u = s :=
  yields_of_error (bind_of_error rfl)

/-- Looking at the state is no step of its own: the rest starts from the state that it was
shown. -/
@[simp] theorem yields_get_bind {next : σ → Action ε σ β} {s u : σ} {r : Except ε β} :
    Yields ((get : Action ε σ σ) >>= next) s r u ↔ Yields (next s) s r u :=
  yields_congr (bind_of_ok rfl)

/-- After a change of the state the rest starts from the changed state. -/
@[simp] theorem yields_modify_bind {f : σ → σ} {next : PUnit → Action ε σ β} {s u : σ}
    {r : Except ε β} :
    Yields ((modify f : Action ε σ PUnit) >>= next) s r u ↔ Yields (next ()) (f s) r u :=
  yields_congr (bind_of_ok rfl)

/-- An attempt cannot fail: it gives how the action went. -/
theorem yields_attempt {action : Action ε σ α} {s t : σ} {r : Except ε' (Except ε α)} :
    Yields (attempt action : Action ε' σ (Except ε α)) s r t ↔
      ∃ x, Yields action s x t ∧ r = .ok x := by
  cases h : action s with
  | ok a u =>
    simp only [yields_of_ok (attempt_of_ok h), yields_of_ok h]
    exact ⟨fun ⟨hr, ht⟩ => ⟨_, ⟨rfl, ht⟩, hr⟩, fun ⟨_, ⟨hx, ht⟩, hr⟩ => ⟨hx ▸ hr, ht⟩⟩
  | error e u =>
    simp only [yields_of_ok (attempt_of_error h), yields_of_error h]
    exact ⟨fun ⟨hr, ht⟩ => ⟨_, ⟨rfl, ht⟩, hr⟩, fun ⟨_, ⟨hx, ht⟩, hr⟩ => ⟨hx ▸ hr, ht⟩⟩

/-- An action goes the same if its value is thrown away. -/
theorem yields_discard {action : Action ε σ α} {s t : σ} {r : Except ε Unit}
    (h : Yields (do let _ ← action) s r t) : ∃ x, Yields action s x t := by
  rcases yields_bind.1 h with ⟨e, ha, -⟩ | ⟨a, u, ha, hend⟩
  · exact ⟨_, ha⟩
  · obtain ⟨-, rfl⟩ := yields_pure.1 hend
    exact ⟨_, ha⟩

/-- After an attempt the rest always gets its turn, with how the attempt went and in the
state that it left. -/
theorem yields_attempt_bind {action : Action ε σ α} {next : Except ε α → Action ε' σ β} {s u : σ}
    {r : Except ε' β} :
    Yields (attempt action >>= next) s r u ↔
      ∃ x t, Yields action s x t ∧ Yields (next x) t r u := by
  rw [yields_bind]
  constructor
  · rintro (⟨e, h, -⟩ | ⟨x, t, h, hn⟩)
    · obtain ⟨_, -, he⟩ := yields_attempt.1 h
      cases he
    · obtain ⟨_, hx, ⟨⟩⟩ := yields_attempt.1 h
      exact ⟨x, t, hx, hn⟩
  · rintro ⟨x, t, hx, hn⟩
    exact .inr ⟨x, t, yields_attempt.2 ⟨x, hx, rfl⟩, hn⟩

/-- What is done to a part of the state yields what it yields for the part alone, and the
part is put back into a state that is otherwise the same. -/
theorem yields_within {part : σ → τ} {put : τ → σ → σ} {action : Action ε τ α} {s u : σ}
    {r : Except ε α} :
    Yields (within part put action) s r u ↔ ∃ t, Yields action (part s) r t ∧ u = put t s := by
  cases h : action (part s) with
  | ok a t =>
    have hw : within part put action s = .ok a (put t s) := by simp [within, h]
    simp only [yields_of_ok hw, yields_of_ok h]
    exact ⟨fun ⟨hr, hu⟩ => ⟨t, ⟨hr, rfl⟩, hu⟩, fun ⟨_, ⟨hr, ht⟩, hu⟩ => ⟨hr, ht ▸ hu⟩⟩
  | error e t =>
    have hw : within part put action s = .error e (put t s) := by simp [within, h]
    simp only [yields_of_error hw, yields_of_error h]
    exact ⟨fun ⟨hr, hu⟩ => ⟨t, ⟨hr, rfl⟩, hu⟩, fun ⟨_, ⟨hr, ht⟩, hu⟩ => ⟨hr, ht ▸ hu⟩⟩

/-- An action that cannot fail yields what running it gives. -/
theorem yields_iff_complete {action : Action Empty σ α} {s t : σ} {r : Except Empty α} :
    Yields action s r t ↔ r = .ok (complete action s).1 ∧ t = (complete action s).2 := by
  match h : action s with
  | .ok a u =>
    have hc : complete action s = (a, u) := by simp [complete, h]
    rw [yields_of_ok h, hc]

/-- Running an action that cannot fail gives the value and the state that it yields. -/
theorem complete_of_yields {action : Action Empty σ α} {s t : σ} {a : α}
    (h : Yields action s (.ok a) t) : complete action s = (a, t) := by
  obtain ⟨ha, rfl⟩ := yields_iff_complete.1 h
  rw [Except.ok.inj ha]

/-- An action that cannot fail yields a value in every state, the one that running it
gives. -/
theorem yields_complete (action : Action Empty σ α) (s : σ) :
    Yields action s (.ok (complete action s).1) (complete action s).2 :=
  yields_iff_complete.2 ⟨rfl, rfl⟩

end Action
end Mqtt

/-
# Two runs side by side

`Agree R V a s b t` says that the action `a` in the state `s` and the action `b` in the
state `t` go alike: both give values that `V` relates, or both fail with the same failure,
and the states they leave are related by `R` again.  An action is steady if it goes alike
with itself in any two related states, so it cannot tell them apart.  Actions built from
steady ones are steady; only where the two runs handle different values does one have to
look at both (`agree_bind`).
-/
import Mqtt.Action

namespace Mqtt
namespace Action

variable {ε ε' σ τ α β γ δ : Type} {R : σ → σ → Prop}

/-- Two results are alike. -/
inductive Matching (R : σ → σ → Prop) (V : α → β → Prop) :
    EStateM.Result ε σ α → EStateM.Result ε σ β → Prop
  /-- Both give a result, and the results are related. -/
  | ok {a : α} {b : β} {s t : σ} : V a b → R s t → Matching R V (.ok a s) (.ok b t)
  /-- Both fail, and with the same fault. -/
  | error {e : ε} {s t : σ} : R s t → Matching R V (.error e s) (.error e t)

/-- Two actions, each in its state, go alike. -/
def Agree (R : σ → σ → Prop) (V : α → β → Prop) (a : Action ε σ α) (s : σ) (b : Action ε σ β)
    (t : σ) : Prop :=
  Matching R V (a s) (b t)

/-- The action goes alike in related states. -/
def Steady (R : σ → σ → Prop) (a : Action ε σ α) : Prop :=
  ∀ s t, R s t → Agree R (· = ·) a s a t

section

variable {V : α → β → Prop} {W : γ → δ → Prop} {s t : σ}

/-- Two runs that go alike for one relation between their values go alike for every weaker
one. -/
theorem Agree.mono {V' : α → β → Prop} {a : Action ε σ α} {b : Action ε σ β}
    (h : Agree R V a s b t) (weaker : ∀ {x y}, V x y → V' x y) : Agree R V' a s b t := by
  unfold Agree at h ⊢
  generalize a s = r at h ⊢
  generalize b t = r' at h ⊢
  cases h with
  | ok values states => exact .ok (weaker values) states
  | error states => exact .error states

/-- Two runs that both succeed go alike if their values and the states they leave are
related. -/
theorem agree_of_ok {a : Action ε σ α} {b : Action ε σ β} {x : α} {y : β} {u v : σ}
    (ha : a s = .ok x u) (hb : b t = .ok y v) (values : V x y) (states : R u v) :
    Agree R V a s b t := by
  rw [Agree, ha, hb]
  exact .ok values states

/-- Two runs that fail in the same way go alike if the states they leave are
related.  Failures are not compared up to a relation: they have to be the same. -/
theorem agree_of_error {a : Action ε σ α} {b : Action ε σ β} {e : ε} {u v : σ}
    (ha : a s = .error e u) (hb : b t = .error e v) (states : R u v) : Agree R V a s b t := by
  rw [Agree, ha, hb]
  exact .error states

/-- Giving related values in related states goes alike. -/
theorem agree_pure {a : α} {b : β} (values : V a b) (states : R s t) :
    Agree R V (pure a : Action ε σ α) s (pure b) t :=
  .ok values states

/-- The same failure in related states goes alike. -/
theorem agree_throw {e : ε} (states : R s t) :
    Agree R V (throw e : Action ε σ α) s (throw e) t :=
  .error states

/-- A sequence goes alike if its first part does, and what follows goes alike wherever
that leads. -/
theorem agree_bind_of_ok {a : Action ε σ α} {b : Action ε σ β} {k : α → Action ε σ γ}
    {l : β → Action ε σ δ} (first : Agree R V a s b t)
    (rest : ∀ x y u v, a s = .ok x u → V x y → R u v → Agree R W (k x) u (l y) v) :
    Agree R W (a >>= k) s (b >>= l) t := by
  unfold Agree at first ⊢
  generalize ha : a s = r at first
  generalize hb : b t = r' at first
  cases first with
  | ok values states =>
    rw [bind_of_ok ha, bind_of_ok hb]
    exact rest _ _ _ _ ha values states
  | error states =>
    rw [bind_of_error ha, bind_of_error hb]
    exact .error states

/-- Sequences go alike if their first parts do and the second parts do from whatever
related values and states the first parts give.  Where the first parts fail, they fail
alike, and nothing is asked of the rest. -/
theorem agree_bind {a : Action ε σ α} {b : Action ε σ β} {k : α → Action ε σ γ}
    {l : β → Action ε σ δ} (first : Agree R V a s b t)
    (rest : ∀ x y u v, V x y → R u v → Agree R W (k x) u (l y) v) :
    Agree R W (a >>= k) s (b >>= l) t :=
  agree_bind_of_ok first fun x y u v _ => rest x y u v

/-- Looking at the state goes alike if what comes after it does, each rest with the state
that it was shown. -/
theorem agree_get_bind {k l : σ → Action ε σ γ} {W : γ → γ → Prop}
    (rest : Agree R W (k s) s (l t) t) : Agree R W (get >>= k) s (get >>= l) t :=
  rest

/-- Changing the state goes alike if what comes after it does in the changed states. -/
theorem agree_modify_bind {f g : σ → σ} {k l : PUnit → Action ε σ γ} {W : γ → γ → Prop}
    (rest : Agree R W (k ()) (f s) (l ()) (g t)) :
    Agree R W (modify f >>= k) s (modify g >>= l) t :=
  rest

/-- Attempts go alike if what they attempt does, for failures are the same on both sides
and become values that are the same. -/
theorem agree_attempt {a b : Action ε σ α} (h : Agree R (· = ·) a s b t) :
    Agree R (· = ·) (attempt a : Action ε' σ (Except ε α)) s (attempt b) t := by
  unfold Agree at h ⊢
  generalize ha : a s = r at h
  generalize hb : b t = r' at h
  cases h with
  | ok values states =>
    rw [attempt_of_ok ha, attempt_of_ok hb, values]
    exact .ok rfl states
  | error states =>
    rw [attempt_of_error ha, attempt_of_error hb]
    exact .ok rfl states

/-- Actions that cannot fail give related values and leave related states. -/
theorem Agree.complete {a : Action Empty σ α} {b : Action Empty σ β} (h : Agree R V a s b t) :
    V (complete a s).1 (complete b t).1 ∧ R (complete a s).2 (complete b t).2 := by
  unfold Agree at h
  unfold Action.complete
  generalize a s = r at h
  generalize b t = r' at h
  cases h with
  | ok values states => exact ⟨values, states⟩
  | @error e => cases e

end

/-- Giving a value is steady: it does not look at the state. -/
theorem steady_pure (a : α) : Steady R (pure a : Action ε σ α) := fun _ _ h =>
  agree_pure rfl h

/-- Failing is steady: it does not look at the state. -/
theorem steady_throw (e : ε) : Steady R (throw e : Action ε σ α) := fun _ _ h =>
  agree_throw h

/-- A result taken for an action is steady, whether it is a value or a failure. -/
theorem steady_ofExcept (x : Except ε α) : Steady R (ofExcept x : Action ε σ α) := by
  cases x with
  | ok a => exact steady_pure a
  | error e => exact steady_throw e

/-- Sequences of steady actions are steady, for both runs come to the same value in
between. -/
theorem steady_bind {a : Action ε σ α} {k : α → Action ε σ γ} (first : Steady R a)
    (rest : ∀ x, Steady R (k x)) : Steady R (a >>= k) := fun s t h =>
  agree_bind (first s t h) fun x y u v values states => by
    cases values
    exact rest x u v states

/-- A steady action stays steady if something is made of its value. -/
theorem steady_map {a : Action ε σ α} (f : α → γ) (h : Steady R a) : Steady R (f <$> a) := by
  rw [map_eq_pure_bind]
  exact steady_bind h fun x => steady_pure (f x)

/-- What goes on from the state may use all that related states share. -/
theorem steady_get_bind {k : σ → Action ε σ γ} (same : ∀ s t, R s t → k s = k t)
    (rest : ∀ s, Steady R (k s)) : Steady R (get >>= k) := by
  intro s t h
  refine agree_get_bind ?_
  rw [← same s t h]
  exact rest s s t h

/-- A change of the state is steady if it takes related states to related states. -/
theorem steady_modify {f : σ → σ} (h : ∀ s t, R s t → R (f s) (f t)) :
    Steady R (modify f : Action ε σ PUnit) := fun s t states =>
  .ok rfl (h s t states)

/-- An attempt at a steady action is steady. -/
theorem steady_attempt {a : Action ε σ α} (h : Steady R a) :
    Steady R (attempt a : Action ε' σ (Except ε α)) := fun s t states =>
  agree_attempt (h s t states)

/-- What is done to a part of the state goes alike if it does for the parts, and if
putting the parts back keeps the whole states related. -/
theorem agree_within {P : τ → τ → Prop} {V : α → β → Prop} {part : σ → τ} {put : τ → σ → σ}
    {a : Action ε τ α} {b : Action ε τ β} {s t : σ} (h : Agree P V a (part s) b (part t))
    (keep : ∀ {u v}, P u v → R (put u s) (put v t)) :
    Agree R V (within part put a) s (within part put b) t := by
  unfold Agree at h ⊢
  unfold within
  generalize a (part s) = r at h ⊢
  generalize b (part t) = r' at h ⊢
  cases h with
  | ok values states => exact .ok values (keep states)
  | error states => exact .error (keep states)

/-- Doing something steady for each entry of a list is steady. -/
theorem steady_forM {f : α → Action ε σ PUnit} (xs : List α) (h : ∀ x, Steady R (f x)) :
    Steady R (xs.forM f) := by
  induction xs with
  | nil => exact steady_pure _
  | cons x xs ih => exact steady_bind (h x) fun _ => ih

end Action
end Mqtt

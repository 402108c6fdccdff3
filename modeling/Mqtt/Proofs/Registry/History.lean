/-
# A registry told from the calls that made it

Any calls to keep subscriptions, made one after the other on an empty registry, leave what
the calls alone tell: the first eight distinct filters among those short enough, in the
order in which each first came, with the level of its latest call (`after_shown`).  They
tell the answer to the next call as well:

| the filter | eight are held | longer than 128 bytes | the answer     | the registry |
|------------|----------------|-----------------------|----------------|--------------|
| is held    |                |                       | updated        | a new level  |
| is new     | yes            |                       | dropped        | stays        |
| is new     | no             | yes                   | topic too long | stays        |
| is new     | no             | no                    | inserted       | one more     |

so a full registry drops even a filter that it would refuse if it had room.

Sending the filters again goes through them in order and ends with the first that fails, or
after the last (`Sends`).  The main statement is `after_refines`.
-/
import Mathlib.Data.List.Induction
import Mqtt.Proofs.Action
import Mqtt.Proofs.Registry

namespace Mqtt
namespace Registry

/-- The filter of a subscription is short enough to be held. -/
def fits (subscription : String × QoS) : Bool :=
  decide (subscription.1.utf8ByteSize ≤ filterLimit)

/-- The registry after one more call; a call that fails gives none, and the one before stays. -/
def keep (registry : Registry) (subscription : String × QoS) : Registry :=
  match registry.record subscription.1 subscription.2 with
  | .ok (_, next) => next
  | .error _ => registry

/-- The registry after calls made one after the other, with nothing held at first. -/
def after (calls : List (String × QoS)) : Registry := calls.foldl keep empty

/-- The first distinct filters among those short enough, as many as there is room for. -/
def leading (calls : List (String × QoS)) : List String :=
  ((calls.filter fits).map (·.1)).eraseDups.take capacity

/-- The answer to a call, told from the calls before it. -/
def answer (calls : List (String × QoS)) (filter : String) : Except Fault Recorded :=
  if filter ∈ leading calls then .ok .updated
  else if (leading calls).length = capacity then .ok .dropped
  else if filterLimit < filter.utf8ByteSize then .error .topicTooLong
  else .ok .inserted

/-! ### The entries -/

/-- One call more is made on the registry that the calls before it have left. -/
theorem after_concat (calls : List (String × QoS)) (filter : String) (qos : QoS) :
    after (calls ++ [(filter, qos)]) = (after calls).keep (filter, qos) :=
  List.foldl_append

/-- What is held is short enough, so a filter that is not is new. -/
theorem holds_eq_false_of_long {registry : Registry} {filter : String}
    (long : filterLimit < filter.utf8ByteSize) : registry.holds filter = false := by
  refine Bool.eq_false_iff.2 fun held => ?_
  obtain ⟨entry, -, rfl⟩ := List.mem_map.1 (holds_iff.1 held)
  exact absurd entry.filter.size_le (Nat.not_le.2 long)

/-- A filter that is too long is never kept: it is not held, so it is new, and where there
is room for a new one its length is what refuses it. -/
theorem keep_of_long {registry : Registry} {filter : String} (qos : QoS)
    (long : filterLimit < filter.utf8ByteSize) : registry.keep (filter, qos) = registry := by
  have hrecording := registry.recording filter qos
  rw [keep]
  generalize registry.record filter qos = result at hrecording ⊢
  cases hrecording with
  | updated held => rw [holds_eq_false_of_long long] at held; cases held
  | dropped => rfl
  | refused => rfl
  | @inserted text _ _ _ htext =>
    subst htext
    exact absurd text.size_le (Nat.not_le.2 long)

/-- A call leaves its subscription behind if the filter is short enough, or else nothing. -/
theorem Recalls.keep {registry : Registry} {calls : List (String × QoS)}
    (h : registry.Recalls (calls.filter fits)) (filter : String) (qos : QoS) :
    (registry.keep (filter, qos)).Recalls ((calls ++ [(filter, qos)]).filter fits) := by
  rw [List.filter_append]
  by_cases hfits : filter.utf8ByteSize ≤ filterLimit
  · obtain ⟨⟨outcome, next⟩, hrecord⟩ := registry.record_of_fits qos hfits
    have hkeep : registry.keep (filter, qos) = next := by rw [Registry.keep, hrecord]
    have hkept : [(filter, qos)].filter fits = [(filter, qos)] := by simp [fits, hfits]
    rw [hkeep, hkept]
    exact h.record hrecord
  · have hnone : [(filter, qos)].filter fits = [] := by simp [fits, hfits]
    rw [keep_of_long qos (Nat.not_le.1 hfits), hnone, List.append_nil]
    exact h

/-- Only the calls with a filter short enough leave anything. -/
theorem recalls_after (calls : List (String × QoS)) :
    (after calls).Recalls (calls.filter fits) := by
  induction calls using List.reverseRecOn with
  | nil => exact recalls_empty
  | append_singleton calls call ih =>
    rw [after_concat]
    exact ih.keep call.1 call.2

/-- The level of a filter short enough does not depend on the calls with others. -/
theorem lookup_filter_fits (calls : List (String × QoS)) {filter : String}
    (hfits : filter.utf8ByteSize ≤ filterLimit) :
    (calls.filter fits).lookup filter = calls.lookup filter := by
  induction calls with
  | nil => rfl
  | cons call calls ih =>
    obtain ⟨other, qos⟩ := call
    rw [List.filter_cons, List.lookup_cons]
    by_cases hother : other.utf8ByteSize ≤ filterLimit
    · rw [if_pos (by simpa [fits] using hother), List.lookup_cons, ih]
    · have hne : filter ≠ other := fun he => hother (he ▸ hfits)
      rw [if_neg (by simpa [fits] using hother), ih, beq_eq_false_iff_ne.2 hne]

/-- The filters that count among the first ones are all short enough to be held. -/
theorem fits_of_mem_leading {calls : List (String × QoS)} {filter : String}
    (h : filter ∈ leading calls) : filter.utf8ByteSize ≤ filterLimit := by
  obtain ⟨call, hcall, rfl⟩ := List.mem_map.1 (List.mem_eraseDups.1 (List.mem_of_mem_take h))
  exact of_decide_eq_true (List.mem_filter.1 hcall).2

/-- The entries are the leading filters, each with the level of its latest call. -/
theorem after_shown (calls : List (String × QoS)) :
    ((after calls).entries.map fun entry => (entry.filter.text, some entry.qos)) =
      (leading calls).map fun filter => (filter, calls.reverse.lookup filter) := by
  rw [(recalls_after calls).shown]
  refine List.map_congr_left fun filter hfilter => ?_
  rw [← List.filter_reverse, lookup_filter_fits _ (fits_of_mem_leading hfilter)]

/-! ### The answers -/

/-- The calls tell the answer to the next one, and two of the answers change nothing. -/
theorem record_after (calls : List (String × QoS)) (filter : String) (qos : QoS) :
    ((after calls).record filter qos).map (·.1) = answer calls filter ∧
      (answer calls filter = .ok .dropped ∨ answer calls filter = .error .topicTooLong →
        (after calls).keep (filter, qos) = after calls) := by
  have hheld : (after calls).holds filter = true ↔ filter ∈ leading calls := by
    rw [holds_iff, (recalls_after calls).filters, leading]
  have hsize : (after calls).size = (leading calls).length := by
    rw [size, leading, ← (recalls_after calls).filters, List.length_map]
  have hnew : (after calls).holds filter = false → filter ∉ leading calls := fun new hmem =>
    Bool.false_ne_true (new.symm.trans (hheld.2 hmem))
  have hrecording := (after calls).recording filter qos
  rw [keep, answer]
  generalize (after calls).record filter qos = result at hrecording ⊢
  cases hrecording with
  | updated held =>
    rw [if_pos (hheld.1 held)]
    exact ⟨rfl, by simp⟩
  | dropped new full =>
    rw [if_neg (hnew new), if_pos (hsize.symm.trans full)]
    exact ⟨rfl, fun _ => rfl⟩
  | refused new room long =>
    rw [if_neg (hnew new), if_neg (by omega), if_pos long]
    exact ⟨rfl, fun _ => rfl⟩
  | @inserted text _ new room htext =>
    subst htext
    rw [if_neg (hnew new), if_neg (by omega), if_neg (Nat.not_lt.2 text.size_le)]
    exact ⟨rfl, by simp⟩

/-! ### Sending again -/

section replay

variable {ε σ : Type}

/-- Calls made one after the other, of which only the last may fail. -/
inductive Sends (send : Entry → Action ε σ Unit) : List Entry → σ → Except ε Unit → σ → Prop
  /-- There is nothing to send. -/
  | done {s : σ} : Sends send [] s (.ok ()) s
  /-- The first entry fails, and the others are not tried. -/
  | failed {entry : Entry} {e : ε} {s t : σ} :
      Action.Yields (send entry) s (.error e) t → Sends send [entry] s (.error e) t
  /-- The first entry is sent, and the rest after it. -/
  | sent {entry : Entry} {entries : List Entry} {r : Except ε Unit} {s t u : σ} :
      Action.Yields (send entry) s (.ok ()) t → Sends send entries t r u →
      Sends send (entry :: entries) s r u

/-- Sending something for each entry comes to an end after some of the entries, and after
all of them if nothing fails.  The calls that were made are those for these entries, in
their order, each in the state that the one before it left. -/
theorem sends_of_forM (send : Entry → Action ε σ Unit) (entries : List Entry) (s : σ) :
    ∃ called left r u, entries = called ++ left ∧ Sends send called s r u ∧
      Action.Yields (entries.forM send) s r u ∧ (r = .ok () → left = []) := by
  induction entries generalizing s with
  | nil => exact ⟨[], [], .ok (), s, rfl, .done, Action.yields_pure.2 ⟨rfl, rfl⟩, fun _ => rfl⟩
  | cons entry entries ih =>
    cases hsend : send entry s with
    | ok _ t =>
      obtain ⟨called, left, r, u, rfl, hsends, hyields, hall⟩ := ih t
      exact ⟨entry :: called, left, r, u, rfl, .sent (.ok hsend) hsends,
        Action.yields_bind.2 (.inr ⟨(), t, .ok hsend, hyields⟩), hall⟩
    | error e t =>
      exact ⟨[entry], entries, .error e, t, rfl, .failed (.error hsend),
        Action.yields_bind.2 (.inl ⟨e, .error hsend, rfl⟩), nofun⟩

end replay

/-- **A registry, its answers and its replay, told from the calls.**  Whatever calls were
made: the entries are the leading filters, each with the level of its latest call; the next
call is answered as the calls tell, and one that is dropped or refused leaves the registry as
it is; and sending again, in whatever way, makes the calls for the first of the entries in
order, up to one that fails, whose failure it gives, or for all of them. -/
theorem after_refines (calls : List (String × QoS)) :
    ((after calls).entries.map fun entry => (entry.filter.text, some entry.qos)) =
        ((leading calls).map fun filter => (filter, calls.reverse.lookup filter)) ∧
      (∀ filter qos,
        ((after calls).record filter qos).map (·.1) = answer calls filter ∧
          (answer calls filter = .ok .dropped ∨ answer calls filter = .error .topicTooLong →
            after (calls ++ [(filter, qos)]) = after calls)) ∧
      ∀ (ε σ : Type) (send : Entry → Action ε σ Unit) (s : σ),
        ∃ called left r u, (after calls).entries = called ++ left ∧ Sends send called s r u ∧
          Action.Yields ((after calls).replay send) s r u ∧ (r = .ok () → left = []) := by
  refine ⟨after_shown calls, fun filter qos => ?_, fun ε σ send s => ?_⟩
  · rw [after_concat]
    exact record_after calls filter qos
  · exact sends_of_forM send (after calls).entries s

end Registry
end Mqtt

/-
# What a registry remembers

`Registry.Recalls` says what is left of the subscriptions that were kept one after the
other: the first filters, as many as there is room for, each with the level it was
subscribed with last.  `Recording` says what a call to keep one does, with its answer; so
keeping one more is `Recalls.record`, and a filter that is short enough to be subscribed to
is never refused (`record_of_fits`).
-/
import Mqtt.Registry

namespace Mqtt
namespace Registry

/-- What a registry holds once some subscriptions were kept, the earliest first. -/
structure Recalls (registry : Registry) (subscriptions : List (String × QoS)) : Prop where
  /-- The first filters in the order of their first subscriptions, each once. -/
  filters : registry.entries.map (·.filter.text) =
    (subscriptions.map (·.1)).eraseDups.take capacity
  /-- Each with the level of its last subscription. -/
  levels : ∀ entry ∈ registry.entries,
    subscriptions.reverse.lookup entry.filter.text = some entry.qos

/-- A registry without entries recalls that there were no subscriptions. -/
theorem recalls_empty : empty.Recalls [] where
  filters := rfl
  levels _ h := nomatch h

/-- A filter is held exactly if it is the text of an entry. -/
theorem holds_iff {registry : Registry} {filter : String} :
    registry.holds filter = true ↔ filter ∈ registry.entries.map (·.filter.text) := by
  simp [holds]

/-- One more text comes last among the distinct ones, unless it is there already. -/
theorem eraseDups_concat (texts : List String) (text : String) :
    (texts ++ [text]).eraseDups = texts.eraseDups ++ if text ∈ texts then [] else [text] := by
  rw [List.eraseDups_append]
  by_cases h : text ∈ texts <;> simp [List.removeAll, h, List.eraseDups_cons]

/-- The level that a filter was subscribed with last is that of the newest subscription,
if it is one to this filter, and otherwise what it was before. -/
theorem lookup_concat (subscriptions : List (String × QoS)) (filter other : String) (qos : QoS) :
    (subscriptions ++ [(filter, qos)]).reverse.lookup other =
      if other = filter then some qos else subscriptions.reverse.lookup other := by
  rw [List.reverse_append, List.reverse_singleton, List.singleton_append, List.lookup_cons]
  by_cases h : other = filter
  · simp [h]
  · simp [h, beq_eq_false_iff_ne.2 h]

/-- The filters and levels in one list, told from the subscriptions alone. -/
theorem Recalls.shown {registry : Registry} {subscriptions : List (String × QoS)}
    (h : registry.Recalls subscriptions) :
    (registry.entries.map fun entry => (entry.filter.text, some entry.qos)) =
      ((subscriptions.map (·.1)).eraseDups.take capacity).map fun filter =>
        (filter, subscriptions.reverse.lookup filter) := by
  rw [← h.filters, List.map_map]
  refine List.map_congr_left fun entry hentry => ?_
  rw [Function.comp_apply, h.levels entry hentry]

/-- Two registries that recall the same are the same. -/
theorem Recalls.unique {registry other : Registry} {subscriptions : List (String × QoS)}
    (h : registry.Recalls subscriptions) (h' : other.Recalls subscriptions) : registry = other := by
  have hinjective : ∀ entry entry' : Entry,
      (entry.filter.text, some entry.qos) = (entry'.filter.text, some entry'.qos) →
        entry = entry' := by
    rintro ⟨⟨text, _⟩, qos⟩ ⟨⟨text', _⟩, qos'⟩ heq
    obtain ⟨rfl, heq⟩ := Prod.mk.inj heq
    cases heq
    rfl
  have hentries : registry.entries = other.entries :=
    (List.map_inj_right hinjective).1 (h.shown.trans h'.shown.symm)
  cases registry
  cases other
  cases hentries
  rfl

/-- What a call to keep a subscription does, one rule for each of its four answers. -/
inductive Recording (registry : Registry) (filter : String) (qos : QoS) :
    Except Fault (Recorded × Registry) → Prop
  /-- A filter that is on record gets the new quality of service, in its place. -/
  | updated : registry.holds filter = true →
      Recording registry filter qos (.ok (.updated, registry.update filter qos))
  /-- A new filter is dropped when there is no room. -/
  | dropped : registry.holds filter = false → registry.size = capacity →
      Recording registry filter qos (.ok (.dropped, registry))
  /-- With room for it, a filter that is too long is refused. -/
  | refused : registry.holds filter = false → registry.size < capacity →
      filterLimit < filter.utf8ByteSize → Recording registry filter qos (.error .topicTooLong)
  /-- Otherwise it is put behind the others. -/
  | inserted {text : BoundedText filterLimit} {next : Registry} :
      registry.holds filter = false → registry.size < capacity → text.text = filter →
      next.entries = registry.entries ++ [⟨text, qos⟩] →
      Recording registry filter qos (.ok (.inserted, next))

/-- Keeping a subscription goes in one of the ways that `Recording` describes, with the
answer that belongs to it. -/
theorem recording (registry : Registry) (filter : String) (qos : QoS) :
    Recording registry filter qos (registry.record filter qos) := by
  unfold record
  split
  case isTrue held => exact .updated held
  case isFalse new =>
    have new := Bool.eq_false_iff.2 new
    split
    case isTrue room =>
      by_cases fits : filter.utf8ByteSize ≤ filterLimit
      · rw [BoundedText.of?_text ⟨filter, fits⟩]
        exact .inserted new room rfl rfl
      · have hlong := Nat.not_le.1 fits
        rw [BoundedText.of?_eq_none_iff.2 hlong]
        exact .refused new room hlong
    case isFalse full =>
      exact .dropped new (Nat.le_antisymm registry.length_le (Nat.not_lt.1 full))

section record

variable {registry next : Registry} {subscriptions : List (String × QoS)} {filter : String}
  {qos : QoS} {outcome : Recorded}

/-- A filter that is short enough is kept or dropped, never refused. -/
theorem record_of_fits (registry : Registry) (qos : QoS)
    (fits : filter.utf8ByteSize ≤ filterLimit) :
    ∃ kept, registry.record filter qos = .ok kept := by
  cases hrecord : registry.record filter qos with
  | ok kept => exact ⟨kept, rfl⟩
  | error fault =>
    have hrecording := registry.recording filter qos
    rw [hrecord] at hrecording
    cases hrecording with
    | refused _ _ long => exact absurd fits (Nat.not_le.2 long)

/-- Subscribing again to a filter that is held changes its level and not its place, as
does the list of first filters when one of them comes once more. -/
theorem Recalls.update (h : registry.Recalls subscriptions) (held : registry.holds filter = true) :
    (registry.update filter qos).Recalls (subscriptions ++ [(filter, qos)]) := by
  have hmem : filter ∈ subscriptions.map (·.1) := by
    have hheld := holds_iff.1 held
    rw [h.filters] at hheld
    exact List.mem_eraseDups.1 (List.mem_of_mem_take hheld)
  have hsame : (registry.update filter qos).entries.map (·.filter.text) =
      registry.entries.map (·.filter.text) := by
    rw [Registry.update, List.map_map]
    refine List.map_congr_left fun entry _ => ?_
    simp only [Function.comp_apply]
    split <;> rfl
  refine ⟨?_, fun entry hentry => ?_⟩
  · rw [hsame, h.filters, List.map_append, List.map_singleton, eraseDups_concat, if_pos hmem,
      List.append_nil]
  · rw [lookup_concat]
    obtain ⟨before, hbefore, rfl⟩ := List.mem_map.1 hentry
    by_cases hfilter : before.filter.text = filter
    · simp [hfilter]
    · simp only [if_neg hfilter]
      exact h.levels before hbefore

/-- Subscribing to a new filter while there is room puts it at the end, which is its place
among the first filters. -/
theorem Recalls.insert {text : BoundedText filterLimit} (h : registry.Recalls subscriptions)
    (new : registry.holds text.text = false) (room : registry.size < capacity)
    (entries : next.entries = registry.entries ++ [⟨text, qos⟩]) :
    next.Recalls (subscriptions ++ [(text.text, qos)]) := by
  have hlength : (subscriptions.map (·.1)).eraseDups.length < capacity := by
    have hsize := congrArg List.length h.filters
    rw [List.length_map, List.length_take] at hsize
    rw [size] at room
    omega
  have hall : registry.entries.map (·.filter.text) = (subscriptions.map (·.1)).eraseDups := by
    rw [h.filters, List.take_of_length_le (Nat.le_of_lt hlength)]
  have hother : text.text ∉ registry.entries.map (·.filter.text) := fun hmem =>
    Bool.false_ne_true (new.symm.trans (holds_iff.2 hmem))
  -- While there is room every filter that was subscribed is on record, so this one is new.
  have hmem : text.text ∉ subscriptions.map (·.1) := by
    rw [hall] at hother
    exact fun hmem => hother (List.mem_eraseDups.2 hmem)
  refine ⟨?_, fun entry hentry => ?_⟩
  · rw [entries, List.map_append, hall, List.map_append, List.map_singleton, List.map_singleton,
      eraseDups_concat, if_neg hmem, List.take_of_length_le]
    rw [List.length_append, List.length_singleton]
    omega
  · rw [lookup_concat]
    rw [entries, List.mem_append, List.mem_singleton] at hentry
    rcases hentry with hentry | rfl
    · have hne : entry.filter.text ≠ text.text := fun he =>
        hother (he ▸ List.mem_map_of_mem hentry)
      rw [if_neg hne]
      exact h.levels entry hentry
    · rw [if_pos rfl]

/-- Subscribing to a new filter when eight are held changes nothing, since the first eight
filters are already there. -/
theorem Recalls.drop (h : registry.Recalls subscriptions) (new : registry.holds filter = false)
    (full : capacity ≤ registry.size) : registry.Recalls (subscriptions ++ [(filter, qos)]) := by
  have hlength : capacity ≤ (subscriptions.map (·.1)).eraseDups.length := by
    have hsize := congrArg List.length h.filters
    rw [List.length_map, List.length_take] at hsize
    rw [size] at full
    omega
  refine ⟨?_, fun entry hentry => ?_⟩
  · rw [h.filters, List.map_append, List.map_singleton, eraseDups_concat,
      List.take_append_of_le_length hlength]
  · have hne : entry.filter.text ≠ filter := by
      rintro rfl
      exact Bool.false_ne_true (new.symm.trans (holds_iff.2 (List.mem_map_of_mem hentry)))
    rw [lookup_concat, if_neg hne]
    exact h.levels entry hentry

/-- **Keeping one more subscription.**  A filter on record is updated in its place, a
new one goes to the end while there is room and is dropped when there is none. -/
theorem Recalls.record (h : registry.Recalls subscriptions)
    (hrecord : registry.record filter qos = .ok (outcome, next)) :
    next.Recalls (subscriptions ++ [(filter, qos)]) := by
  have hrecording := registry.recording filter qos
  rw [hrecord] at hrecording
  cases hrecording with
  | updated held => exact h.update held
  | dropped new full => exact h.drop new (Nat.le_of_eq full.symm)
  | inserted new room htext entries =>
    subst htext
    exact h.insert new room entries

end record

end Registry
end Mqtt

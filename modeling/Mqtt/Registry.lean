/-
# Subscriptions to be restored

A broker may forget a client's subscriptions when the connection breaks, so the
client keeps the filters it has subscribed to, in the order it first did, and
sends them again.  There is room for eight filters of at most 128 bytes.

`record` decides in this order: a filter that is held has its level replaced; a
full registry drops any other filter; a filter that is too long is refused.
-/
import Mqtt.QoS
import Mqtt.Text.Bounded

namespace Mqtt
namespace Registry

/-- How many filters there is room for. -/
def capacity : Nat := 8

/-- The most bytes of a filter. -/
def filterLimit : Nat := 128

/-- A filter and the level it was last subscribed with. -/
structure Entry where
  filter : BoundedText filterLimit
  qos : QoS
  deriving DecidableEq

end Registry

/-- The filters to be restored, oldest first. -/
structure Registry where
  entries : List Registry.Entry
  length_le : entries.length ≤ Registry.capacity
  deriving DecidableEq

/-- What became of a subscription that was to be kept. -/
inductive Recorded where
  | inserted
  | updated
  /-- There was no room, so it will not be restored. -/
  | dropped
  deriving DecidableEq

/-- The name shown for an outcome. -/
def Recorded.text : Recorded → String
  | inserted => "Inserted"
  | updated => "Updated"
  | dropped => "Dropped"

namespace Registry

/-- The registry that holds nothing. -/
def empty : Registry := ⟨[], by decide⟩

/-- The registry of a session in which nothing has been subscribed. -/
instance : Inhabited Registry := ⟨empty⟩

/-- How many filters are held. -/
def size (registry : Registry) : Nat := registry.entries.length

/-- The filter is held. -/
def holds (registry : Registry) (filter : String) : Bool :=
  registry.entries.any fun e => e.filter.text = filter

/-- The registry with the level of one filter replaced. -/
def update (registry : Registry) (filter : String) (qos : QoS) : Registry where
  entries := registry.entries.map fun e => if e.filter.text = filter then { e with qos } else e
  length_le := by simpa using registry.length_le

/-- Keeps a subscription, and says what became of it. -/
def record (registry : Registry) (filter : String) (qos : QoS) :
    Except Fault (Recorded × Registry) :=
  if registry.holds filter then .ok (.updated, registry.update filter qos)
  else if h : registry.size < capacity then
    match BoundedText.of? filter with
    | some filter => .ok (.inserted, ⟨registry.entries ++ [⟨filter, qos⟩], by
        rw [List.length_append]; exact h⟩)
    | none => .error .topicTooLong
  else .ok (.dropped, registry)

/-- Sends every subscription again, oldest first. -/
def replay {m : Type → Type} [Monad m] (registry : Registry) (send : Entry → m Unit) : m Unit :=
  registry.entries.forM send

end Registry
end Mqtt

import ActiveObjects.Event.Basic

/-!
# The event bus

The bus keeps all that was published. A receiver is a position in that history: it is told what
was published after it subscribed, and when more came than the bus has room for, only the latest.
-/

namespace ActiveObjects

/-- What a receiver finds: how many events it missed, and those that are left for it. -/
structure EventBacklog where
  missed : Nat
  events : List RuntimeEvent
deriving DecidableEq

structure EventBus where
  capacity : Nat
  /-- All events, oldest first. -/
  published : List RuntimeEvent := []
  /-- For each receiver the number of events that it is past. -/
  receivers : List (Nat × Nat) := []
  nextReceiver : Nat := 0

namespace EventBus

/-- The least power of two that is at least `n`, and at least one. -/
def roundUp (n : Nat) : Nat := if n ≤ 1 then 1 else Nat.pow 2 ((n - 1).log2 + 1)

/-- How many events the bus has room for. -/
def room (bus : EventBus) : Nat := roundUp bus.capacity

def publish (bus : EventBus) (event : RuntimeEvent) : EventBus :=
  { bus with published := bus.published ++ [event] }

/-- Adds a receiver of the events to come. -/
def subscribe (bus : EventBus) : Nat × EventBus :=
  (bus.nextReceiver,
    { bus with
      receivers := bus.receivers ++ [(bus.nextReceiver, bus.published.length)]
      nextReceiver := bus.nextReceiver + 1 })

def unsubscribe (bus : EventBus) (receiver : Nat) : EventBus :=
  { bus with receivers := bus.receivers.filter (·.1 ≠ receiver) }

def subscriberCount (bus : EventBus) : Nat := bus.receivers.length

/-- What a receiver has not read yet. -/
def backlog (bus : EventBus) (position : Nat) : EventBacklog :=
  let unread := bus.published.drop position
  let missed := unread.length - bus.room
  ⟨missed, unread.drop missed⟩

/-- Reads all that is there for a receiver. -/
def drain (bus : EventBus) (receiver : Nat) : Option (EventBacklog × EventBus) :=
  (bus.receivers.lookup receiver).map fun position =>
    (bus.backlog position,
      { bus with receivers := bus.receivers.map fun (key, position) =>
          if key = receiver then (key, bus.published.length) else (key, position) })

end EventBus

end ActiveObjects

/-!
# The event bus

Every subscriber has a backlog of its own, which holds a limited number of messages. A subscriber
that falls behind loses the oldest of them and is told how many it lost.
-/

set_option autoImplicit false

namespace HidPointer

/-- What has been published to a subscriber and not yet been taken by it. -/
structure Backlog (α : Type) where
  lost : Nat := 0
  held : List α := []
  deriving Repr

inductive Delivery (α : Type) where
  /-- So many messages were lost before the next one. -/
  | lagged (count : Nat)
  | message (value : α)
  deriving Repr

namespace Backlog

variable {α : Type}

/-- The number of messages a backlog holds. -/
def limit : Nat := 256

def add (backlog : Backlog α) (value : α) : Backlog α :=
  if backlog.held.length < limit then { backlog with held := backlog.held ++ [value] }
  else { lost := backlog.lost + 1, held := backlog.held.drop 1 ++ [value] }

/-- All that a subscriber finds: first how far it lagged, if it did, then the messages. -/
def deliveries (backlog : Backlog α) : List (Delivery α) :=
  (if backlog.lost = 0 then [] else [.lagged backlog.lost]) ++ backlog.held.map .message

end Backlog

/-- The backlogs of all subscribers in the order of their subscription. A subscriber that left
keeps its place. -/
structure EventBus (α : Type) where
  subscribers : List (Option (Backlog α)) := []
  deriving Repr

namespace EventBus

variable {α : Type}

/-- A new subscriber, which sees what is published from now on. Its number comes with the bus. -/
def subscribe (bus : EventBus α) : EventBus α × Nat :=
  ({ subscribers := bus.subscribers ++ [some {}] }, bus.subscribers.length)

def publish (bus : EventBus α) (value : α) : EventBus α :=
  { subscribers := bus.subscribers.map (·.map (·.add value)) }

def publishAll (bus : EventBus α) (values : List α) : EventBus α :=
  values.foldl publish bus

/-- What a subscriber finds; nothing is left in its backlog. -/
def take (bus : EventBus α) (subscriber : Nat) : EventBus α × Option (List (Delivery α)) :=
  match bus.subscribers[subscriber]?.join with
  | none => (bus, none)
  | some backlog =>
      ({ subscribers := bus.subscribers.set subscriber (some {}) }, some backlog.deliveries)

/-- Ends a subscription. Tells whether there was one. -/
def leave (bus : EventBus α) (subscriber : Nat) : EventBus α × Bool :=
  match bus.subscribers[subscriber]?.join with
  | none => (bus, false)
  | some _ => ({ subscribers := bus.subscribers.set subscriber none }, true)

end EventBus

end HidPointer

import KeysetPaging.Tally

/-!
# Receivers of events

Events go to the receiver in place, and to the tally if there is none. There is a single place, and a
scope puts its own receiver there while it is open. What was there before it keeps in a guard, and
dropping the guard puts it back; scopes drop their guards however they end. Scopes are numbered in the
order in which they open.
-/

namespace KeysetPaging

structure Metrics where
  tally : Tally
  /-- The scope whose receiver is in place. -/
  receiver : Option Nat
  /-- How many scopes have been opened. -/
  opened : Nat
  /-- What receivers of scopes were handed, one event after another. -/
  received : List (Nat × Event)

namespace Metrics

def start : Metrics where
  tally := .zero
  receiver := none
  opened := 0
  received := []

/-- Hands an event to the receiver in place. -/
def record (metrics : Metrics) (event : Event) : Metrics :=
  match metrics.receiver with
  | none => { metrics with tally := metrics.tally.count event }
  | some scope => { metrics with received := metrics.received ++ [(scope, event)] }

def deliver (metrics : Metrics) (events : List Event) : Metrics :=
  events.foldl record metrics

def resetTally (metrics : Metrics) : Metrics :=
  { metrics with tally := .zero }

/-- What was in place of the receiver before a scope was opened. -/
structure Guard where
  before : Option Nat

/-- Puts the receiver of a new scope in place. -/
def enter (metrics : Metrics) : Metrics × Guard :=
  ({ metrics with receiver := some metrics.opened, opened := metrics.opened + 1 },
    ⟨metrics.receiver⟩)

/-- Puts the receiver from before back. -/
def Guard.drop (guard : Guard) (metrics : Metrics) : Metrics :=
  { metrics with receiver := guard.before }

/-- What a receiver that serves some of the scopes was handed. -/
def handedTo (metrics : Metrics) (serves : Nat → Bool) : List Event :=
  (metrics.received.filter fun delivery => serves delivery.1).map Prod.snd

/-- What the receiver of one scope was handed. -/
def receivedBy (metrics : Metrics) (scope : Nat) : List Event :=
  metrics.handedTo (· == scope)

/-- Outside of scopes every event is counted. -/
theorem deliver_of_none {metrics : Metrics} (outside : metrics.receiver = none)
    (events : List Event) :
    metrics.deliver events = { metrics with tally := metrics.tally.countAll events } := by
  induction events generalizing metrics with
  | nil => rfl
  | cons event rest ih =>
      have counted : metrics.record event = { metrics with tally := metrics.tally.count event } := by
        rw [record, outside]
      have last : (metrics.record event).receiver = none := by
        rw [counted]
        exact outside
      change (metrics.record event).deliver rest = _
      rw [ih last, counted]
      rfl

/-- In a scope every event goes to the receiver of the scope. -/
theorem deliver_of_some {metrics : Metrics} {scope : Nat} (inside : metrics.receiver = some scope)
    (events : List Event) :
    metrics.deliver events =
      { metrics with received := metrics.received ++ events.map fun event => (scope, event) } := by
  induction events generalizing metrics with
  | nil => simp [deliver]
  | cons event rest ih =>
      have handed : metrics.record event =
          { metrics with received := metrics.received ++ [(scope, event)] } := by
        rw [record, inside]
      have last : (metrics.record event).receiver = some scope := by
        rw [handed]
        exact inside
      change (metrics.record event).deliver rest = _
      rw [ih last, handed, List.map_cons, List.append_assoc, List.singleton_append]

variable (metrics : Metrics) (events : List Event)

@[simp] theorem receiver_deliver : (metrics.deliver events).receiver = metrics.receiver := by
  cases place : metrics.receiver with
  | none => rw [deliver_of_none place, place]
  | some scope => rw [deliver_of_some place, place]

@[simp] theorem opened_deliver : (metrics.deliver events).opened = metrics.opened := by
  cases place : metrics.receiver with
  | none => rw [deliver_of_none place]
  | some scope => rw [deliver_of_some place]

theorem tally_deliver :
    (metrics.deliver events).tally =
      if metrics.receiver = none then metrics.tally.countAll events else metrics.tally := by
  cases place : metrics.receiver with
  | none => rw [deliver_of_none place, if_pos rfl]
  | some scope => rw [deliver_of_some place, if_neg (Option.some_ne_none scope)]

end Metrics

end KeysetPaging

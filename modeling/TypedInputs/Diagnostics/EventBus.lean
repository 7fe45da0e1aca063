/-
# The event bus

A bus numbers the events that are published and keeps them in a queue of bounded size; an event that
finds the queue full is dropped and counted. While the bus runs, a worker takes events from the head
of the queue and hands each to every observer. An observer that fails on an event loses that event,
and the others do not notice.

| operation | on a stopped bus | on a running bus |
| --- | --- | --- |
| `publish` | queues or drops | queues or drops |
| `start` | runs | nothing |
| `step` | nothing | delivers the head of the queue |
| `shutdown` | nothing | delivers the whole queue and stops |
-/

import TypedInputs.Diagnostics.Event

namespace TypedInputs
namespace Diagnostics

/-- What an observer does with events. -/
inductive ObserverKind where
  /-- keeps every event -/
  | memory
  /-- prints every event that has a line -/
  | printer
  /-- fails on the events that it does not accept -/
  | selective (accepts : Event → Bool)

/-- An observer with the events that it has handled, oldest first. -/
structure Observer where
  kind : ObserverKind
  seen : List Event

namespace Observer

/-- An observer that keeps every event. -/
def memory : Observer := ⟨.memory, []⟩

/-- An observer that prints every event. -/
def printer : Observer := ⟨.printer, []⟩

/-- An observer that fails on every event. -/
def failing : Observer := ⟨.selective fun _ => false, []⟩

/-- An observer of a kind handles an event without failing. -/
def accepts (o : Observer) (e : Event) : Bool :=
  match o.kind with
  | .memory => true
  | .printer => e.line.toBool
  | .selective accepts => accepts e

/-- An observer after an event was handed to it. -/
def handle (e : Event) (o : Observer) : Observer :=
  if o.accepts e then { o with seen := o.seen ++ [e] } else o

/-- The events of a stage that an observer has handled. -/
def byStage (o : Observer) (stage : String) : List Event := o.seen.filter fun e => e.stage == stage

/-- The line that an observer prints for an event. -/
def line? (o : Observer) (e : Event) : Option String :=
  match o.kind with
  | .printer => e.line.toOption
  | .memory | .selective _ => none

end Observer

/-- An event bus. -/
structure EventBus where
  observers : List Observer
  capacity : Nat
  queue : List Event
  published : Nat
  dropped : Nat
  delivered : List Event
  running : Bool

namespace EventBus

/-- The capacity of a bus unless another one is asked for. -/
def defaultCapacity : Int := 10000

/-- A new bus, not running. It has room for one event at least. -/
def create (observers : List Observer) (capacity : Int) : EventBus :=
  { observers, capacity := max 1 capacity.toNat, queue := [], published := 0, dropped := 0,
    delivered := [], running := false }

/-- The bus with an event handed to every observer. -/
def deliver (bus : EventBus) (e : Event) : EventBus :=
  { bus with observers := bus.observers.map (Observer.handle e), delivered := bus.delivered ++ [e] }

/-- The bus with a notice published: it has the next number, and is queued or dropped. -/
def publish (bus : EventBus) (n : Notice) : EventBus :=
  let number := bus.published + 1
  if bus.queue.length < bus.capacity then
    { bus with published := number, queue := bus.queue ++ [{ n with number }] }
  else { bus with published := number, dropped := bus.dropped + 1 }

/-- The bus running. -/
def start (bus : EventBus) : EventBus := { bus with running := true }

/-- The bus after the worker's next step. -/
def step (bus : EventBus) : EventBus :=
  match bus.running, bus.queue with
  | true, e :: rest => { bus with queue := rest }.deliver e
  | _, _ => bus

/-- The bus with everything in its queue delivered. -/
def drain (bus : EventBus) : EventBus := bus.queue.foldl deliver { bus with queue := [] }

/-- The bus after its worker has had all the time that it needs. -/
def settle (bus : EventBus) : EventBus := if bus.running then bus.drain else bus

/-- The bus stopped. A running bus delivers what it has queued. -/
def shutdown (bus : EventBus) : EventBus :=
  if bus.running then { bus with running := false }.drain else bus

/-- The lines that the observers of a bus have printed. -/
def printed (bus : EventBus) : List String :=
  bus.delivered.flatMap fun e => bus.observers.filterMap fun o => o.line? e

end EventBus
end Diagnostics
end TypedInputs

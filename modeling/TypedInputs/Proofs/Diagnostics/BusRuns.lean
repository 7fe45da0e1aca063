/-
# Runs of an event bus

Publishing, starting, stepping and shutting down come in any order. Whatever they do to a bus adds up
(`Progress`): what it accepted grows at the end by some of the events that were published, the others
were dropped and counted, and what it has delivered it has handed to every observer. One operation
makes progress (`progress_apply`), so a run of them does (`progress_run`).

From there the laws of a run follow (`conserved_run`). A notice published in its course is dropped
exactly when it found the queue full (`not_mem_accepted_iff`): numbers grow, so it cannot come in later.
Since no number stands twice in a run, an observer that fails by what came before is one that fails by
the number of the event.
-/

import Mathlib.Data.List.Forall2
import TypedInputs.Proofs.Diagnostics.EventBus

namespace TypedInputs
namespace Diagnostics

/-! ### Observers -/

namespace Observer

/-- An observer after events were handed to it one after the other. -/
def handleAll (events : List Event) (o : Observer) : Observer :=
  events.foldl (fun o e => o.handle e) o

/-- An observer keeps what it does not fail on, whatever it fails on. -/
theorem handleAll_eq (events : List Event) (o : Observer) :
    o.handleAll events = { o with seen := o.seen ++ events.filter o.accepts } := by
  induction events generalizing o with
  | nil => simp [handleAll]
  | cons e rest ih =>
    show handleAll rest (o.handle e) = _
    rw [ih]
    unfold handle
    split_ifs with haccepts
    · rw [List.filter_cons_of_pos haccepts]
      exact congrArg (Observer.mk o.kind) (List.append_cons ..).symm
    · rw [List.filter_cons_of_neg haccepts]

end Observer

namespace EventBus

variable {bus bus' bus'' : EventBus}

/-! ### Numbers -/

/-- Notices are numbered in a row, from the last number on. -/
theorem map_number_numbered (last : Nat) (notices : List Notice) :
    (numbered last notices).map Event.number = List.range' (last + 1) notices.length :=
  List.ext_getElem (by simp [numbered]) fun i _ _ => by simp [numbered]; omega

/-- A number is among those that the notices take. -/
theorem number_bounds {last : Nat} {notices : List Notice} {e : Event}
    (he : e ∈ numbered last notices) : last < e.number ∧ e.number ≤ last + notices.length := by
  have hnumber : e.number ∈ (numbered last notices).map Event.number := List.mem_map_of_mem he
  rw [map_number_numbered, List.mem_range'_1] at hnumber
  omega

/-! ### Operations -/

/-- What can be done with a bus. -/
inductive Operation where
  | publish (n : Notice)
  | start
  | step
  | shutdown

/-- The bus after an operation. -/
def apply (bus : EventBus) : Operation → EventBus
  | .publish n => bus.publish n
  | .start => bus.start
  | .step => bus.step
  | .shutdown => bus.shutdown

/-- The bus after operations one after the other. -/
def run (bus : EventBus) (ops : List Operation) : EventBus := ops.foldl apply bus

/-- What an operation publishes. -/
def Operation.notice? : Operation → Option Notice
  | .publish n => some n
  | .start | .step | .shutdown => none

/-- What operations publish, in order. -/
def notices (ops : List Operation) : List Notice := ops.filterMap Operation.notice?

/-- What happened between two states of a bus in which notices were published. -/
structure Progress (bus : EventBus) (published : List Notice) (bus' : EventBus) : Prop where
  accepted : ∃ taken, bus'.accepted = bus.accepted ++ taken ∧
    taken.Sublist (numbered bus.published published) ∧
    taken.length + bus'.dropped = bus.dropped + published.length
  delivered : ∃ handed, bus'.delivered = bus.delivered ++ handed ∧
    bus'.observers = bus.observers.map (Observer.handleAll handed)
  published : bus'.published = bus.published + published.length
  capacity : bus'.capacity = bus.capacity
  length_queue_le : bus.queue.length ≤ bus.capacity → bus'.queue.length ≤ bus.capacity

/-- **Progress on progress.** The notices of both runs were offered one after the other. -/
theorem Progress.trans {earlier later : List Notice} (h : Progress bus earlier bus')
    (h' : Progress bus' later bus'') : Progress bus (earlier ++ later) bus'' where
  accepted := by
    obtain ⟨taken, haccepted, hsublist, hcount⟩ := h.accepted
    obtain ⟨taken', haccepted', hsublist', hcount'⟩ := h'.accepted
    refine ⟨taken ++ taken', by rw [haccepted', haccepted, List.append_assoc], ?_, ?_⟩
    · rw [numbered_append, ← h.published]
      exact hsublist.append hsublist'
    · rw [List.length_append, List.length_append]
      omega
  delivered := by
    obtain ⟨handed, hdelivered, hobservers⟩ := h.delivered
    obtain ⟨handed', hdelivered', hobservers'⟩ := h'.delivered
    refine ⟨handed ++ handed', by rw [hdelivered', hdelivered, List.append_assoc], ?_⟩
    rw [hobservers', hobservers, List.map_map]
    exact List.map_congr_left fun o _ => (List.foldl_append ..).symm
  published := by rw [h'.published, h.published, List.length_append, Nat.add_assoc]
  capacity := h'.capacity.trans h.capacity
  length_queue_le hroom := by
    have hfirst := h.length_queue_le hroom
    have hsecond := h'.length_queue_le
    rw [h.capacity] at hsecond
    exact hsecond hfirst

/-- Delivery is progress in which nothing is published. -/
theorem SameAccount.progress (h : SameAccount bus bus')
    (hdelivered : ∃ handed, bus'.delivered = bus.delivered ++ handed ∧
      bus'.observers = bus.observers.map (Observer.handleAll handed)) :
    Progress bus [] bus' where
  accepted := ⟨[], by rw [h.accepted, List.append_nil], List.nil_sublist _, by
    rw [h.dropped, Nat.add_comm]; rfl⟩
  delivered := hdelivered
  published := h.published
  capacity := h.capacity
  length_queue_le := Nat.le_trans h.length_queue_le

/-- Nothing handed out leaves the observers as they are. -/
theorem handed_nil (bus : EventBus) : ∃ handed, bus.delivered = bus.delivered ++ handed ∧
    bus.observers = bus.observers.map (Observer.handleAll handed) :=
  ⟨[], (List.append_nil _).symm, (List.map_id _).symm⟩

/-- No operation is progress without a notice. -/
theorem Progress.refl (bus : EventBus) : Progress bus [] bus :=
  SameAccount.progress ⟨rfl, rfl, rfl, rfl, Nat.le.refl⟩ (handed_nil bus)

/-- Events handed out one after the other come to every observer in this order. -/
theorem foldl_deliver (events : List Event) (bus : EventBus) :
    (events.foldl deliver bus).delivered = bus.delivered ++ events ∧
      (events.foldl deliver bus).observers = bus.observers.map (Observer.handleAll events) ∧
      (events.foldl deliver bus).queue = bus.queue ∧
      (events.foldl deliver bus).running = bus.running := by
  induction events generalizing bus with
  | nil => exact ⟨(List.append_nil _).symm, (List.map_id _).symm, rfl, rfl⟩
  | cons e rest ih =>
    obtain ⟨hdelivered, hobservers, hqueue, hrunning⟩ := ih (bus.deliver e)
    refine ⟨hdelivered.trans (List.append_cons ..).symm, hobservers.trans ?_, hqueue, hrunning⟩
    exact List.map_map

/-- **Stopping a running bus** delivers all that waits. -/
theorem shutdown_of_running (h : bus.running = true) :
    bus.shutdown.queue = [] ∧ bus.shutdown.running = false ∧
      bus.shutdown.delivered = bus.delivered ++ bus.queue := by
  obtain ⟨hdelivered, -, hqueue, hrunning⟩ :=
    foldl_deliver bus.queue { bus with running := false, queue := [] }
  rw [shutdown, if_pos h]
  exact ⟨hqueue, hrunning, hdelivered⟩

/-- A bus that does not run is not shut down again. -/
theorem shutdown_of_stopped (h : bus.running = false) : bus.shutdown = bus := by
  rw [shutdown, h]
  rfl

/-- A bus that runs is not started again. -/
theorem start_of_running (h : bus.running = true) : bus.start = bus := by
  rw [start, ← h]

/-- Delivering what is queued is progress. -/
theorem progress_foldl_deliver (events waiting : List Event) (bus : EventBus) :
    Progress { bus with queue := events ++ waiting } []
      (events.foldl deliver { bus with queue := waiting }) := by
  obtain ⟨hdelivered, hobservers, -, -⟩ := foldl_deliver events { bus with queue := waiting }
  exact (sameAccount_foldl_deliver events waiting bus).progress ⟨events, hdelivered, hobservers⟩

/-- A publication is progress: the notice is queued, or dropped and counted. -/
theorem progress_publish (bus : EventBus) (n : Notice) : Progress bus [n] (bus.publish n) := by
  by_cases hroom : bus.queue.length < bus.capacity
  · rw [publish_of_room hroom]
    refine ⟨⟨[{ n with number := bus.published + 1 }], ?_, List.Sublist.refl _, Nat.add_comm ..⟩,
      handed_nil bus, rfl, rfl, fun _ => ?_⟩
    · exact (List.append_assoc ..).symm
    · rw [List.length_append]
      exact hroom
  · rw [publish_of_full hroom]
    exact ⟨⟨[], (List.append_nil _).symm, List.nil_sublist _, Nat.zero_add _⟩, handed_nil bus, rfl,
      rfl, id⟩

/-- **One operation** makes progress. -/
theorem progress_apply (bus : EventBus) (op : Operation) :
    Progress bus op.notice?.toList (bus.apply op) := by
  cases op with
  | publish n => exact progress_publish bus n
  | start => exact SameAccount.progress ⟨rfl, rfl, rfl, rfl, Nat.le.refl⟩ (handed_nil bus)
  | step =>
    show Progress bus [] bus.step
    rcases bus with ⟨observers, capacity, _ | ⟨e, rest⟩, published, dropped, delivered, _ | _⟩
    · exact .refl _
    · exact .refl _
    · exact .refl _
    · exact progress_foldl_deliver [e] rest
        ⟨observers, capacity, rest, published, dropped, delivered, true⟩
  | shutdown =>
    show Progress bus [] bus.shutdown
    unfold shutdown
    split_ifs
    · have hall := progress_foldl_deliver bus.queue [] { bus with running := false }
      rw [List.append_nil] at hall
      exact ⟨hall.accepted, hall.delivered, hall.published, hall.capacity, hall.length_queue_le⟩
    · exact .refl bus

/-- **A run** makes progress. -/
theorem progress_run (bus : EventBus) (ops : List Operation) :
    Progress bus (notices ops) (bus.run ops) := by
  induction ops generalizing bus with
  | nil => exact .refl bus
  | cons op rest ih =>
    have hnotices : notices (op :: rest) = op.notice?.toList ++ notices rest := by
      cases op <;> rfl
    rw [hnotices]
    exact (progress_apply bus op).trans (ih (bus.apply op))

/-- A new bus has accepted, in order, some of the events that were published. -/
theorem accepted_run_sublist (observers : List Observer) (size : Int) (ops : List Operation) :
    ((create observers size).run ops).accepted.Sublist (numbered 0 (notices ops)) := by
  obtain ⟨taken, haccepted, hsublist, -⟩ := (progress_run (create observers size) ops).accepted
  rw [haccepted]
  exact hsublist

/-- **What is dropped.** An event published in the course of a run is missing from what the bus accepted
exactly when it found the queue full. -/
theorem not_mem_accepted_iff (observers : List Observer) (size : Int) (before after : List Operation)
    (n : Notice) :
    { n with number := (notices before).length + 1 } ∉
        ((create observers size).run (before ++ .publish n :: after)).accepted ↔
      ((create observers size).run before).queue.length = (create observers size).capacity := by
  have hbefore := progress_run (create observers size) before
  have hsublist := accepted_run_sublist observers size before
  have hsplit : (create observers size).run (before ++ .publish n :: after) =
      (((create observers size).run before).publish n).run after := List.foldl_append ..
  have hle := hbefore.length_queue_le (Nat.zero_le _)
  have hcapacity := hbefore.capacity
  have hnumber := hbefore.published
  rw [show (create observers size).published = 0 from rfl, Nat.zero_add] at hnumber
  rw [hsplit]
  generalize (create observers size).run before = bus at *
  obtain ⟨later, haccepted, hlater, -⟩ := (progress_run (bus.publish n) after).accepted
  rw [haccepted, List.mem_append, ← hnumber, ← hcapacity]
  by_cases hroom : bus.queue.length < bus.capacity
  · have hqueued : { n with number := bus.published + 1 } ∈ (bus.publish n).accepted := by
      rw [publish_of_room hroom]
      simp [accepted]
    exact iff_of_false (fun hmissing => hmissing (.inl hqueued)) (Nat.ne_of_lt hroom)
  · rw [publish_of_full hroom] at hlater ⊢
    refine iff_of_true ?_ (by omega)
    -- What was accepted before has a smaller number, and what was accepted later a greater one.
    rintro (hold | hnew)
    · have hbounds := number_bounds (hsublist.subset hold)
      dsimp only at hbounds
      omega
    · have hbounds := number_bounds (hlater.subset hnew)
      dsimp only at hbounds
      omega

/-! ### The laws of a run -/

/-- What holds of a bus with observers and a size asked for after operations on it. -/
structure Conserved (observers : List Observer) (size : Int) (ops : List Operation)
    (bus : EventBus) : Prop where
  /-- the queue is bounded -/
  length_queue_le : (bus.queue.length : Int) ≤ max 1 size
  /-- every publication is numbered -/
  published : bus.published = (notices ops).length
  /-- nothing is delivered or queued but what was published, in order -/
  sublist : (bus.delivered ++ bus.queue).Sublist (numbered 0 (notices ops))
  /-- numbers ascend, and none stands twice -/
  ascending : ((bus.delivered ++ bus.queue).map Event.number).Pairwise (· < ·)
  /-- nothing is lost without being counted -/
  count : bus.delivered.length + bus.queue.length + bus.dropped = bus.published
  /-- what is missing found the queue full -/
  dropped : ∀ before n after, ops = before ++ .publish n :: after →
    ({ n with number := (notices before).length + 1 } ∉ bus.delivered ++ bus.queue ↔
      (((create observers size).run before).queue.length : Int) = max 1 size)
  /-- every observer has seen what was delivered, except for what it failed on -/
  observers : List.Forall₂ (fun o o' => o'.kind = o.kind ∧
    o'.seen = o.seen ++ bus.delivered.filter o.accepts ∧
    ((∀ e ∈ bus.delivered, o.accepts e) → o'.seen = o.seen ++ bus.delivered))
    observers bus.observers
  /-- stopping a running bus delivers all that waits, and starting it does nothing -/
  of_running : bus.running = true → bus.shutdown.queue = [] ∧ bus.shutdown.running = false ∧
    bus.shutdown.delivered = bus.delivered ++ bus.queue ∧ bus.start = bus
  /-- stopping a stopped bus does nothing -/
  of_stopped : bus.running = false → bus.shutdown = bus

/-- The capacity of a bus is the size that was asked for, and one at least. -/
theorem capacity_create (observers : List Observer) (size : Int) :
    ((create observers size).capacity : Int) = max 1 size := by
  show ((max 1 size.toNat : Nat) : Int) = max 1 size
  omega

/-- **Nothing is lost, repeated or reordered** by a bus, whatever is done with it and whatever its
observers fail on. -/
theorem conserved_run (observers : List Observer) (size : Int) (ops : List Operation) :
    Conserved observers size ops ((create observers size).run ops) := by
  have hprogress := progress_run (create observers size) ops
  have hsublist := accepted_run_sublist observers size ops
  have hcapacity := capacity_create observers size
  obtain ⟨handed, hdelivered, hobservers⟩ := hprogress.delivered
  obtain rfl : _ = handed := hdelivered
  refine { length_queue_le := ?queue, published := ?published, sublist := hsublist,
           ascending := ?ascending, count := ?count, dropped := ?dropped,
           observers := ?observers, of_running := ?running, of_stopped := shutdown_of_stopped }
  case queue =>
    have hle := hprogress.length_queue_le (Nat.zero_le _)
    omega
  case published => exact hprogress.published.trans (Nat.zero_add _)
  case ascending =>
    have hnumbers : ((numbered 0 (notices ops)).map Event.number).Pairwise (· < ·) := by
      rw [map_number_numbered]
      exact List.pairwise_lt_range'
    exact hnumbers.sublist (hsublist.map Event.number)
  case count =>
    obtain ⟨taken, haccepted, -, hcount⟩ := hprogress.accepted
    have hlength := congrArg List.length haccepted
    rw [accepted, List.length_append] at hlength
    rw [hprogress.published, hlength]
    exact hcount
  case dropped =>
    rintro before n after rfl
    rw [← hcapacity, Int.natCast_inj]
    exact not_mem_accepted_iff observers size before after n
  case observers =>
    rw [hobservers, List.forall₂_map_right_iff]
    refine List.forall₂_same.2 fun o _ => ?_
    rw [Observer.handleAll_eq]
    exact ⟨rfl, rfl, fun hall => congrArg (o.seen ++ ·) (List.filter_eq_self.2 hall)⟩
  case running =>
    intro hrunning
    obtain ⟨hqueue, hstopped, hall⟩ := shutdown_of_running hrunning
    exact ⟨hqueue, hstopped, hall, start_of_running hrunning⟩

end EventBus
end Diagnostics
end TypedInputs

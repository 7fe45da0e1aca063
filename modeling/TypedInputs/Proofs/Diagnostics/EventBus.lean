/-
# What an event bus accepts

A bus has accepted what it has delivered and, behind that, what waits in its queue. Delivery moves
events from the queue to the delivered ones and so leaves what was accepted as it is
(`sameAccount_settle`). Publishing to a bus with room adds one event at the end, under the next number,
and drops nothing (`takes_publish`); a run of such steps takes its notices one behind the other
(`Takes.trans`).
-/

import TypedInputs.Diagnostics.EventBus

namespace TypedInputs
namespace Diagnostics
namespace EventBus

variable {bus bus' bus'' : EventBus}

/-- The events that were published and not dropped, in order. -/
def accepted (bus : EventBus) : List Event := bus.delivered ++ bus.queue

/-- With room in the queue a notice is numbered and queued. -/
theorem publish_of_room (h : bus.queue.length < bus.capacity) (n : Notice) :
    bus.publish n = { bus with
      published := bus.published + 1
      queue := bus.queue ++ [{ n with number := bus.published + 1 }] } := by
  rw [publish]
  exact if_pos h

/-- A notice that finds the queue full is numbered and dropped. -/
theorem publish_of_full (h : ¬bus.queue.length < bus.capacity) (n : Notice) :
    bus.publish n = { bus with published := bus.published + 1, dropped := bus.dropped + 1 } := by
  rw [publish]
  exact if_neg h

/-- Two buses that differ in what they have delivered and to whom, and not in what they accepted. -/
structure SameAccount (bus bus' : EventBus) : Prop where
  accepted : bus'.accepted = bus.accepted
  published : bus'.published = bus.published
  dropped : bus'.dropped = bus.dropped
  capacity : bus'.capacity = bus.capacity
  length_queue_le : bus'.queue.length ≤ bus.queue.length

/-- Events handed out from in front of the queue. -/
theorem sameAccount_foldl_deliver (events waiting : List Event) (bus : EventBus) :
    SameAccount { bus with queue := events ++ waiting }
      (events.foldl deliver { bus with queue := waiting }) := by
  induction events generalizing bus with
  | nil => exact ⟨rfl, rfl, rfl, rfl, Nat.le.refl⟩
  | cons e rest ih =>
    obtain ⟨haccepted, hpublished, hdropped, hcapacity, hlength⟩ := ih (bus.deliver e)
    have hmoved : (bus.delivered ++ [e]) ++ (rest ++ waiting) =
        bus.delivered ++ (e :: rest ++ waiting) := by simp
    refine ⟨haccepted.trans hmoved, hpublished, hdropped, hcapacity, Nat.le_trans hlength ?_⟩
    simp

/-- Draining the queue accepts and drops nothing. -/
theorem sameAccount_drain (bus : EventBus) : SameAccount bus bus.drain := by
  have h := sameAccount_foldl_deliver bus.queue [] bus
  rwa [List.append_nil] at h

/-- **Delivery leaves what was accepted as it is.** -/
theorem sameAccount_settle (bus : EventBus) : SameAccount bus bus.settle := by
  unfold settle
  split
  · exact sameAccount_drain bus
  · exact ⟨rfl, rfl, rfl, rfl, Nat.le.refl⟩

/-- Notices with the numbers that follow the last one. -/
def numbered (last : Nat) (notices : List Notice) : List Event :=
  notices.mapIdx fun i n => { n with number := last + i + 1 }

/-- Later notices are numbered on from the earlier ones. -/
theorem numbered_append (last : Nat) (notices later : List Notice) :
    numbered last (notices ++ later) =
      numbered last notices ++ numbered (last + notices.length) later := by
  have hnumber : ∀ i, last + (i + notices.length) + 1 = last + notices.length + i + 1 :=
    fun i => by omega
  unfold numbered
  rw [List.mapIdx_append]
  simp only [hnumber]

/-- A bus that has taken notices and dropped none: they are the next events, in order. -/
structure Takes (bus : EventBus) (notices : List Notice) (bus' : EventBus) : Prop where
  accepted : bus'.accepted =
    bus.accepted ++ notices.mapIdx fun i n => { n with number := bus.published + i + 1 }
  published : bus'.published = bus.published + notices.length
  dropped : bus'.dropped = bus.dropped
  capacity : bus'.capacity = bus.capacity
  length_queue_le : bus'.queue.length ≤ bus.queue.length + notices.length

theorem takes_nil (bus : EventBus) : Takes bus [] bus :=
  ⟨(List.append_nil _).symm, rfl, rfl, rfl, Nat.le.refl⟩

/-- **Notices that are taken one after the other are taken together.** -/
theorem Takes.trans {notices later : List Notice} (h : Takes bus notices bus')
    (h' : Takes bus' later bus'') : Takes bus (notices ++ later) bus'' where
  accepted := by
    rw [h'.accepted, h.accepted, List.append_assoc, h.published]
    exact congrArg (bus.accepted ++ ·) (numbered_append bus.published notices later).symm
  published := by rw [h'.published, h.published, List.length_append, Nat.add_assoc]
  dropped := h'.dropped.trans h.dropped
  capacity := h'.capacity.trans h.capacity
  length_queue_le := by
    have hfirst := h.length_queue_le
    have hsecond := h'.length_queue_le
    rw [List.length_append]
    omega

/-- **A bus with room takes what is published,** whether or not its worker then catches up. -/
theorem takes_publish (h : bus.queue.length < bus.capacity) (n : Notice) :
    Takes bus [n] (bus.publish n).settle := by
  obtain ⟨haccepted, hpublished, hdropped, hcapacity, hlength⟩ := sameAccount_settle (bus.publish n)
  rw [publish_of_room h] at haccepted hpublished hdropped hcapacity hlength ⊢
  refine ⟨haccepted.trans ?_, hpublished, hdropped, hcapacity, Nat.le_trans hlength ?_⟩
  · exact (List.append_assoc ..).symm
  · exact Nat.le_of_eq (List.length_append ..)

end EventBus
end Diagnostics
end TypedInputs

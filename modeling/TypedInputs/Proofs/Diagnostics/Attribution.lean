/-
# Work under the uid of an action

Work that is attributed to an action leaves records and notices with the uid of this action only, and
leaves the uid in force as it was (`Attributed`). Work that reports in this way while the uid is in force
(`ReportsUnder`) may be put one after the other, in a loop, and under a failure that ends it. With the uid
put in force for it, it is attributed to the action wherever it starts (`ReportsUnder.withUid`).
-/

import TypedInputs.Proofs.Diagnostics.Reports
import TypedInputs.Proofs.Reporting

namespace TypedInputs

open Diagnostics

namespace Diagnostics

variable {uid : String} {d d' d'' : Diagnostics}

/-- Notices published one after the other, the worker catching up with each. -/
def publishAll (notices : List Notice) (bus : EventBus) : EventBus :=
  notices.foldl (fun bus n => (bus.publish n).settle) bus

/-- Diagnostics with reports under a uid more, and the same uid in force. -/
structure Attributed (uid : String) (d d' : Diagnostics) : Prop where
  restored : d'.uid = d.uid
  log : ∃ records : List Record, (∀ r ∈ records, r.uid = uid) ∧
    d'.log = { d.log with records := d.log.records ++ records }
  bus : ∃ notices : List Notice, (∀ n ∈ notices, n.uid = uid) ∧
    d'.bus = d.bus.map (publishAll notices)
  route : d'.route = d.route

/-- Where nothing was reported, nothing has another uid. -/
theorem attributed_refl (uid : String) (d : Diagnostics) : Attributed uid d d where
  restored := rfl
  log := ⟨[], by simp, by rw [List.append_nil]⟩
  bus := ⟨[], by simp, by
    show d.bus = d.bus.map id
    rw [Option.map_id_apply]⟩
  route := rfl

/-- **Reports that are attributed one after the other are attributed together.** -/
theorem Attributed.trans (h : Attributed uid d d') (h' : Attributed uid d' d'') :
    Attributed uid d d'' where
  restored := h'.restored.trans h.restored
  log := by
    obtain ⟨records, hrecords, hlog⟩ := h.log
    obtain ⟨later, hlater, hlog'⟩ := h'.log
    refine ⟨records ++ later, List.forall_mem_append.2 ⟨hrecords, hlater⟩, ?_⟩
    rw [hlog', hlog, List.append_assoc]
  bus := by
    obtain ⟨notices, hnotices, hbus⟩ := h.bus
    obtain ⟨later, hlater, hbus'⟩ := h'.bus
    refine ⟨notices ++ later, List.forall_mem_append.2 ⟨hnotices, hlater⟩, ?_⟩
    rw [hbus', hbus, Option.map_map]
    refine congrArg (d.bus.map ·) (funext fun bus => ?_)
    exact (List.foldl_append ..).symm
  route := h'.route.trans h.route

/-- **A record has the uid in force.** -/
theorem attributed_record (d : Diagnostics) (severity : Severity) (logger message : String) :
    Attributed d.uid d (d.record severity logger message) where
  restored := rfl
  log := by
    unfold record Log.add
    dsimp only
    split
    · exact ⟨[⟨severity, logger, d.uid, message⟩], by simp, rfl⟩
    · exact ⟨[], by simp, by rw [List.append_nil]⟩
  bus := (attributed_refl d.uid d).bus
  route := rfl

/-- A notice with the uid of an action is attributed to it. -/
theorem attributed_notify (d : Diagnostics) {n : Notice} (hn : n.uid = uid) :
    Attributed uid d (d.notify n) := by
  unfold notify
  cases d.route with
  | off | failing => exact attributed_refl uid d
  | bus =>
    constructor
    case restored => rfl
    case log => exact (attributed_refl uid d).log
    case bus => exact ⟨[n], by simpa using hn, rfl⟩
    case route => rfl

/-- What was attributed with the uid in force is attributed when the uid is put in force for it. -/
theorem Attributed.restore (h : Attributed uid { d with uid } d') :
    Attributed uid d { d' with uid := d.uid } :=
  ⟨rfl, h.log, h.bus, h.route⟩

end Diagnostics

namespace Reporting

variable {uid : String} {ε δ α β : Type} {work : Reporting ε α} {next : α → Reporting ε β}

/-- Work whose reports are attributed to an action, while its uid is in force. -/
def ReportsUnder (uid : String) (work : Reporting ε α) : Prop :=
  ∀ d : Diagnostics, d.uid = uid → Attributed uid d (work.left d)

/-- A result alone reports nothing. -/
theorem reportsUnder_lift (uid : String) (result : Except ε α) :
    ReportsUnder uid (liftM result : Reporting ε α) := by
  intro d _
  rw [left_lift]
  exact attributed_refl uid d

theorem reportsUnder_pure (uid : String) (a : α) : ReportsUnder uid (pure a : Reporting ε α) :=
  fun d _ => attributed_refl uid d

/-- A record is made under the uid in force. -/
theorem reportsUnder_record (uid : String) (severity : Severity) (logger message : String) :
    ReportsUnder uid (record severity logger message : Reporting ε Unit) := by
  rintro d rfl
  exact attributed_record d severity logger message

/-- **Work and what comes after it,** which is not reached when the work fails. -/
theorem ReportsUnder.bind (h : ReportsUnder uid work) (hnext : ∀ a, ReportsUnder uid (next a)) :
    ReportsUnder uid (work >>= next) := by
  intro d hd
  have hfirst := h d hd
  rw [left_bind]
  cases work.result d with
  | error e => exact hfirst
  | ok a => exact hfirst.trans (hnext a _ (hfirst.restored.trans hd))

/-- **A loop,** up to the failure that ends it. -/
theorem ReportsUnder.foldlM {step : β → α → Reporting ε β} (h : ∀ b a, ReportsUnder uid (step b a))
    (items : List α) (b : β) : ReportsUnder uid (items.foldlM step b) := by
  induction items generalizing b with
  | nil => exact reportsUnder_pure uid b
  | cons a rest ih =>
    rw [List.foldlM_cons]
    exact (h b a).bind ih

/-- **Work with the uid put in force is attributed to the action,** whatever uid was in force. -/
theorem ReportsUnder.withUid (h : ReportsUnder uid work) (huid : uid ≠ "") (d : Diagnostics) :
    Attributed uid d ((withUid uid work).left d) := by
  rw [left_withUid huid]
  exact (h _ rfl).restore

end Reporting
end TypedInputs

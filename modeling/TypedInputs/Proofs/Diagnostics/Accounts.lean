/-
# Reports that diagnostics have taken

What is left out is reported by a record in the log and a notice on the bus. Where the log keeps the
record and the bus has room, the diagnostics take the report and nothing else (`accounts_report`),
and reports that are taken one after the other are taken together (`Accounts.trans`).
-/

import TypedInputs.Proofs.Diagnostics.EventBus
import TypedInputs.Proofs.Diagnostics.Reports

namespace TypedInputs

open Diagnostics EventBus

/-- What is said about an input that is left out: a notice on the bus and a record in the log. -/
structure Report where
  notice : Notice
  record : Record

/-- Diagnostics that have taken reports, and nothing else. -/
structure Diagnostics.Accounts (d : Diagnostics) (bus : EventBus) (reports : List Report)
    (d' : Diagnostics) (bus' : EventBus) : Prop where
  uid : d'.uid = d.uid
  level : d'.log.level = d.log.level
  records : d'.log.records = d.log.records ++ reports.map Report.record
  active : d'.activeBus? = some bus'
  takes : Takes bus (reports.map Report.notice) bus'

namespace Diagnostics

variable {d d' d'' : Diagnostics} {bus bus' bus'' : EventBus}

/-- Where nothing was reported, nothing is left to account for. -/
theorem accounts_nil (hbus : d.activeBus? = some bus) : Accounts d bus [] d bus :=
  ⟨rfl, rfl, (List.append_nil _).symm, hbus, takes_nil bus⟩

/-- Reports do not change what the log keeps. -/
theorem Accounts.threshold {reports : List Report} (h : Accounts d bus reports d' bus') :
    d'.log.threshold = d.log.threshold := by
  rw [Log.threshold, Log.threshold, h.level]

/-- **Reports that are taken one after the other are taken together.** -/
theorem Accounts.trans {reports later : List Report} (h : Accounts d bus reports d' bus')
    (h' : Accounts d' bus' later d'' bus'') : Accounts d bus (reports ++ later) d'' bus'' where
  uid := h'.uid.trans h.uid
  level := h'.level.trans h.level
  records := by rw [h'.records, h.records, List.map_append, List.append_assoc]
  active := h'.active
  takes := by
    rw [List.map_append]
    exact h.takes.trans h'.takes

/-- A notice goes to the bus in force, which takes it at once, and leaves log and uid alone. -/
theorem notify_spec (hbus : d.activeBus? = some bus) (n : Notice) :
    (d.notify n).activeBus? = some (bus.publish n).settle ∧ (d.notify n).log = d.log ∧
      (d.notify n).uid = d.uid := by
  unfold activeBus? at hbus
  split at hbus
  · rename_i hroute
    have hnotify : d.notify n = d.publish n := by rw [notify, hroute]
    rw [hnotify]
    refine ⟨?_, rfl, rfl⟩
    rw [activeBus?, publish, hroute, hbus, Option.map_some]
  · cases hbus
  · cases hbus

/-- A log keeps the records of the package that are not below its level. -/
theorem keeps_of_threshold_le {log : Log} {severity : Severity} {logger : String}
    (hlogger : isPackageLogger logger = true) (hpos : 0 < severity)
    (hlevel : log.threshold ≤ severity) (uid message : String) :
    log.keeps ⟨severity, logger, uid, message⟩ = true := by
  rw [Log.keeps, hlogger, Bool.true_and, decide_eq_true_iff]
  exact ⟨hpos, hlevel⟩

/-- **A report is taken,** when the log keeps its record and the bus has room for its notice. -/
theorem accounts_report {severity : Severity} {logger message : String}
    (hkeeps : d.log.keeps ⟨severity, logger, d.uid, message⟩ = true)
    (hbus : d.activeBus? = some bus) (hroom : bus.queue.length < bus.capacity) (n : Notice) :
    Accounts d bus [⟨n, ⟨severity, logger, d.uid, message⟩⟩]
      ((d.record severity logger message).notify n) (bus.publish n).settle := by
  obtain ⟨hactive, hlog, huid⟩ := notify_spec (d := d.record severity logger message) hbus n
  refine ⟨huid, ?_, ?_, hactive, takes_publish hroom n⟩
  · rw [hlog, level_record]
  · rw [hlog, records_record, if_pos hkeeps, List.map_singleton]

end Diagnostics
end TypedInputs

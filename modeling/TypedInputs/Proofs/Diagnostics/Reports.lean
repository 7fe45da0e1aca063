/-
# Diagnostics with the same reports

What was left out is reported by a warning and a notice; the other records are remarks. Diagnostics
agree when they differ in remarks at most (`Agree`). Reporting the same to both keeps them so, and a
remark that only one of them gets does no harm (`Remarks.agree`).
-/

import TypedInputs.Diagnostics

namespace TypedInputs
namespace Diagnostics

variable {d d' d'' e e' : Diagnostics} {severity : Severity}

/-- The warnings in the log. -/
def warnings (d : Diagnostics) : List Record :=
  d.log.records.filter fun r => r.severity == Severity.warning

/-- Diagnostics that differ in records that are no warnings at most. -/
structure Agree (d e : Diagnostics) : Prop where
  uid : d.uid = e.uid
  level : d.log.level = e.log.level
  warnings : d.warnings = e.warnings
  bus : d.bus = e.bus
  route : d.route = e.route

theorem Agree.symm (h : Agree d e) : Agree e d :=
  ⟨h.uid.symm, h.level.symm, h.warnings.symm, h.bus.symm, h.route.symm⟩

theorem Agree.trans (h : Agree d d') (h' : Agree d' d'') : Agree d d'' :=
  ⟨h.uid.trans h'.uid, h.level.trans h'.level, h.warnings.trans h'.warnings, h.bus.trans h'.bus,
    h.route.trans h'.route⟩

/-- The same uid put in force. -/
theorem Agree.withUid (h : Agree d e) (uid : String) :
    Agree { d with uid } { e with uid } :=
  ⟨rfl, h.level, h.warnings, h.bus, h.route⟩

/-- A record is kept behind the others when the log keeps its level. -/
theorem records_record (d : Diagnostics) (severity : Severity) (logger message : String) :
    (d.record severity logger message).log.records =
      if d.log.keeps ⟨severity, logger, d.uid, message⟩ then
        d.log.records ++ [⟨severity, logger, d.uid, message⟩]
      else d.log.records := by
  unfold record Log.add
  split <;> rfl

/-- A record leaves the level of the log. -/
theorem level_record (d : Diagnostics) (severity : Severity) (logger message : String) :
    (d.record severity logger message).log.level = d.log.level := by
  unfold record Log.add
  split <;> rfl

/-- **The same record made in both.** -/
theorem Agree.record (h : Agree d e) (severity : Severity) (logger message : String) :
    Agree (d.record severity logger message) (e.record severity logger message) := by
  have hkeeps : ∀ r, d.log.keeps r = e.log.keeps r := fun r => by
    rw [Log.keeps, Log.threshold, h.level]
    rfl
  have hwarnings := h.warnings
  unfold Diagnostics.warnings at hwarnings
  refine ⟨h.uid, ?_, ?_, h.bus, h.route⟩
  · rw [level_record, level_record, h.level]
  · unfold Diagnostics.warnings
    rw [records_record, records_record, hkeeps, h.uid]
    split
    · rw [List.filter_append, List.filter_append, hwarnings]
    · exact hwarnings

/-- **The same notice published in both.** -/
theorem Agree.notify (h : Agree d e) (n : Notice) : Agree (d.notify n) (e.notify n) := by
  obtain ⟨huid, hlevel, hwarnings, hbus, hroute⟩ := h
  unfold Diagnostics.notify
  rw [← hroute]
  split
  · exact ⟨huid, hlevel, hwarnings, by rw [publish, publish, hbus], hroute⟩
  · exact ⟨huid, hlevel, hwarnings, hbus, hroute⟩
  · exact ⟨huid, hlevel, hwarnings, hbus, hroute⟩

/-! ### Remarks -/

/-- Diagnostics with some records of a severity more. -/
def Remarks (severity : Severity) (d d' : Diagnostics) : Prop :=
  ∃ remarks : List Record, (∀ r ∈ remarks, r.severity = severity) ∧
    d' = { d with log := { d.log with records := d.log.records ++ remarks } }

theorem remarks_refl (severity : Severity) (d : Diagnostics) : Remarks severity d d :=
  ⟨[], by simp, by rw [List.append_nil]⟩

/-- Remarks after remarks are remarks. -/
theorem Remarks.trans (h : Remarks severity d d') (h' : Remarks severity d' d'') :
    Remarks severity d d'' := by
  obtain ⟨first, hfirst, rfl⟩ := h
  obtain ⟨second, hsecond, rfl⟩ := h'
  refine ⟨first ++ second, fun r hr => ?_, by rw [List.append_assoc]⟩
  rcases List.mem_append.1 hr with hr | hr
  · exact hfirst r hr
  · exact hsecond r hr

/-- A record of a level is a remark of this level. -/
theorem remarks_record (d : Diagnostics) (severity : Severity) (logger message : String) :
    Remarks severity d (d.record severity logger message) := by
  unfold record Log.add
  split
  · exact ⟨[⟨severity, logger, d.uid, message⟩], by simp, rfl⟩
  · exact remarks_refl severity d

/-- Remarks do not look at the uid that is in force afterwards. -/
theorem Remarks.withUid (h : Remarks severity d d') (uid : String) :
    Remarks severity { d with uid } { d' with uid } := by
  obtain ⟨remarks, hremarks, rfl⟩ := h
  exact ⟨remarks, hremarks, rfl⟩

/-- **Remarks that are no warnings do no harm.** -/
theorem Remarks.agree (hseverity : severity ≠ .warning) (h : Remarks severity d d') :
    Agree d' d := by
  obtain ⟨remarks, hremarks, rfl⟩ := h
  have hnone : remarks.filter (fun r => r.severity == Severity.warning) = [] :=
    List.filter_eq_nil_iff.2 fun r hr => by simpa [hremarks r hr] using hseverity
  refine ⟨rfl, rfl, ?_, rfl, rfl⟩
  unfold Diagnostics.warnings
  rw [List.filter_append, hnone, List.append_nil]

end Diagnostics
end TypedInputs

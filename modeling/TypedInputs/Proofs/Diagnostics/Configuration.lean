/-
# Configuring the log

The log is configured by a call that does only this, and again whenever a logger is asked for. Either
call chooses a level (`Call.Chooses`): the one that it names, or else the environment's, or else `INFO`.
It is refused (`Call.IsRefused`) when the name that counts is that of another setting of the log, and
then it changes nothing.

A level overwrites the one before, and finds the handler that came with it (`setLevel_setLevel`). So a
level overwrites whatever calls did before (`setLevel_run`), and the last of them decides
(`level_of_last_call`). A level that was named is not kept beyond the next call, which may name none
(`named_level_not_kept`).
-/

import Mathlib.Data.List.Count
import TypedInputs.Diagnostics.Log

namespace TypedInputs
namespace Diagnostics

/-! ### What a word stands for -/

/-- A word in upper case. -/
def upper (word : String) : String := String.ofList (word.toList.flatMap upperCase)

/-- A word that names one of the four levels to choose from, in any letter case. -/
def Names (word : String) (severity : Severity) : Prop :=
  severity ∈ [Severity.debug, .info, .warning, .error] ∧ upper word = severity.name

/-- The level that a word stands for. Two more levels have names, and two levels have a second name. A
word that is no name at all stands for `INFO`. -/
inductive StandsFor (word : String) : Severity → Prop
  | named {severity : Severity} (h : Names word severity) : StandsFor word severity
  | warning (hword : upper word = "WARN") : StandsFor word .warning
  | critical (hword : upper word = "CRITICAL" ∨ upper word = "FATAL") : StandsFor word .critical
  | notSet (hword : upper word = "NOTSET") : StandsFor word 0
  | unknown (hword : upper word ∉ levelNames.map Prod.fst) : StandsFor word .info

/-- A word that names a setting of the log which is no level. -/
def NamesSetting (word : String) : Prop := upper word ∈ ["BASIC_FORMAT", "_STYLES"]

/-- Every word stands for a level or names a setting that is no level. -/
theorem standsFor_or_namesSetting (word : String) :
    (∃ severity, StandsFor word severity) ∨ NamesSetting word := by
  by_cases hmem : upper word ∈ levelNames.map Prod.fst
  · simp only [levelNames, List.map_cons, List.map_nil, List.mem_cons, List.not_mem_nil,
      or_false] at hmem
    rcases hmem with h | h | h | h | h | h | h | h | h | h
    · exact .inl ⟨.debug, .named ⟨by decide, h⟩⟩
    · exact .inl ⟨.info, .named ⟨by decide, h⟩⟩
    · exact .inl ⟨.warning, .named ⟨by decide, h⟩⟩
    · exact .inl ⟨.warning, .warning h⟩
    · exact .inl ⟨.error, .named ⟨by decide, h⟩⟩
    · exact .inl ⟨.critical, .critical (.inl h)⟩
    · exact .inl ⟨.critical, .critical (.inr h)⟩
    · exact .inl ⟨0, .notSet h⟩
    · exact .inr (by simp [NamesSetting, h])
    · exact .inr (by simp [NamesSetting, h])
  · exact .inl ⟨.info, .unknown hmem⟩

/-- A word is looked up in upper case, and `INFO` is the level when it is not found. -/
theorem namedLevel_eq (word : String) :
    namedLevel word = match levelNames.find? fun entry => entry.1 == upper word with
      | some (_, .level severity) => .ok severity
      | some (_, .unknown shown) => .error (.unknown shown)
      | some (_, .unsuitable shown) => .error (.unsuitable shown)
      | none => .ok .info := rfl

variable {word : String} {severity : Severity}

/-- A word that stands for a level is read as this level. -/
theorem StandsFor.namedLevel_eq (h : StandsFor word severity) : namedLevel word = .ok severity := by
  rw [Diagnostics.namedLevel_eq]
  cases h with
  | named h =>
    obtain ⟨hlevel, hword⟩ := h
    rw [hword]
    simp only [List.mem_cons, List.not_mem_nil, or_false] at hlevel
    rcases hlevel with rfl | rfl | rfl | rfl <;> rfl
  | warning hword => rw [hword]; rfl
  | critical hword => rcases hword with hword | hword <;> rw [hword] <;> rfl
  | notSet hword => rw [hword]; rfl
  | unknown hword =>
    have hnone : levelNames.find? (fun entry => entry.1 == upper word) = none :=
      List.find?_eq_none.2 fun entry hentry hname =>
        hword (List.mem_map.2 ⟨entry, hentry, eq_of_beq hname⟩)
    rw [hnone]

/-- A word that names another setting is refused as a level. -/
theorem NamesSetting.exists_namedLevel_eq (h : NamesSetting word) :
    ∃ fault, namedLevel word = .error fault := by
  rw [Diagnostics.namedLevel_eq]
  simp only [NamesSetting, List.mem_cons, List.not_mem_nil, or_false] at h
  rcases h with hword | hword <;> rw [hword] <;> exact ⟨_, rfl⟩

/-! ### What a call chooses -/

/-- A call that configures the log. -/
inductive Call where
  /-- does only this -/
  | configure (level : Option String)
  /-- asks for a logger too -/
  | logger (name level : Option String)

namespace Call

/-- The level that a call asks for. -/
def level : Call → Option String
  | .configure level => level
  | .logger _ level => level

/-- The level that a call chooses: the one that it names, or else the environment's, or else `INFO`. -/
inductive Chooses (environment : Option String) (call : Call) : Severity → Prop
  | named {word : String} {severity : Severity} (hcall : given? call.level = some word)
      (hword : StandsFor word severity) : Chooses environment call severity
  | environment {word : String} {severity : Severity} (hcall : given? call.level = none)
      (henvironment : given? environment = some word) (hword : StandsFor word severity) :
      Chooses environment call severity
  | standard (hcall : given? call.level = none) (henvironment : given? environment = none) :
      Chooses environment call .info

/-- A call that chooses no level, because the name that counts is that of another setting. -/
inductive IsRefused (environment : Option String) (call : Call) : Prop
  | named {word : String} (hcall : given? call.level = some word) (hword : NamesSetting word)
  | environment {word : String} (hcall : given? call.level = none)
      (henvironment : given? environment = some word) (hword : NamesSetting word)

variable {environment : Option String} {call : Call}

/-- **Every call chooses a level or is refused.** -/
theorem chooses_or_isRefused (environment : Option String) (call : Call) :
    (∃ severity, call.Chooses environment severity) ∨ call.IsRefused environment := by
  cases hcall : given? call.level with
  | some word =>
    rcases standsFor_or_namesSetting word with ⟨severity, hword⟩ | hword
    · exact .inl ⟨severity, .named hcall hword⟩
    · exact .inr (.named hcall hword)
  | none =>
    cases henvironment : given? environment with
    | some word =>
      rcases standsFor_or_namesSetting word with ⟨severity, hword⟩ | hword
      · exact .inl ⟨severity, .environment hcall henvironment hword⟩
      · exact .inr (.environment hcall henvironment hword)
    | none => exact .inl ⟨.info, .standard hcall henvironment⟩

/-- A call that chooses a level gets it. -/
theorem Chooses.chosenLevel_eq (h : call.Chooses environment severity) :
    chosenLevel call.level environment = .ok severity := by
  unfold chosenLevel
  cases h with
  | named hcall hword =>
    rw [hcall]
    exact hword.namedLevel_eq
  | environment hcall henvironment hword =>
    rw [hcall, henvironment]
    exact hword.namedLevel_eq
  | standard hcall henvironment =>
    rw [hcall, henvironment]
    rfl

/-- A call whose word names a setting that is no level gets none. -/
theorem IsRefused.exists_chosenLevel_eq (h : call.IsRefused environment) :
    ∃ fault, chosenLevel call.level environment = .error fault := by
  unfold chosenLevel
  cases h with
  | named hcall hword =>
    rw [hcall]
    exact hword.exists_namedLevel_eq
  | environment hcall henvironment hword =>
    rw [hcall, henvironment]
    exact hword.exists_namedLevel_eq

end Call

/-! ### One call after the other -/

namespace Log

/-- The log that a call configures. -/
def perform (environment : Option String) (log : Log) : Call → Except LevelFault Log
  | .configure level => log.configure level environment
  | .logger name level => (log.logger name level environment).map Prod.snd

/-- The log after a call. One that fails leaves it as it was. -/
def after (environment : Option String) (log : Log) (call : Call) : Log :=
  match log.perform environment call with
  | .ok configured => configured
  | .error _ => log

/-- The log after calls one after the other. -/
def run (environment : Option String) (log : Log) (calls : List Call) : Log :=
  calls.foldl (after environment) log

/-- The last call comes after all others. -/
theorem run_concat (environment : Option String) (log : Log) (earlier : List Call) (last : Call) :
    log.run environment (earlier ++ [last]) = (log.run environment earlier).after environment last :=
  List.foldl_append ..

/-- **Asking for a logger configures the log,** with or without a level, as configuring it does. -/
theorem perform_eq (environment : Option String) (log : Log) (call : Call) :
    log.perform environment call =
      (chosenLevel call.level environment).map fun level => log.setLevel level := by
  cases call with
  | configure level => rfl
  | logger name level =>
    show ((log.configure level environment).map fun configured => (_, configured)).map Prod.snd =
      (chosenLevel level environment).map _
    rw [configure]
    cases chosenLevel level environment <;> rfl

/-- **The second of two levels overwrites the first,** and finds the handler that came with it. -/
theorem setLevel_setLevel (log : Log) (first second : Severity) :
    (log.setLevel first).setLevel second = log.setLevel second := by
  unfold setLevel
  by_cases hmem : Handler.contextual ∈ log.handlers <;> simp [hmem]

/-- A level overwrites what a call did before. -/
theorem setLevel_after (environment : Option String) (log : Log) (call : Call) (severity : Severity) :
    (log.after environment call).setLevel severity = log.setLevel severity := by
  rw [after, perform_eq]
  cases chosenLevel call.level environment with
  | ok chosen => exact setLevel_setLevel log chosen severity
  | error fault => rfl

/-- **A level overwrites what calls did before,** however many they were. -/
theorem setLevel_run (environment : Option String) (log : Log) (calls : List Call)
    (severity : Severity) :
    (log.run environment calls).setLevel severity = log.setLevel severity := by
  -- On the calls, for any log: the first call leaves another one, which the level overwrites in turn.
  induction calls generalizing log with
  | nil => rfl
  | cons call rest ih => exact (ih (log.after environment call)).trans (setLevel_after ..)

/-- A log that was given a level: one of its handlers prints uids, and all else is as it was. -/
structure HasLevel (start : Log) (severity : Severity) (log : Log) : Prop where
  level : log.level = severity
  contextual : log.handlers.count .contextual = 1
  foreign : log.handlers.filter (· == .foreign) = start.handlers.filter (· == .foreign)
  records : log.records = start.records

/-- Setting a level adds the handler that prints uids, unless it is there, and changes nothing
else. -/
theorem hasLevel_setLevel {start : Log} (hone : start.handlers.count .contextual ≤ 1)
    (severity : Severity) : HasLevel start severity (start.setLevel severity) := by
  by_cases hmem : Handler.contextual ∈ start.handlers
  · have hsame : (start.setLevel severity).handlers = start.handlers := if_pos hmem
    constructor
    case level => rfl
    case contextual =>
      rw [hsame]
      exact Nat.le_antisymm hone (List.count_pos_iff.2 hmem)
    case foreign => rw [hsame]
    case records => rfl
  · have hadded : (start.setLevel severity).handlers = start.handlers ++ [.contextual] :=
      if_neg hmem
    constructor
    case level => rfl
    case contextual =>
      rw [hadded, List.count_append, List.count_eq_zero.2 hmem]
      rfl
    case foreign =>
      rw [hadded, List.filter_append]
      exact List.append_nil _
    case records => rfl

/-- **The last call decides.** Whatever was called before, a call that chooses a level returns, and the log
has this level then and one handler that prints uids. A call that is refused fails and changes nothing. -/
theorem level_of_last_call (environment : Option String) {start : Log}
    (hone : start.handlers.count .contextual ≤ 1) (earlier : List Call) (last : Call) :
    ((∃ severity, last.Chooses environment severity) ∨ last.IsRefused environment) ∧
    (∀ severity, last.Chooses environment severity →
      (start.run environment earlier).perform environment last =
          .ok (start.run environment (earlier ++ [last])) ∧
        HasLevel start severity (start.run environment (earlier ++ [last]))) ∧
    (last.IsRefused environment →
      (∃ fault, (start.run environment earlier).perform environment last = .error fault) ∧
        start.run environment (earlier ++ [last]) = start.run environment earlier) := by
  rw [run_concat, after, perform_eq]
  refine ⟨last.chooses_or_isRefused environment, fun severity hchooses => ?_, fun hrefused => ?_⟩
  · have hset := setLevel_run environment start earlier severity
    rw [hchooses.chosenLevel_eq]
    refine ⟨rfl, ?_⟩
    show HasLevel start severity ((start.run environment earlier).setLevel severity)
    rw [hset]
    exact hasLevel_setLevel hone severity
  · obtain ⟨fault, hfault⟩ := hrefused.exists_chosenLevel_eq
    rw [hfault]
    exact ⟨⟨fault, rfl⟩, rfl⟩

/-- The log of a host that has a handler of its own. -/
def hostLog : Log := ⟨.warning, [.foreign], []⟩

/-- Two calls name a level, and the logger that is asked for then has the level of the environment. -/
theorem level_of_last_call_errors :
    hostLog.handlers.count .contextual ≤ 1 ∧
      HasLevel hostLog .error (hostLog.run (some "error")
        ([.configure (some "Debug"), .logger none (some "info")] ++
          [.logger (some "actioninputs.cli") none])) := by
  have hone : hostLog.handlers.count .contextual ≤ 1 := by decide
  have hchooses : (Call.logger (some "actioninputs.cli") none).Chooses (some "error") .error :=
    .environment rfl rfl (.named ⟨by decide, rfl⟩)
  exact ⟨hone, ((level_of_last_call (some "error") hone _ _).2.1 .error hchooses).2⟩

/-- A level that was named is not kept until another one is: a logger that is asked for without a level
puts the level of the environment in its place. -/
theorem named_level_not_kept :
    ¬∀ (environment : Option String) (start : Log) (calls : List Call) (word : String)
      (severity : Severity), start.handlers.count .contextual ≤ 1 →
      (∀ call ∈ calls, ∀ name, call.level = some name → ∃ level, Names name level) →
      (calls.filterMap Call.level).getLast? = some word → Names word severity →
      (start.run environment calls).level = severity := by
  intro hkept
  have hnames : ∀ call ∈ [Call.configure (some "DEBUG"), .logger none none], ∀ name,
      call.level = some name → ∃ level, Names name level := by
    intro call hcall name hname
    rcases List.mem_cons.1 hcall with rfl | hlast
    · obtain rfl := Option.some.inj hname
      exact ⟨.debug, by decide, rfl⟩
    · rw [List.mem_singleton.1 hlast] at hname
      cases hname
  have hdebug := hkept none hostLog _ "DEBUG" .debug (by decide) hnames rfl ⟨by decide, rfl⟩
  have hinfo : (hostLog.run none [.configure (some "DEBUG"), .logger none none]).level = .info := rfl
  rw [hinfo] at hdebug
  cases hdebug

end Log
end Diagnostics
end TypedInputs

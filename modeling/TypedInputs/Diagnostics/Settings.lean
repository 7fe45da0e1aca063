/-
# Settings from the environment

| setting | value | otherwise |
| --- | --- | --- |
| `eventsEnabled` | `true` in any case | no bus |
| `transports` | `stdout` and `memory`, divided by commas | `stdout` |
| `queueSize` | an integer | 10000 |
| `logLevel` | a level's name | `INFO` |

Each setting is a variable of the environment. A variable that is empty counts as not set.
-/

import TypedInputs.Diagnostics
import TypedInputs.Text.Blank
import TypedInputs.Text.Divided
import TypedInputs.Text.Numeral

namespace TypedInputs
namespace Diagnostics

/-- What can be set. -/
inductive Setting where
  | eventsEnabled
  | transports
  | queueSize
  | logLevel
deriving Repr, DecidableEq

namespace Setting

/-- All settings. -/
def all : List Setting := [eventsEnabled, transports, queueSize, logLevel]

/-- The variable of the environment that holds a setting. -/
def key : Setting → String
  | eventsEnabled => "ACTIONINPUTS_EVENTS_ENABLED"
  | transports => "ACTIONINPUTS_EVENTS_TRANSPORTS"
  | queueSize => "ACTIONINPUTS_EVENTS_QUEUE_SIZE"
  | logLevel => "ACTIONINPUTS_LOG_LEVEL"

end Setting

/-- The variables of an environment. -/
abbrev Environment := String → Option String

namespace Environment

/-- A setting that is not empty, or a value in its place. -/
def value (env : Environment) (setting : Setting) (absent : String) : String :=
  (given? (env setting.key)).getD absent

/-- The level that is set. -/
def logLevel (env : Environment) : Option String := env Setting.logLevel.key

/-- A bus is wanted. -/
def eventsEnabled (env : Environment) : Bool :=
  (env.value .eventsEnabled "false").toList.map Char.toLower == "true".toList

/-- The transports that are listed. -/
def transports (env : Environment) : List (List Char) :=
  (Text.divide ',' (env.value .transports "stdout").toList).map Text.trim

/-- The observers for the transports that are listed. -/
def observers (env : Environment) : List Observer :=
  (if "stdout".toList ∈ env.transports then [Observer.printer] else []) ++
    if "memory".toList ∈ env.transports then [Observer.memory] else []

/-- The digits of a text that may have single underscores between them. -/
def groupedDigits? : List Char → Option (List Nat)
  | [] => none
  | [c] => (Text.digitValue? c).map fun d => [d]
  | c :: '_' :: rest => do some ((← Text.digitValue? c) :: (← groupedDigits? rest))
  | c :: rest => do some ((← Text.digitValue? c) :: (← groupedDigits? rest))

/-- A blank around an integer. The separators U+001C to U+001F are none here. -/
def isIntegerBlank (c : Char) : Bool := Text.isBlank c && !('\x1c' ≤ c && c ≤ '\x1f')

/-- The integer that a setting writes: blanks around it, a sign, and digits in groups. -/
def integer? (text : List Char) : Option Int :=
  let body := ((text.dropWhile isIntegerBlank).reverse.dropWhile isIntegerBlank).reverse
  let (negative, unsigned) := Text.readSign body
  (groupedDigits? unsigned).bind fun digits =>
    if Text.maxIntegerDigits < digits.length then none
    else some (Text.SignedDigits.value ⟨negative, digits⟩)

/-- The capacity that is set. -/
def queueSize (env : Environment) : Int :=
  (integer? (env.value .queueSize "10000").toList).getD EventBus.defaultCapacity

/-- The bus that is wanted, not running. -/
def bus? (env : Environment) : Option EventBus :=
  if env.eventsEnabled then some (EventBus.create env.observers env.queueSize) else none

end Environment
end Diagnostics
end TypedInputs

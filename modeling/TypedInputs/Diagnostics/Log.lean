/-
# The log

A record has a severity, the name of the logger that made it, and the uid of the action that was
being processed. It is kept when its severity is positive and not below the level in force. The
loggers of this package are `packageLogger` and all whose names go on from it with a point; other
loggers are not ours, and their records are not kept.

| name | severity |
| --- | --- |
| `DEBUG` | 10 |
| `INFO` | 20 |
| `WARNING`, `WARN` | 30 |
| `ERROR` | 40 |
| `CRITICAL`, `FATAL` | 50 |
| `NOTSET` | 0 |

A level is chosen by such a name in any case, or taken from the environment, or it is `INFO`; an
unknown name is `INFO` too. It is chosen anew whenever the log is configured, and whenever a logger
is asked for. At level 0 the package has no level of its own, and the root's counts,
which is `WARNING`.
-/

import TypedInputs.Text.Quoted

namespace TypedInputs
namespace Diagnostics

/-- A severity. -/
abbrev Severity := Int

namespace Severity

/-- The severity of what helps to find a fault. -/
def debug : Severity := 10

/-- The severity of what is worth knowing. -/
def info : Severity := 20

/-- The severity of what was left out. -/
def warning : Severity := 30

/-- The severity of what failed. -/
def error : Severity := 40

/-- The severity of what cannot go on. -/
def critical : Severity := 50

/-- The name of a severity. -/
def name (s : Severity) : String :=
  if s = debug then "DEBUG"
  else if s = info then "INFO"
  else if s = warning then "WARNING"
  else if s = error then "ERROR"
  else if s = critical then "CRITICAL"
  else if s = 0 then "NOTSET"
  else "Level " ++ toString s

end Severity

/-- What a name says about the level. -/
inductive LevelName where
  | level (severity : Severity)
  | unknown (shown : String)
  | unsuitable (shown : String)

/-- The form of a message under each style of placeholders, as it is shown. -/
def formatStyles : String :=
  "\x7b'%': (<class 'logging.PercentStyle'>, '%(levelname)s:%(name)s:%(message)s'), '\x7b': " ++
    "(<class 'logging.StrFormatStyle'>, '\x7blevelname\x7d:\x7bname\x7d:\x7bmessage\x7d'), '$': " ++
    "(<class 'logging.StringTemplateStyle'>, " ++
    "'$\x7blevelname\x7d:$\x7bname\x7d:$\x7bmessage\x7d')\x7d"

/-- The names that a level can be chosen by. Two of them name other settings of the log, which are
no levels. -/
def levelNames : List (String × LevelName) :=
  [("DEBUG", .level .debug), ("INFO", .level .info), ("WARNING", .level .warning),
   ("WARN", .level .warning), ("ERROR", .level .error), ("CRITICAL", .level .critical),
   ("FATAL", .level .critical), ("NOTSET", .level 0),
   ("BASIC_FORMAT", .unknown "'%(levelname)s:%(name)s:%(message)s'"),
   ("_STYLES", .unsuitable formatStyles)]

/-- Why a level cannot be set. -/
inductive LevelFault where
  | unknown (shown : String)
  | unsuitable (shown : String)
deriving Repr, DecidableEq

/-- How a level fault is reported. -/
def LevelFault.message : LevelFault → String
  | .unknown shown => "Unknown level: " ++ shown
  | .unsuitable shown => "Level not an integer or a valid string: " ++ shown

/-- A character in upper case. Of the characters beyond ASCII those have their upper case here that
it makes ASCII. -/
def upperCase (c : Char) : List Char :=
  match c with
  | '\u00df' => ['S', 'S']
  | '\u0131' => ['I']
  | '\u017f' => ['S']
  | '\ufb00' => ['F', 'F']
  | '\ufb01' => ['F', 'I']
  | '\ufb02' => ['F', 'L']
  | '\ufb03' => ['F', 'F', 'I']
  | '\ufb04' => ['F', 'F', 'L']
  | '\ufb05' | '\ufb06' => ['S', 'T']
  | c => [c.toUpper]

/-- The level that a name stands for. -/
def namedLevel (name : String) : Except LevelFault Severity :=
  let upper := String.ofList (name.toList.flatMap upperCase)
  match levelNames.find? fun entry => entry.1 == upper with
  | some (_, .level severity) => .ok severity
  | some (_, .unknown shown) => .error (.unknown shown)
  | some (_, .unsuitable shown) => .error (.unsuitable shown)
  | none => .ok .info

/-- A name that is there and not empty. -/
def given? (name : Option String) : Option String := name.filter (· ≠ "")

/-- The level that is chosen by a name, or else by the environment. -/
def chosenLevel (name environment : Option String) : Except LevelFault Severity :=
  namedLevel (((given? name).or (given? environment)).getD "INFO")

/-- The name of the package's logger. -/
def packageLogger : String := "actioninputs"

/-- A logger of the package. -/
def isPackageLogger (name : String) : Bool :=
  name == packageLogger || (packageLogger ++ ".").toList.isPrefixOf name.toList

/-- A logger of a part of the package. -/
def loggerOf (part : String) : String := packageLogger ++ "." ++ part

/-- A record of the log. -/
structure Record where
  severity : Severity
  logger : String
  uid : String
  message : String
deriving Repr, DecidableEq

/-- What the root of the log hands records to. -/
inductive Handler where
  /-- prints a record with the uid of its action -/
  | contextual
  /-- one of the host application -/
  | foreign
deriving Repr, DecidableEq

/-- The settings of the log with its records, oldest first. -/
structure Log where
  level : Severity
  handlers : List Handler
  records : List Record
deriving Repr, DecidableEq

namespace Log

/-- The level in force. -/
def threshold (log : Log) : Severity := if log.level = 0 then .warning else log.level

/-- The log with a level, and with a handler that prints uids unless it has one. -/
def setLevel (level : Severity) (log : Log) : Log :=
  { log with
    level
    handlers := if .contextual ∈ log.handlers then log.handlers else log.handlers ++ [.contextual] }

/-- The log with the level that is chosen. -/
def configure (name environment : Option String) (log : Log) : Except LevelFault Log :=
  (chosenLevel name environment).map fun level => log.setLevel level

/-- A logger asked for, the package's own unless another one is named, and the log, which asking
configures anew. -/
def logger (name level environment : Option String) (log : Log) :
    Except LevelFault (String × Log) :=
  (log.configure level environment).map fun configured => (name.getD packageLogger, configured)

/-- A record that the log keeps. -/
def keeps (log : Log) (r : Record) : Bool :=
  isPackageLogger r.logger && decide (0 < r.severity ∧ log.threshold ≤ r.severity)

/-- The log after a record was made. -/
def add (log : Log) (r : Record) : Log :=
  if log.keeps r then { log with records := log.records ++ [r] } else log

end Log

/-- A record on one line. -/
def Record.line (r : Record) : String :=
  String.ofList (r.severity.name.toList.rightpad 8 ' ') ++ " | " ++ r.logger ++ " | action=" ++
    r.uid ++ " | " ++ r.message

end Diagnostics
end TypedInputs

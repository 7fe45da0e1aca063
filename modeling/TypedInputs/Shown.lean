/-
# How values are shown

Messages and event details show a value in full: texts in quotes, truth values as `True` and
`False`, null as `None`, lists in brackets, objects in braces, and the other kinds as the call that
would build them, such as `Decimal('1.5')`. Alone, a text, a number or a time is written plainly.

A value with an integer that is too long to be written has no shown form; that is the only failure.
-/

import TypedInputs.Value

namespace TypedInputs

open Number Calendar

/-- Parts with a separator between them, inside brackets. -/
def bracketed (opening : String) (parts : List String) (closing : String) : String :=
  opening ++ String.intercalate ", " parts ++ closing

/-- The shown form of a call with its arguments. -/
def callShown (name : String) (arguments : List String) : String :=
  bracketed (name ++ "(") arguments ")"

/-- The arguments that a time of day is built from; the seconds and microseconds that are zero at
the end are left out. -/
def timeArguments (t : TimeOfDay) : List String :=
  let all := [t.hour, t.minute, t.second, t.microsecond].map toString
  if t.microsecond ≠ 0 then all else if t.second ≠ 0 then all.take 3 else all.take 2

/-- The arguments that a date is built from. -/
def dateArguments (d : Date) : List String := [d.year, d.month, d.day].map toString

/-- The shown form of a decimal. -/
def decimalShown (d : Decimal) : String := callShown "Decimal" ["'" ++ d.text ++ "'"]

/-- The shown form of a list of texts. -/
def textsShown (texts : List String) : String := bracketed "[" (texts.map Text.quoted) "]"

namespace Value

mutual

/-- The shown form of a value. -/
def shown : Value → Except KindFault String
  | .null => .ok "None"
  | .bool b => .ok (if b then "True" else "False")
  | .int n => (Text.integerText? n).elim (.error .integerTooLong) .ok
  | .float x => .ok x.text
  | .text s => .ok (Text.quoted s)
  | .list items => (shownItems items).map fun parts => bracketed "[" parts "]"
  | .object fields => (shownFields fields).map fun parts => bracketed "\x7b" parts "\x7d"
  | .decimal d => .ok (decimalShown d)
  | .quantity q =>
    .ok (callShown "Quantity" ["value=" ++ decimalShown q.value, "unit=" ++ Text.quoted q.unit])
  | .date d => .ok (callShown "datetime.date" (dateArguments d))
  | .time t => .ok (callShown "datetime.time" (timeArguments t))
  | .dateTime t =>
    .ok (callShown "datetime.datetime" (dateArguments t.date ++ timeArguments t.time))
  | .zoned t =>
    .ok (callShown "datetime.datetime" (dateArguments t.wall.date ++ timeArguments t.wall.time))

/-- The shown forms of a list's items. -/
def shownItems : List Value → Except KindFault (List String)
  | [] => .ok []
  | v :: rest => do
    let first ← shown v
    let others ← shownItems rest
    .ok (first :: others)

/-- The shown forms of an object's fields. -/
def shownFields : List (String × Value) → Except KindFault (List String)
  | [] => .ok []
  | (name, v) :: rest => do
    let first ← shown v
    let others ← shownFields rest
    .ok ((Text.quoted name ++ ": " ++ first) :: others)

end

/-- The plain form of a value that stands alone. -/
def plain : Value → Except KindFault String
  | .text s => .ok s
  | .decimal d => .ok d.text
  | .quantity q => .ok q.text
  | .date d => .ok d.text
  | .time t => .ok t.text
  | .dateTime t => .ok (String.ofList (t.toCharsWith ' '))
  | .zoned t => .ok (String.ofList (t.wall.toCharsWith ' ' ++ offsetChars t.offset))
  | v => v.shown

end Value

/-- A report followed by details, each a name and the shown form of its value. -/
def withDetails (report : String) (details : List (String × String)) : String :=
  report ++ " - " ++
    bracketed "\x7b" (details.map fun (name, shown) => Text.quoted name ++ ": " ++ shown) "\x7d"

end TypedInputs

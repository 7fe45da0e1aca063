/-
# Checking data against a model

A model reads its fields from the fields of an object. Each field has a check, and all checks run:
a `Checked` value is the result, or all issues in the order of the model's fields. An issue says
where it is: the names and indices that lead to the value.

A field is looked up by its name on the wire, then by its plain name, which differs for names of
several words; an issue has the name that was found. Fields that a model does not have are ignored.

| check | takes | or it is an issue |
| --- | --- | --- |
| `text` | a text | `notText` |
| `nonEmptyText` | a text with a character | `notText`, `tooShort` |
| `flag` | a truth value, 0 or 1, or a word for one | `notFlag`, `unclearFlag` |
| `oneOf` | a text of a list | `notListed` |
| `textSet` | a list of texts | `notSet`, `notText` |
| `tuple` | a list whose items a check takes | `notTuple`, issues of the items |
-/

import TypedInputs.TextSet
import TypedInputs.Value

namespace TypedInputs

open Number

/-- A step from a value to a part of it. -/
inductive Step where
  | field (name : String)
  | index (i : Nat)
deriving Repr, DecidableEq

/-- What can be wrong with a value of a model. -/
inductive IssueKind where
  | missing
  | notText
  | tooShort
  | notFlag
  | unclearFlag
  | notSet
  | notTuple
  | notObject (model : String)
  | notListed (allowed : List String)
  | refused (report : String)
deriving Repr, DecidableEq

/-- The code of an issue. -/
def IssueKind.code : IssueKind → String
  | .missing => "missing"
  | .notText => "string_type"
  | .tooShort => "string_too_short"
  | .notFlag => "bool_type"
  | .unclearFlag => "bool_parsing"
  | .notSet => "frozen_set_type"
  | .notTuple => "tuple_type"
  | .notObject _ => "model_type"
  | .notListed _ => "literal_error"
  | .refused _ => "value_error"

/-- Alternatives in a sentence. -/
def alternatives : List String → String
  | [] => ""
  | [s] => s
  | [s, t] => s ++ " or " ++ t
  | s :: rest => s ++ ", " ++ alternatives rest

/-- How an issue is reported. -/
def IssueKind.message : IssueKind → String
  | .missing => "Field required"
  | .notText => "Input should be a valid string"
  | .tooShort => "String should have at least 1 character"
  | .notFlag => "Input should be a valid boolean"
  | .unclearFlag => "Input should be a valid boolean, unable to interpret input"
  | .notSet => "Input should be a valid frozenset"
  | .notTuple => "Input should be a valid tuple"
  | .notObject model => "Input should be a valid dictionary or instance of " ++ model
  | .notListed allowed =>
    "Input should be " ++ alternatives (allowed.map fun name => "'" ++ name ++ "'")
  | .refused report => "Value error, " ++ report

/-- Something wrong and the way to it. -/
structure Issue where
  path : List Step
  kind : IssueKind
deriving Repr, DecidableEq

/-- The result of a check: a value, or all issues. -/
inductive Checked (α : Type) where
  | valid (value : α)
  | invalid (issues : List Issue)

namespace Checked

/-- An issue with the value itself. -/
def issue {α : Type} (kind : IssueKind) : Checked α := .invalid [⟨[], kind⟩]

/-- A check's result with a function applied to it. -/
def map {α β : Type} (f : α → β) : Checked α → Checked β
  | .valid v => .valid (f v)
  | .invalid issues => .invalid issues

/-- A function and its argument, both checked; the issues of both are kept. -/
def apply {α β : Type} : Checked (α → β) → Checked α → Checked β
  | .valid f, x => x.map f
  | .invalid issues, .valid _ => .invalid issues
  | .invalid issues, .invalid more => .invalid (issues ++ more)

/-- A check of the result of a check. -/
def andThen {α β : Type} (next : α → Checked β) : Checked α → Checked β
  | .valid v => next v
  | .invalid issues => .invalid issues

instance : Applicative Checked where
  pure := .valid
  seq f x := apply f (x ())

/-- A check of a part, seen from the whole. -/
def within {α : Type} (step : Step) : Checked α → Checked α
  | .valid v => .valid v
  | .invalid issues => .invalid (issues.map fun i => { i with path := step :: i.path })

end Checked

/-- A check of values. -/
abbrev Check (α : Type) := Value → Checked α

namespace Check

/-- A text. -/
def text : Check String
  | .text s => .valid s
  | _ => .issue .notText

/-- A text with a character. -/
def nonEmptyText (v : Value) : Checked { s : String // s ≠ "" } :=
  (text v).andThen fun s => if h : s ≠ "" then .valid ⟨s, h⟩ else .issue .tooShort

/-- A text that stands for the empty text when it is null. -/
def textOrNull : Check String
  | .null => .valid ""
  | v => text v

/-- Null, or what another check takes. -/
def orNull {α : Type} (check : Check α) : Check (Option α)
  | .null => .valid none
  | v => (check v).map some

/-- The words for true, in lower case. -/
def wordsForTrue : List String := ["1", "on", "t", "true", "y", "yes"]

/-- The words for false, in lower case. -/
def wordsForFalse : List String := ["0", "off", "f", "false", "n", "no"]

/-- The integers that a flag speaks of as unclear; greater ones are of another kind altogether. -/
def isWordSized (n : Int) : Bool := -(Nat.pow 2 63) ≤ n && n < Nat.pow 2 63

/-- A truth value. -/
def flag : Check Bool
  | .bool b => .valid b
  | .int n =>
    if n = 0 then .valid false
    else if n = 1 then .valid true
    else if isWordSized n then .issue .unclearFlag
    else .issue .notFlag
  | .float x =>
    if x.equals (Double.zero false) then .valid false
    else if x.equals (Double.ofDecimal false 1 0) then .valid true
    else .issue .notFlag
  | .text s =>
    let lower := String.ofList (s.toList.map Char.toLower)
    if lower ∈ wordsForTrue then .valid true
    else if lower ∈ wordsForFalse then .valid false
    else .issue .unclearFlag
  | _ => .issue .notFlag

/-- A value that a text names. -/
def oneOf {α : Type} (all : List α) (name : α → String) (v : Value) : Checked α :=
  let found :=
    match v with
    | .text s => all.find? fun a => name a == s
    | _ => none
  match found with
  | some a => .valid a
  | none => .issue (.notListed (all.map name))

/-- The items of a list, each checked, from an index on. -/
def itemsFrom {α : Type} (check : Check α) (i : Nat) : List Value → Checked (List α)
  | [] => .valid []
  | v :: rest => List.cons <$> (check v).within (.index i) <*> itemsFrom check (i + 1) rest

/-- A list of texts as a set. -/
def textSet : Check TextSet
  | .list items => (itemsFrom text 0 items).map TextSet.ofList
  | _ => .issue .notSet

/-- A list of checked items. -/
def tuple {α : Type} (check : Check α) : Check (List α)
  | .list items => itemsFrom check 0 items
  | _ => .issue .notTuple

/-- The fields of an object that stands for a model. -/
def fieldsOf {α : Type} (model : String) (read : List (String × Value) → Checked α) : Check α
  | .object fields => read fields
  | _ => .issue (.notObject model)

end Check

/-- The names of a field: on the wire, and plain. -/
structure FieldName where
  wire : String
  plain : String
deriving Repr, DecidableEq

namespace FieldName

/-- A name of one word. -/
def word (name : String) : FieldName := ⟨name, name⟩

/-- The name of a field's value if it is missing. -/
def defaultValue : FieldName := ⟨"defaultValue", "default_value"⟩

/-- The name of a field that tells whether a parameter can be changed. -/
def readOnly : FieldName := ⟨"readOnly", "read_only"⟩

/-- A field's value with the name that it was found under. -/
def lookUp (name : FieldName) (fields : List (String × Value)) : Option (String × Value) :=
  match field? fields name.wire with
  | some v => some (name.wire, v)
  | none => (field? fields name.plain).map fun v => (name.plain, v)

/-- A field that must be there. -/
def required {α : Type} (name : FieldName) (check : Check α) (fields : List (String × Value)) :
    Checked α :=
  match name.lookUp fields with
  | some (found, v) => (check v).within (.field found)
  | none => (Checked.issue .missing).within (.field name.wire)

/-- A field with a value for its absence. -/
def withDefault {α : Type} (name : FieldName) (absent : α) (check : Check α)
    (fields : List (String × Value)) : Checked α :=
  match name.lookUp fields with
  | some (found, v) => (check v).within (.field found)
  | none => .valid absent

end FieldName
end TypedInputs

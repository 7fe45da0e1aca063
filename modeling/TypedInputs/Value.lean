/-
# Values

A `Value` is anything that an argument, a catalog or a coerced input can hold: what the wire
carries (null, truth values, integers of any size, double precision numbers, texts, lists and
objects) and what coercion adds to it (decimals, quantities, dates and times). An object keeps its
fields in order, and a name stands in it once.

A few operations need a value of some kind and are refused on others; `KindFault` says how. The
names of kinds are part of what is reported.
-/

import TypedInputs.Calendar.DateTime
import TypedInputs.Number.Quantity

namespace TypedInputs

open Number Calendar

/-- A value of the wire or of an input. -/
inductive Value where
  | null
  | bool (b : Bool)
  | int (n : Int)
  | float (x : Double)
  | text (s : String)
  | list (items : List Value)
  | object (fields : List (String × Value))
  | decimal (d : Decimal)
  | quantity (q : Quantity)
  | date (d : Date)
  | time (t : TimeOfDay)
  | dateTime (t : DateTime)
  | zoned (t : ZonedDateTime)

/-- What kind of value a value is. -/
inductive Kind where
  | null
  | bool
  | int
  | float
  | text
  | list
  | object
  | decimal
  | quantity
  | date
  | time
  | dateTime
deriving Repr, DecidableEq

/-- The name of a kind. -/
def Kind.name : Kind → String
  | .null => "NoneType"
  | .bool => "bool"
  | .int => "int"
  | .float => "float"
  | .text => "str"
  | .list => "list"
  | .object => "dict"
  | .decimal => "Decimal"
  | .quantity => "Quantity"
  | .date => "date"
  | .time => "time"
  | .dateTime => "datetime"

/-- The name of a kind with the family it belongs to. -/
def Kind.qualifiedName : Kind → String
  | .decimal => "decimal.Decimal"
  | .date => "datetime.date"
  | .time => "datetime.time"
  | .dateTime => "datetime.datetime"
  | kind => kind.name

/-- Why an operation is refused on a value. -/
inductive KindFault where
  /-- a field or method that values of this kind do not have -/
  | noAttribute (kind : Kind) (name : String)
  /-- values of this kind have no members -/
  | notIterable (kind : Kind)
  /-- values of this kind are no members of a set -/
  | unhashable (kind : Kind)
  /-- values of these kinds have no order -/
  | unordered (left right : Kind)
  /-- values of this kind are no numbers -/
  | notReal (kind : Kind)
  /-- an integer beyond the greatest double -/
  | beyondDouble
  /-- an integer with too many digits to be written -/
  | integerTooLong
  /-- values of this kind have no JSON text -/
  | notJson (kind : Kind)
deriving Repr, DecidableEq

/-- How a kind fault is reported. -/
def KindFault.message : KindFault → String
  | .noAttribute kind name =>
    "'" ++ kind.qualifiedName ++ "' object has no attribute '" ++ name ++ "'"
  | .notIterable kind => "'" ++ kind.qualifiedName ++ "' object is not iterable"
  | .unhashable kind => "unhashable type: '" ++ kind.qualifiedName ++ "'"
  | .unordered left right =>
    "'<' not supported between instances of '" ++ left.qualifiedName ++ "' and '" ++
      right.qualifiedName ++ "'"
  | .notReal kind => "must be real number, not " ++ kind.qualifiedName
  | .beyondDouble => "int too large to convert to float"
  | .integerTooLong => Text.integerTooLongMessage
  | .notJson kind => "Object of type " ++ kind.name ++ " is not JSON serializable"

namespace Value

/-- The kind of a value. -/
def kind : Value → Kind
  | .null => .null
  | .bool _ => .bool
  | .int _ => .int
  | .float _ => .float
  | .text _ => .text
  | .list _ => .list
  | .object _ => .object
  | .decimal _ => .decimal
  | .quantity _ => .quantity
  | .date _ => .date
  | .time _ => .time
  | .dateTime _ | .zoned _ => .dateTime

/-- A value that counts as true: not null or false, no number that is zero, and nothing that is
empty. -/
def isTruthy : Value → Bool
  | .null => false
  | .bool b => b
  | .int n => n != 0
  | .float x => x.isNonzero
  | .text s => !s.isEmpty
  | .list items => !items.isEmpty
  | .object fields => !fields.isEmpty
  | .decimal d => d.coefficient != 0
  | _ => true

/-- A number of the wire; truth values are none. -/
def isNumber : Value → Bool
  | .int _ | .float _ => true
  | _ => false

/-- The nearest double of a value that is a number in the wide sense: a truth value is 0 or 1. -/
def toDouble : Value → Except KindFault Double
  | .bool b => .ok (if b then Double.ofDecimal false 1 0 else Double.zero false)
  | .int n =>
    match Double.ofInt? n with
    | some x => .ok x
    | none => .error .beyondDouble
  | .float x => .ok x
  | .decimal d => .ok d.toDouble
  | v => .error (.notReal v.kind)

end Value

/-- The value of a name in a list of fields. -/
def field? {α : Type} (fields : List (String × α)) (name : String) : Option α :=
  (fields.find? fun entry => entry.1 == name).map (·.2)

/-- The fields with a value put under a name: in its place if the name is there, else at the end. -/
def setField {α : Type} (name : String) (value : α) : List (String × α) → List (String × α)
  | [] => [(name, value)]
  | (n, v) :: rest => if n = name then (n, value) :: rest else (n, v) :: setField name value rest

theorem setField_nil {α : Type} (name : String) (value : α) :
    setField name value [] = [(name, value)] := rfl

theorem setField_cons_of_eq {α : Type} {n name : String} (h : n = name) (value v : α)
    (rest : List (String × α)) : setField name value ((n, v) :: rest) = (n, value) :: rest :=
  if_pos h

theorem setField_cons_of_ne {α : Type} {n name : String} (h : n ≠ name) (value v : α)
    (rest : List (String × α)) :
    setField name value ((n, v) :: rest) = (n, v) :: setField name value rest :=
  if_neg h

/-- A field that was set has its new value. -/
theorem field?_setField_self {α : Type} (fields : List (String × α)) (name : String) (value : α) :
    field? (setField name value fields) name = some value := by
  induction fields with
  | nil => simp [setField_nil, field?]
  | cons entry rest ih =>
    obtain ⟨n, v⟩ := entry
    by_cases h : n = name
    · rw [setField_cons_of_eq h]
      simp [field?, h]
    · rw [setField_cons_of_ne h]
      simpa [field?, h, List.find?_cons] using ih

/-- Setting a field leaves every other one. -/
theorem field?_setField_of_ne {α : Type} (fields : List (String × α)) {name other : String}
    (value : α) (h : other ≠ name) :
    field? (setField name value fields) other = field? fields other := by
  induction fields with
  | nil => simp [setField_nil, field?, Ne.symm h]
  | cons entry rest ih =>
    obtain ⟨n, v⟩ := entry
    by_cases hn : n = name
    · subst hn
      rw [setField_cons_of_eq rfl]
      simp [field?, Ne.symm h]
    · rw [setField_cons_of_ne hn]
      by_cases ho : n = other
      · subst ho
        simp [field?]
      · simpa [field?, ho, List.find?_cons] using ih

/-- An entry is the one that was set or was there before. -/
theorem mem_of_mem_setField {α : Type} {fields : List (String × α)} {name : String} {value : α}
    {entry : String × α} (h : entry ∈ setField name value fields) :
    entry = (name, value) ∨ entry ∈ fields := by
  induction fields with
  | nil => exact .inl (List.mem_singleton.1 h)
  | cons first rest ih =>
    obtain ⟨n, v⟩ := first
    by_cases hn : n = name
    · rw [setField_cons_of_eq hn, List.mem_cons] at h
      exact h.imp (fun heq => by rw [heq, hn]) (List.mem_cons_of_mem _)
    · rw [setField_cons_of_ne hn, List.mem_cons] at h
      rcases h with rfl | h
      · exact .inr List.mem_cons_self
      · exact (ih h).imp id (List.mem_cons_of_mem _)

/-- A name stands once among the fields, also after one of them was put. -/
theorem nodup_names_setField {α : Type} {fields : List (String × α)}
    (h : (fields.map Prod.fst).Nodup) (name : String) (value : α) :
    ((setField name value fields).map Prod.fst).Nodup := by
  induction fields with
  | nil => simp [setField_nil]
  | cons first rest ih =>
    obtain ⟨n, v⟩ := first
    rw [List.map_cons, List.nodup_cons] at h
    by_cases hn : n = name
    · rw [setField_cons_of_eq hn, List.map_cons, List.nodup_cons]
      exact h
    · rw [setField_cons_of_ne hn, List.map_cons, List.nodup_cons]
      refine ⟨fun hmem => ?_, ih h.2⟩
      obtain ⟨entry, hentry, hname⟩ := List.mem_map.1 hmem
      rcases mem_of_mem_setField hentry with rfl | hrest
      · exact hn hname.symm
      · exact h.1 (List.mem_map.2 ⟨entry, hrest, hname⟩)

end TypedInputs

/-
# Arguments

The arguments of an action are an object that maps names to values. What comes from the wire may be
anything else, and is refused only when it is asked for something that it does not have: a value by
name, which only objects have, or its members, which lists, texts and objects have.

The members of arguments form a set. The ones that no input declares are reported in ascending
order; texts are ordered by code points, numbers by value and dates and times by age.
-/

import TypedInputs.Literal

namespace TypedInputs

open Number

/-- The exact value of a number. -/
inductive ExactNumber where
  | nan
  | infinite (negative : Bool)
  | finite (value : Decimal)
deriving Repr, DecidableEq

namespace ExactNumber

/-- Equality by value; NaN differs from itself. -/
def equals : ExactNumber → ExactNumber → Bool
  | finite a, finite b => a.equals b
  | infinite s, infinite t => s == t
  | _, _ => false

/-- Less by value; NaN is not less than anything, and nothing is less than it. -/
def less : ExactNumber → ExactNumber → Bool
  | finite a, finite b => a.less b
  | finite _, infinite negative => !negative
  | infinite negative, finite _ => negative
  | infinite s, infinite t => s && !t
  | _, _ => false

end ExactNumber

namespace Value

/-- The argument with a name, null when there is none. -/
def argument (arguments : Value) (name : String) : Except KindFault Value :=
  match arguments with
  | .object fields => .ok ((field? fields name).getD .null)
  | v => .error (.noAttribute v.kind "get")

/-- Arguments that count as true; all others stand for no arguments. -/
def orNoArguments (arguments : Value) : Value :=
  if arguments.isTruthy then arguments else .object []

/-- The exact value of a value that is a number in the wide sense: a truth value is 0 or 1. -/
def exactNumber? : Value → Option ExactNumber
  | .bool b => some (.finite ⟨false, if b then 1 else 0, 0⟩)
  | .int n => some (.finite ⟨n < 0, n.natAbs, 0⟩)
  | .float .nan => some .nan
  | .float (.infinite negative) => some (.infinite negative)
  | .float (.finite negative x) => some (.finite (.ofMagnitude negative x))
  | .decimal d => some (.finite d)
  | _ => none

/-- Two values that are the same member of a set. -/
def sameMember (v w : Value) : Bool :=
  match v.exactNumber?, w.exactNumber? with
  | some a, some b => a.equals b
  | _, _ => Literal.equals v w

/-- The order of members: texts among texts, numbers among numbers, dates and times among those of
their kind. -/
def precedes (v w : Value) : Except KindFault Bool :=
  match v, w with
  | .text s, .text t => .ok (s < t)
  | v, .text t => .error (.unordered (Value.text t).kind v.kind)
  | .date d, .date e => .ok (d.ordinal < e.ordinal)
  | .time s, .time t => .ok (s.before t)
  | .dateTime s, .dateTime t => .ok (s.before t)
  | v, w =>
    match v.exactNumber?, w.exactNumber? with
    | some a, some b => .ok (a.less b)
    | _, _ => .error (.unordered v.kind w.kind)

/-- A value that can be a member of a set. -/
def checkHashable : Value → Except KindFault Unit
  | .list _ => .error (.unhashable .list)
  | .object _ => .error (.unhashable .object)
  | _ => .ok ()

/-- A list with each member once. -/
def distinct : List Value → List Value
  | [] => []
  | v :: rest => v :: (distinct rest).filter fun w => !sameMember v w

/-- The members of a value. -/
def members : Value → Except KindFault (List Value)
  | .object fields => .ok (fields.map fun (name, _) => .text name)
  | .text s => .ok (distinct (s.toList.map fun c => .text (String.ofList [c])))
  | .list items => do
    items.forM checkHashable
    .ok (distinct items)
  | v => .error (.notIterable v.kind)

/-- A member put into an ascending list. -/
def insertMember (v : Value) : List Value → Except KindFault (List Value)
  | [] => .ok [v]
  | w :: rest => do
    if ← precedes v w then .ok (v :: w :: rest) else (insertMember v rest).map (w :: ·)

/-- Members in ascending order. -/
def sortMembers (values : List Value) : Except KindFault (List Value) :=
  values.foldrM insertMember []

/-- A name that is declared. -/
def isDeclared (names : List String) : Value → Bool
  | .text s => s ∈ names
  | _ => false

/-- The members of arguments that are no declared names, in ascending order. -/
def undeclared (arguments : Value) (names : List String) : Except KindFault (List Value) := do
  let values ← arguments.members
  sortMembers (values.filter fun v => !isDeclared names v)

end Value
end TypedInputs

/-
# Declared types

An input declares its type by an identifier. The identifiers fall into three groups, and each known
one has a tag.

| group | identifiers | tags |
| --- | --- | --- |
| primitive | `boolean`, `byte`, `short`, `int`, `long`, `float`, `double` | the numbers and `bool` |
| short | `Boolean`, `Integer`, `LocalDate`, `QuantityType`, … | all but `unsupported` |
| qualified | the short ones with their package | all but `unsupported` |

Identifiers differ by case; one that is not listed has the tag `unsupported`.

A tag decides how an input is described in a configuration page: by a category and a context. Texts
of decimals and unsupported types cannot be described. A primitive type cannot be absent, so it has
a default and is always required.
-/

namespace TypedInputs

/-- What a declared type means. -/
inductive TypeTag where
  | bool
  | byte
  | short
  | int
  | long
  | float
  | double
  | decimalText
  | string
  | date
  | time
  | dateTime
  | zonedDateTime
  | quantity
  | unsupported
deriving Repr, DecidableEq

namespace TypeTag

/-- All tags. -/
def all : List TypeTag :=
  [bool, byte, short, int, long, float, double, decimalText, string, date, time, dateTime,
   zonedDateTime, quantity, unsupported]

/-- The name of a tag. -/
def name : TypeTag → String
  | bool => "bool"
  | byte => "byte"
  | short => "short"
  | int => "int"
  | long => "long"
  | float => "float"
  | double => "double"
  | decimalText => "decimal_text"
  | string => "string"
  | date => "date"
  | time => "time"
  | dateTime => "datetime"
  | zonedDateTime => "zoned_datetime"
  | quantity => "quantity"
  | unsupported => "unsupported"

/-- The tag with a name. -/
def ofName? (name : String) : Option TypeTag := all.find? fun tag => tag.name == name

/-- How a tag is shown where a rule for it is missing. -/
def shown (tag : TypeTag) : String :=
  "<TypeTag." ++ tag.name.toUpper ++ ": '" ++ tag.name ++ "'>"

/-- The width in bits of an integral tag. -/
def width? : TypeTag → Option Nat
  | byte => some 8
  | short => some 16
  | int => some 32
  | long => some 64
  | _ => none

/-- The tags whose values are written as text in a grammar of their own. -/
def hasTextGrammar : TypeTag → Bool
  | string | unsupported => false
  | _ => true

/-- The tags that numbers are narrowed to. -/
def hasNumberRule : TypeTag → Bool
  | byte | short | int | long | float | double | decimalText | quantity => true
  | _ => false

end TypeTag

/-- A type identifier with what it means. -/
structure DeclaredType where
  identifier : String
  tag : TypeTag
  primitive : Bool
deriving Repr, DecidableEq

/-- The identifiers of the primitive types. -/
def primitiveTypes : List (String × TypeTag) :=
  [("boolean", .bool), ("byte", .byte), ("short", .short), ("int", .int), ("long", .long),
   ("float", .float), ("double", .double)]

/-- The short identifiers of the other types, with the package that a qualified one has in front. -/
def objectTypes : List (String × String × TypeTag) :=
  [("Boolean", "java.lang.", .bool), ("Byte", "java.lang.", .byte), ("Short", "java.lang.", .short),
   ("Integer", "java.lang.", .int), ("Long", "java.lang.", .long), ("Float", "java.lang.", .float),
   ("Double", "java.lang.", .double), ("String", "java.lang.", .string),
   ("LocalDate", "java.time.", .date), ("LocalTime", "java.time.", .time),
   ("LocalDateTime", "java.time.", .dateTime), ("ZonedDateTime", "java.time.", .zonedDateTime),
   ("DecimalType", "org.openhab.core.library.types.", .decimalText),
   ("QuantityType", "org.openhab.core.library.types.", .quantity)]

/-- The short and then the qualified identifiers of the types that are not primitive. -/
def objectIdentifiers : List (String × TypeTag) :=
  objectTypes.map (fun (short, _, tag) => (short, tag)) ++
    objectTypes.map fun (short, package, tag) => (package ++ short, tag)

/-- The tag of an identifier in a list. -/
def tagOf? (types : List (String × TypeTag)) (identifier : String) : Option TypeTag :=
  (types.find? fun entry => entry.1 == identifier).map (·.2)

/-- All known identifiers: primitive, short, qualified. -/
def knownIdentifiers : List String := (primitiveTypes ++ objectIdentifiers).map (·.1)

namespace DeclaredType

/-- What an identifier means. -/
def ofIdentifier (identifier : String) : DeclaredType :=
  match tagOf? primitiveTypes identifier with
  | some tag => ⟨identifier, tag, true⟩
  | none => ⟨identifier, (tagOf? objectIdentifiers identifier).getD .unsupported, false⟩

/-- A type with a known identifier. -/
def isSupported (t : DeclaredType) : Bool := t.tag != .unsupported

end DeclaredType

/-- The category of a configuration parameter. -/
inductive Category where
  | boolean
  | integer
  | decimal
  | text
deriving Repr, DecidableEq

/-- All categories. -/
def Category.all : List Category := [.boolean, .integer, .decimal, .text]

/-- The name of a category. -/
def Category.name : Category → String
  | .boolean => "BOOLEAN"
  | .integer => "INTEGER"
  | .decimal => "DECIMAL"
  | .text => "TEXT"

/-- The context of a configuration parameter: the editor that fits it. -/
inductive Context where
  | date
  | time
  | dateTime
deriving Repr, DecidableEq

/-- All contexts. -/
def Context.all : List Context := [.date, .time, .dateTime]

/-- The name of a context. -/
def Context.name : Context → String
  | .date => "date"
  | .time => "time"
  | .dateTime => "datetime"

/-- What a declared type alone says about the parameter that describes it. -/
structure Intrinsics where
  category : Category
  context : Option Context
  default : Option String
  required : Bool
deriving Repr, DecidableEq

namespace TypeTag

/-- The category of a tag that can be described. -/
def category? : TypeTag → Option Category
  | bool => some .boolean
  | byte | short | int | long => some .integer
  | float | double => some .decimal
  | string | date | time | dateTime | zonedDateTime | quantity => some .text
  | decimalText | unsupported => none

/-- The context of a tag that has one. -/
def context? : TypeTag → Option Context
  | date => some .date
  | time => some .time
  | dateTime | zonedDateTime => some .dateTime
  | _ => none

end TypeTag

/-- The default of a primitive type. -/
def Category.primitiveDefault : Category → Option String
  | .boolean => some "false"
  | .integer | .decimal => some "0"
  | .text => none

/-- What a declared type says about its parameter, `none` when it cannot be described. -/
def DeclaredType.intrinsics? (t : DeclaredType) : Option Intrinsics :=
  t.tag.category?.map fun category =>
    if t.primitive then ⟨category, none, category.primitiveDefault, true⟩
    else ⟨category, t.tag.context?, none, false⟩

end TypedInputs

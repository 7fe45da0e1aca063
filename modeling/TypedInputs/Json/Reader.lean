/-
# Reading JSON

Catalogs and arguments are JSON texts. Beyond the standard, `NaN`, `Infinity` and `-Infinity` are
numbers, and a name that an object repeats keeps its first place and takes its last value. A number
with a fraction or an exponent is a double, any other an integer of any size up to the limit on
digits.

A text that is no JSON is refused with the first thing that is wrong in it and its place: the line,
the column in it, both from 1, and the number of characters before it. While a text is read, a place
is the number of characters from it to the end.

A text has Unicode characters alone. JSON can also write half of a pair of code units by its number,
which is no character without the other half and is read as the replacement character. Two names that
differ in such halves only are one name here.
-/

import TypedInputs.Value

namespace TypedInputs
namespace Json

open Number

/-- The things that can be wrong in a JSON text. -/
inductive Complaint where
  | byteOrderMark
  | noValue
  | noName
  | noColon
  | noComma
  | extraData
  | unterminatedText
  | controlCharacter
  | unknownEscape
  | unknownCode
deriving Repr, DecidableEq

/-- How a complaint is reported. -/
def Complaint.message : Complaint → String
  | .byteOrderMark => "Unexpected UTF-8 BOM (decode using utf-8-sig)"
  | .noValue => "Expecting value"
  | .noName => "Expecting property name enclosed in double quotes"
  | .noColon => "Expecting ':' delimiter"
  | .noComma => "Expecting ',' delimiter"
  | .extraData => "Extra data"
  | .unterminatedText => "Unterminated string starting at"
  | .controlCharacter => "Invalid control character at"
  | .unknownEscape => "Invalid \\escape"
  | .unknownCode => "Invalid \\uXXXX escape"

/-- A place in a text. -/
structure Place where
  line : Nat
  column : Nat
  before : Nat
deriving Repr, DecidableEq

/-- The place after the first `n` characters of a text. -/
def Place.after (n : Nat) (text : List Char) : Place :=
  let before := text.take n
  ⟨before.count '\n' + 1, (before.reverse.takeWhile (· != '\n')).length + 1, n⟩

/-- How a place is reported. -/
def Place.message (p : Place) : String :=
  "line " ++ toString p.line ++ " column " ++ toString p.column ++ " (char " ++ toString p.before ++
    ")"

/-- Why a text has no value. -/
inductive Fault where
  | malformed (complaint : Complaint) (place : Place)
  | tooManyDigits (count : Nat)
deriving Repr, DecidableEq

/-- How a fault is reported. -/
def Fault.message : Fault → String
  | .malformed complaint place => complaint.message ++ ": " ++ place.message
  | .tooManyDigits count => Text.tooManyDigitsMessage count

/-- What ends the reading of a text: a complaint about the place with so many characters after it,
or an integer that is too long. -/
inductive Stop where
  | complaint (what : Complaint) (left : Nat)
  | tooManyDigits (count : Nat)
deriving Repr, DecidableEq

/-- The characters that may stand between the parts of a JSON text. -/
def isBlank (c : Char) : Bool := c == ' ' || c == '\t' || c == '\n' || c == '\r'

/-- A text without the blanks at its start. -/
def skipBlanks (text : List Char) : List Char := text.dropWhile isBlank

/-- A stop at the start of a text. -/
def stopAt (what : Complaint) (text : List Char) : Stop := .complaint what text.length

/-- A part of a text in quotes: a character, or a code unit that was written by its number. -/
inductive Piece where
  | char (c : Char)
  | unit (code : Nat)
deriving Repr, DecidableEq

/-- The first half of a pair of code units. -/
def isLeading (code : Nat) : Bool := 0xd800 ≤ code && code < 0xdc00

/-- The second half of a pair of code units. -/
def isTrailing (code : Nat) : Bool := 0xdc00 ≤ code && code < 0xe000

/-- The character with a code point; a half pair alone is the replacement character. -/
def charOfCode (code : Nat) : Char :=
  if code.isValidChar then Char.ofNat code else '\ufffd'

/-- The characters that pieces stand for. Two halves in a row are one character. -/
def charsOfPieces : List Piece → List Char
  | [] => []
  | .char c :: rest => c :: charsOfPieces rest
  | .unit first :: .unit second :: rest =>
    if isLeading first && isTrailing second then
      charOfCode (0x10000 + (first - 0xd800) * 0x400 + (second - 0xdc00)) :: charsOfPieces rest
    else charOfCode first :: charsOfPieces (.unit second :: rest)
  | .unit code :: rest => charOfCode code :: charsOfPieces rest

/-- The value of a hexadecimal digit. -/
def hexValue? (c : Char) : Option Nat :=
  if '0' ≤ c ∧ c ≤ '9' then some (c.toNat - '0'.toNat)
  else if 'a' ≤ c ∧ c ≤ 'f' then some (c.toNat - 'a'.toNat + 10)
  else if 'A' ≤ c ∧ c ≤ 'F' then some (c.toNat - 'A'.toNat + 10)
  else none

/-- The number that hexadecimal digits write. -/
def hexCode? (digits : List Char) : Option Nat :=
  digits.foldlM (fun n c => (hexValue? c).map (16 * n + ·)) 0

/-- The character that a letter after a backslash stands for. -/
def escaped? : Char → Option Char
  | '\x22' => some '\x22'
  | '\x5c' => some '\x5c'
  | '/' => some '/'
  | 'b' => some '\x08'
  | 'f' => some '\x0c'
  | 'n' => some '\n'
  | 'r' => some '\r'
  | 't' => some '\t'
  | _ => none

/-- The pieces up to the closing quote, put in front of `read` in reverse; `opened` is the place of
the opening quote. A code needs a character behind it. -/
def readPieces (opened : Nat) (read : List Piece) : List Char → Except Stop (List Piece × List Char)
  | [] => .error (.complaint .unterminatedText opened)
  | '\x22' :: rest => .ok (read.reverse, rest)
  | ['\x5c'] => .error (.complaint .unterminatedText opened)
  | '\x5c' :: 'u' :: a :: b :: c :: d :: e :: rest =>
    match hexCode? [a, b, c, d] with
    | some code => readPieces opened (.unit code :: read) (e :: rest)
    | none => .error (stopAt .unknownCode ('u' :: a :: b :: c :: d :: e :: rest))
  | '\x5c' :: 'u' :: rest => .error (stopAt .unknownCode ('u' :: rest))
  | '\x5c' :: c :: rest =>
    match escaped? c with
    | some d => readPieces opened (.char d :: read) rest
    | none => .error (stopAt .unknownEscape ('\x5c' :: c :: rest))
  | c :: rest =>
    if c < ' ' then .error (stopAt .controlCharacter (c :: rest))
    else readPieces opened (.char c :: read) rest

/-- The text whose opening quote has been read. -/
def readText (rest : List Char) : Except Stop (String × List Char) :=
  (readPieces (rest.length + 1) [] rest).map fun (pieces, tail) =>
    (String.ofList (charsOfPieces pieces), tail)

/-- The point and digits of a fraction, and what follows them; nothing is read when none stand
there. -/
def readFraction : List Char → List Char × List Char
  | '.' :: rest =>
    match rest.span Char.isDigit with
    | ([], _) => ([], '.' :: rest)
    | (digits, tail) => ('.' :: digits, tail)
  | text => ([], text)

/-- The letter, sign and digits of an exponent, and what follows them; nothing is read when none
stand there. -/
def readExponent : List Char → List Char × List Char
  | c :: rest =>
    if c = 'e' ∨ c = 'E' then
      let (sign, unsigned) := rest.span fun d => d == '+' || d == '-'
      match unsigned.span Char.isDigit with
      | ([], _) => ([], c :: rest)
      | (digits, tail) => if sign.length ≤ 1 then (c :: sign ++ digits, tail) else ([], c :: rest)
    else ([], c :: rest)
  | [] => ([], [])

/-- The number at the start of a text. -/
def readNumber (text : List Char) : Except Stop (Value × List Char) :=
  let (sign, unsigned) :=
    match text with
    | '-' :: rest => (['-'], rest)
    | _ => ([], text)
  let (whole, rest) :=
    match unsigned with
    | '0' :: rest => (['0'], rest)
    | _ => unsigned.span Char.isDigit
  let (fraction, rest) := readFraction rest
  let (exponent, rest) := readExponent rest
  match whole, Text.Numeral.ofText? (sign ++ whole ++ fraction ++ exponent) with
  | _ :: _, some n =>
    if !fraction.isEmpty || !exponent.isEmpty then .ok (.float (Double.ofNumeral n), rest)
    else if Text.maxIntegerDigits < whole.length then .error (.tooManyDigits whole.length)
    else .ok (.int (Double.signed n.negative n.coefficient), rest)
  | _, _ => .error (stopAt .noValue text)

/-- The words that stand for values. -/
def words : List (List Char × Value) :=
  [("null".toList, .null), ("true".toList, .bool true), ("false".toList, .bool false),
   ("NaN".toList, .float .nan), ("Infinity".toList, .float (.infinite false)),
   ("-Infinity".toList, .float (.infinite true))]

/-- The word or number at the start of a text. -/
def readScalar (text : List Char) : Except Stop (Value × List Char) :=
  match words.find? fun (word, _) => word.isPrefixOf text with
  | some (word, v) => .ok (v, text.drop word.length)
  | none => readNumber text

mutual

/-- The value at the start of a text. Each step down takes one of `fuel`; a bracket is two steps, so
a text never needs more than two for each of its characters. -/
def readValue : Nat → List Char → Except Stop (Value × List Char)
  | 0, text => .error (stopAt .noValue text)
  | fuel + 1, text =>
    match text with
    | '\x22' :: rest => (readText rest).map fun (s, tail) => (.text s, tail)
    | '[' :: rest =>
      match skipBlanks rest with
      | ']' :: tail => .ok (.list [], tail)
      | inside => (readItems fuel inside).map fun (items, tail) => (.list items, tail)
    | '\x7b' :: rest =>
      match skipBlanks rest with
      | '\x7d' :: tail => .ok (.object [], tail)
      | inside => (readFields fuel [] inside).map fun (fields, tail) => (.object fields, tail)
    | _ => readScalar text

/-- The items up to the closing bracket; the first one stands at the start of the text. -/
def readItems : Nat → List Char → Except Stop (List Value × List Char)
  | 0, text => .error (stopAt .noValue text)
  | fuel + 1, text => do
    let (v, rest) ← readValue fuel text
    match skipBlanks rest with
    | ']' :: tail => .ok ([v], tail)
    | ',' :: rest => (readItems fuel (skipBlanks rest)).map fun (items, tail) => (v :: items, tail)
    | rest => .error (stopAt .noComma rest)

/-- The fields up to the closing brace, put to those read before; the first name stands at the
start of the text. -/
def readFields : Nat → List (String × Value) → List Char →
    Except Stop (List (String × Value) × List Char)
  | 0, _, text => .error (stopAt .noValue text)
  | fuel + 1, read, text =>
    match text with
    | '\x22' :: rest => do
      let (name, rest) ← readText rest
      match skipBlanks rest with
      | ':' :: rest =>
        let (v, rest) ← readValue fuel (skipBlanks rest)
        let fields := setField name v read
        match skipBlanks rest with
        | '\x7d' :: tail => .ok (fields, tail)
        | ',' :: rest => readFields fuel fields (skipBlanks rest)
        | rest => .error (stopAt .noComma rest)
      | rest => .error (stopAt .noColon rest)
    | _ => .error (stopAt .noName text)

end

/-- The value of a text that is one JSON value with blanks around it. -/
def readAll (text : List Char) : Except Stop Value := do
  if text.head? = some '\ufeff' then .error (stopAt .byteOrderMark text)
  let (v, rest) ← readValue (2 * text.length + 2) (skipBlanks text)
  match skipBlanks rest with
  | [] => .ok v
  | rest => .error (stopAt .extraData rest)

/-- The value of a JSON text. -/
def read (text : String) : Except Fault Value :=
  let chars := text.toList
  (readAll chars).mapError fun
    | .complaint what left => .malformed what (.after (chars.length - left) chars)
    | .tooManyDigits count => .tooManyDigits count

end Json
end TypedInputs

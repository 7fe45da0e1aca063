/-
# Options and arguments

A level of the command line knows some options, by spellings that begin with a hyphen, and takes
arguments in the places that are left. Each word is one of three:

| word | is |
| --- | --- |
| `--`, the first time | a divider; every word behind it is an argument |
| a spelling, or the unique beginning of a long one | an option; `=` attaches its argument |
| a spelling of one letter with more behind it | an option with the rest attached |
| another word that begins with a hyphen | an unknown option |
| a hyphen alone, a negative number, an unknown option with a space in it | an argument |
| any other word | an argument |

A beginning that fits more than one spelling is an error. `read` then goes through the words from
left to right: an option takes what is attached to it or the argument behind it, and each other
argument takes the next free place. Help ends the reading where it is asked for; anything that does
not fit is an error there, and what has no place is left over.
-/

import TypedInputs.Text.Blank
import TypedInputs.Text.Digit

namespace TypedInputs
namespace CommandLine

/-- The options of all levels. -/
inductive OptionName where
  | help
  | logLevel
  | action
  | args
  | argsFile
deriving Repr, DecidableEq

namespace OptionName

/-- An option that has an argument; only the one for help has none. -/
def takesArgument : OptionName → Bool
  | help => false
  | _ => true

/-- Options that exclude each other. -/
def excludes : OptionName → OptionName → Bool
  | args, argsFile | argsFile, args => true
  | _, _ => false

end OptionName

/-- The places for arguments. -/
inductive Places where
  /-- so many single arguments -/
  | single (count : Nat)
  /-- a command, with everything behind it -/
  | command
deriving Repr, DecidableEq

/-- A level of the command line: the spellings of its options, and its places. -/
structure Level where
  spellings : List (String × OptionName)
  places : Places

/-- What is attached to an option: the text, and whether `=` stands before it. -/
structure Attached where
  equals : Bool
  text : List Char
deriving Repr, DecidableEq

/-- A use of an option. -/
structure OptionUse where
  option : OptionName
  /-- spelled with one hyphen -/
  short : Bool
  attached : Option Attached
deriving Repr, DecidableEq

/-- What a word is. -/
inductive Mark where
  | divider
  | argument
  | option (use : OptionUse)
  | unknown
deriving Repr, DecidableEq

/-- A word with what it is. -/
structure Token where
  text : String
  mark : Mark
deriving Repr, DecidableEq

/-- What ends the reading of the command line. -/
inductive Interruption where
  /-- the words do not fit -/
  | usage
  /-- help is asked for -/
  | help
deriving Repr, DecidableEq

/-- A spelling that begins with one hyphen. -/
def isShort (spelling : List Char) : Bool := spelling[1]? != some '-'

/-- A negative number, maybe with one final line feed. -/
def isNegativeNumber : List Char → Bool
  | '-' :: rest =>
    match Text.spanDigits rest with
    | (_, '.' :: tail) =>
      match Text.spanDigits tail with
      | (_ :: _, tail) => Text.isLineEnd tail
      | _ => false
    | (_ :: _, tail) => Text.isLineEnd tail
    | _ => false
  | _ => false

namespace Level

/-- The option with a spelling. -/
def option? (level : Level) (spelling : List Char) : Option OptionName :=
  (level.spellings.find? fun entry => entry.1.toList == spelling).map (·.2)

/-- The uses that a word may mean which is no spelling itself. -/
def candidates (level : Level) (word : List Char) : List OptionUse :=
  if isShort word then
    level.spellings.filterMap fun (spelling, option) =>
      if spelling.toList = word.take 2 then some ⟨option, true, some ⟨false, word.drop 2⟩⟩
      else if word.isPrefixOf spelling.toList then some ⟨option, isShort spelling.toList, none⟩
      else none
  else
    let start := word.takeWhile (· != '=')
    let attached :=
      match word.drop start.length with
      | _ :: text => some ⟨true, text⟩
      | [] => none
    level.spellings.filterMap fun (spelling, option) =>
      if start.isPrefixOf spelling.toList then some ⟨option, isShort spelling.toList, attached⟩
      else none

/-- The use of an option that a word means, if the text before `=` is a spelling. -/
def attachedUse? (level : Level) (word : List Char) : Option OptionUse :=
  let start := word.takeWhile (· != '=')
  match word.drop start.length, level.option? start with
  | _ :: text, some option => some ⟨option, isShort start, some ⟨true, text⟩⟩
  | _, _ => none

/-- What a word before the divider is. -/
def mark (level : Level) (word : List Char) : Except Interruption Mark :=
  if word.head? ≠ some '-' then .ok .argument
  else
    match level.option? word with
    | some option => .ok (.option ⟨option, isShort word, none⟩)
    | none =>
      if word.length = 1 then .ok .argument
      else
        match level.attachedUse? word, level.candidates word with
        | some use, _ => .ok (.option use)
        | none, [use] => .ok (.option use)
        | none, _ :: _ :: _ => .error .usage
        | none, [] => .ok (if isNegativeNumber word || ' ' ∈ word then .argument else .unknown)

/-- The words with what each is. -/
def tokens (level : Level) : List String → Except Interruption (List Token)
  | [] => .ok []
  | word :: rest =>
    if word = "--" then
      .ok (⟨word, .divider⟩ :: rest.map fun argument => ⟨argument, .argument⟩)
    else do
      let first ← level.mark word.toList
      let others ← level.tokens rest
      .ok (⟨word, first⟩ :: others)

end Level

/-- What has been read. -/
structure Reading where
  given : List (OptionName × String)
  arguments : List String
  command : Option (String × List String)
  leftOver : List String
deriving Repr, DecidableEq

namespace Reading

/-- The argument of an option, the last one if there are more. -/
def option? (r : Reading) (option : OptionName) : Option String :=
  (r.given.reverse.find? fun entry => entry.1 == option).map (·.2)

/-- The reading with an option given. -/
def give (r : Reading) (option : OptionName) (argument : String) : Except Interruption Reading :=
  if r.given.any fun entry => option.excludes entry.1 then .error .usage
  else .ok { r with given := r.given ++ [(option, argument)] }

/-- The reading with an argument in the next place. -/
def take (r : Reading) (argument : String) : Reading :=
  { r with arguments := r.arguments ++ [argument] }

/-- The reading with a word left over. -/
def leave (r : Reading) (word : String) : Reading := { r with leftOver := r.leftOver ++ [word] }

end Reading

/-- What asking for help by one letter with text attached comes to. More letters may follow, and the
first one that is no option is too late to matter. -/
def bundledHelp : Bool → List Char → Interruption
  | _, [] => .usage
  | equals, c :: rest =>
    if equals || c == '-' then .usage
    else if c ≠ 'h' then .help
    else
      match rest with
      | [] => .help
      | '=' :: text => bundledHelp true text
      | text => bundledHelp false text

/-- What asking for help comes to. -/
def helpInterruption (use : OptionUse) : Interruption :=
  match use.attached with
  | none => .help
  | some attached => if use.short then bundledHelp attached.equals attached.text else .usage

/-- The argument that a word gives in a place of its own. A second divider there is none, and is
shown as an empty list. -/
def argumentOfWord (word : String) : String := if word = "--" then "[]" else word

/-- The words read from left to right. -/
def readTokens (places : Places) (r : Reading) : List Token → Except Interruption Reading
  | [] => .ok r
  | ⟨word, .unknown⟩ :: rest => readTokens places (r.leave word) rest
  | ⟨_, .option use⟩ :: rest =>
    if !use.option.takesArgument then .error (helpInterruption use)
    else
      match use.attached, rest with
      | some attached, rest => do
        let given ← r.give use.option (String.ofList attached.text)
        readTokens places given rest
      | none, ⟨argument, .argument⟩ :: rest => do
        let given ← r.give use.option argument
        readTokens places given rest
      | none, _ => .error .usage
  | ⟨word, .argument⟩ :: rest =>
    match places, rest with
    | .command, rest => .ok { r with command := some (word, rest.map Token.text) }
    | .single 0, rest => readTokens places (r.leave word) rest
    | .single (n + 1), ⟨_, .divider⟩ :: rest =>
      readTokens (.single n) (r.take (argumentOfWord word)) rest
    | .single (n + 1), rest => readTokens (.single n) (r.take (argumentOfWord word)) rest
  | ⟨word, .divider⟩ :: rest =>
    match places, rest with
    | .command, _ => .error .usage
    | .single (n + 1), ⟨argument, .argument⟩ :: rest =>
      readTokens (.single n) (r.take argument) rest
    | _, rest => readTokens places (r.leave word) rest

/-- The words of a level read. -/
def Level.read (level : Level) (words : List String) : Except Interruption Reading := do
  let tokens ← level.tokens words
  readTokens level.places ⟨[], [], none, []⟩ tokens

end CommandLine
end TypedInputs

/-
# Commands

The command line holds `--log-level` and one of three commands with its own options and arguments.
Without a command it asks for help. Words that are left over at any level are an error, but only
when everything has been read, so that help comes first.
-/

import TypedInputs.CommandLine.Tokens

namespace TypedInputs
namespace CommandLine

/-- What to do. -/
inductive Command where
  | describe (catalog : String) (action : Option String)
  | coerce (catalog action : String) (args argsFile : Option String)
  | validate (catalog : String)
deriving Repr, DecidableEq

/-- The paths of the files that a command may read. -/
def Command.paths : Command → List String
  | .describe catalog _ | .validate catalog => [catalog]
  | .coerce catalog _ _ argsFile => catalog :: argsFile.toList

/-- A command line that was understood. -/
structure Invocation where
  logLevel : Option String
  command : Option Command
deriving Repr, DecidableEq

/-- The names of the commands. -/
inductive CommandName where
  | describe
  | coerce
  | validate
deriving Repr, DecidableEq

/-- What ends a command line before anything is done: an error, or help on everything or on one
command. -/
inductive Ending where
  | usage
  | help (topic : Option CommandName)
deriving Repr, DecidableEq

namespace CommandName

/-- The command with a name. -/
def ofText? : String → Option CommandName
  | "describe" => some describe
  | "coerce" => some coerce
  | "validate" => some validate
  | _ => none

/-- The level of the command line behind a command. -/
def level : CommandName → Level
  | describe => ⟨[("-h", .help), ("--help", .help), ("--action", .action)], .single 1⟩
  | coerce =>
    ⟨[("-h", .help), ("--help", .help), ("--args", .args), ("--args-file", .argsFile)], .single 2⟩
  | validate => ⟨[("-h", .help), ("--help", .help)], .single 1⟩

/-- The command that a reading of its level stands for, `none` when arguments are missing. -/
def build? (name : CommandName) (r : Reading) : Option Command :=
  match name, r.arguments with
  | describe, [catalog] => some (.describe catalog (r.option? .action))
  | coerce, [catalog, action] =>
    some (.coerce catalog action (r.option? .args) (r.option? .argsFile))
  | validate, [catalog] => some (.validate catalog)
  | _, _ => none

end CommandName

/-- The level of the command line before a command. -/
def topLevel : Level :=
  ⟨[("-h", .help), ("--help", .help), ("--log-level", .logLevel)], .command⟩

/-- An interruption at a level. -/
def endingAt (topic : Option CommandName) : Interruption → Ending
  | .usage => .usage
  | .help => .help topic

/-- A command behind its name, and the words that are left over. -/
def readCommand (word : String) (words : List String) : Except Ending (Command × List String) :=
  match CommandName.ofText? word with
  | none => .error .usage
  | some name => do
    let r ← (name.level.read words).mapError (endingAt (some name))
    match name.build? r with
    | some command => .ok (command, r.leftOver)
    | none => .error .usage

/-- A command line understood. -/
def parse (words : List String) : Except Ending Invocation := do
  let r ← (topLevel.read words).mapError (endingAt none)
  match r.command with
  | none => if r.leftOver = [] then .ok ⟨r.option? .logLevel, none⟩ else .error .usage
  | some (word, rest) =>
    let (command, leftOver) ← readCommand word rest
    if r.leftOver = [] ∧ leftOver = [] then .ok ⟨r.option? .logLevel, some command⟩
    else .error .usage

/-- The paths of the files that a command line may ask for. -/
def pathsOf (words : List String) : List String :=
  match parse words with
  | .ok ⟨_, some command⟩ => command.paths
  | _ => []

/-- Lines with a line feed after each. -/
def textOfLines (lines : List String) : String := String.join (lines.map (· ++ "\n"))

/-- The help on everything. -/
def generalHelp : String :=
  textOfLines
    ["usage: actioninputs [-h] [--log-level LOG_LEVEL]",
     "                    \x7bdescribe,coerce,validate\x7d ...",
     "",
     "Describe action inputs and coerce action arguments",
     "",
     "positional arguments:",
     "  \x7bdescribe,coerce,validate\x7d",
     "                        Command to execute",
     "    describe            Print configuration-UI descriptions",
     "    coerce              Coerce arguments for one action",
     "    validate            Validate a catalog",
     "",
     "options:",
     "  -h, --help            show this help message and exit",
     "  --log-level LOG_LEVEL",
     "                        Log level (DEBUG, INFO, WARNING, ERROR)"]

/-- The help on a command. -/
def CommandName.help : CommandName → String
  | describe =>
    textOfLines
      ["usage: actioninputs describe [-h] [--action ACTION] catalog",
       "",
       "positional arguments:",
       "  catalog          Path to action catalog (JSON or YAML)",
       "",
       "options:",
       "  -h, --help       show this help message and exit",
       "  --action ACTION  Only describe this action uid"]
  | coerce =>
    textOfLines
      ["usage: actioninputs coerce [-h] [--args ARGS | --args-file ARGS_FILE]",
       "                           catalog action",
       "",
       "positional arguments:",
       "  catalog               Path to action catalog (JSON or YAML)",
       "  action                Action uid",
       "",
       "options:",
       "  -h, --help            show this help message and exit",
       "  --args ARGS           Arguments as a JSON object",
       "  --args-file ARGS_FILE",
       "                        Path to a JSON file with the arguments"]
  | validate =>
    textOfLines
      ["usage: actioninputs validate [-h] catalog",
       "",
       "positional arguments:",
       "  catalog     Path to action catalog (JSON or YAML)",
       "",
       "options:",
       "  -h, --help  show this help message and exit"]

/-- The help on a topic. -/
def helpOn : Option CommandName → String
  | none => generalHelp
  | some name => name.help

end CommandLine
end TypedInputs

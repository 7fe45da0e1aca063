/-
# Paths and files

A path is written with slashes. Empty parts and parts that are a single point do not count, so that
`./a//b/` is `a/b`, and a path without parts is `.`.

The suffix of a path is the end of its last part from the last point on, if there is something
before and after that point; the case of its letters counts.

A file holds bytes. Whoever reads it as a text decodes them, and the lines of the text may end in a line
feed, a carriage return or both.
-/

import TypedInputs.Text.Divided
import TypedInputs.Text.Utf8

namespace TypedInputs
namespace Catalog
namespace Path

/-- What stands between the slashes of a path. -/
def steps (path : String) : List String := (Text.divide '/' path.toList).map String.ofList

/-- The parts of a path. -/
def parts (path : String) : List String := (steps path).filter fun part => part ≠ "" && part ≠ "."

/-- The slashes that a path from the root begins with: two stay two, any other number is one. -/
def root (path : String) : String :=
  match path.toList.takeWhile (· == '/') with
  | [] => ""
  | [_, _] => "//"
  | _ => "/"

/-- A path in its normal form. -/
def normal (path : String) : String :=
  let text := root path ++ String.intercalate "/" (parts path)
  if text = "" then "." else text

/-- A path whose end asks for a folder: it ends in a slash, maybe with a point behind it. -/
def asksForFolder (path : String) : Bool :=
  match (steps path).getLast? with
  | some last => last = "" || last = "."
  | none => false

/-- The suffix of a name. -/
def suffixOfName (name : List Char) : List Char :=
  let tail := (name.reverse.takeWhile (· != '.')).reverse
  let head := name.take (name.length - tail.length)
  if 1 < head.length ∧ tail ≠ [] then '.' :: tail else []

/-- The suffix of a path. -/
def suffix (path : String) : String :=
  match (parts path).getLast? with
  | some name => String.ofList (suffixOfName name.toList)
  | none => ""

end Path

/-- What stands at a path. -/
inductive Entry where
  | missing
  /-- nothing, since the way leads through a file -/
  | behindFile
  | folder
  | file (bytes : List UInt8)
deriving Repr, DecidableEq

/-- The files that can be read: what stands at each path. -/
abbrev Files := String → Entry

/-- Where steps lead that start in a folder, or the place that is no folder and should be one.
Nothing is known of what lies above the first folder, except that it is a folder. -/
def walk (isFolder : List String → Bool) (here : List String) :
    List String → Except (List String) (List String)
  | [] => .ok here
  | step :: rest =>
    if !isFolder here then .error here
    else if step ≠ ".." then walk isFolder (here ++ [step]) rest
    else if here ≠ [] then walk isFolder here.dropLast rest
    else if rest.all (· == "..") then .ok []
    else .error rest

/-- What stands at each path when a folder holds files with these texts under these names. -/
def Files.ofList (files : List (String × String)) : Files := fun path =>
  let known := files.map fun (name, content) => (Path.parts name, content)
  let isFolder (place : List String) : Bool :=
    place.isEmpty || known.any fun (name, _) => place.isPrefixOf name && place ≠ name
  let content? (place : List String) : Option String :=
    (known.find? fun entry => entry.1 == place).map (·.2)
  match walk isFolder [] (Path.parts path) with
  | .error place => if (content? place).isSome then .behindFile else .missing
  | .ok place =>
    if Path.root path ≠ "" then if place.isEmpty then .folder else .missing
    else
      match content? place with
      | some content => .file (Text.encode content)
      | none => if isFolder place then .folder else .missing

/-- Characters with each line ended by a line feed alone. -/
def unifyLines : List Char → List Char
  | '\r' :: '\n' :: rest => '\n' :: unifyLines rest
  | '\r' :: rest => '\n' :: unifyLines rest
  | c :: rest => c :: unifyLines rest
  | [] => []

/-- The text of a file's bytes, each of its lines ended by a line feed alone. -/
def textOfFile (bytes : List UInt8) : Except Text.Utf8Fault String :=
  (Text.decode bytes).map fun text => String.ofList (unifyLines text.toList)

/-- What is said of a folder that should be a file. -/
def folderMessage (path : String) : String := "[Errno 21] Is a directory: " ++ Text.quoted path

/-- What is said of a way that leads through a file. -/
def behindFileMessage (path : String) : String := "[Errno 20] Not a directory: " ++ Text.quoted path

/-- What is said of a file that is not there. -/
def missingMessage (path : String) : String :=
  "[Errno 2] No such file or directory: " ++ Text.quoted path

end Catalog
end TypedInputs

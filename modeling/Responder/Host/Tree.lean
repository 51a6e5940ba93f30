/-
# Responder.Host.Tree -- files, and programs among them

Files stand in directories, and a path leads from the working directory
through them.  Nothing is known of files outside of the working directory: a
path that leaves it finds only empty directories.  A program is named by a path
with a slash, or else looked for in the search directories.
-/
import Responder.Host.Services

namespace Responder.Host

set_option autoImplicit false

/-- What a file is good for. -/
inductive Use where
  /-- To be read only. -/
  | data
  | program
  /-- To be run, but it is no program. -/
  | unknownFormat
  deriving DecidableEq

/-- A file or directory. -/
inductive Tree where
  /-- A file; it may hold something that is no text. -/
  | file (use : Use) (text : Option String)
  | directory (children : List (String × Tree))

namespace Tree

/-- What has this name in a directory. -/
def child? (name : String) : Tree → Option Tree
  | .file .. => none
  | .directory children => children.lookup name

/-- Whether this is a directory. -/
def isDirectory : Tree → Bool
  | .file .. => false
  | .directory _ => true

/-- What the parts of a path lead to from a place; `outer` are the directories
around it, innermost first. -/
def walk : List Tree → Tree → List String → Except Fault Tree
  | _, here, [] => .ok here
  | outer, here, part :: rest =>
    if !here.isDirectory then .error .notADirectory
    else if part = "" ∨ part = "." then walk outer here rest
    else if part = ".." then walk outer.tail (outer.headD (.directory [])) rest
    else
      match here.child? part with
      | some next => walk (here :: outer) next rest
      | none => .error .notFound

/-- The parts of a path between its slashes. -/
def parts (path : String) : List String := (path.toList.splitOn '/').map String.ofList

/-- What a path leads to from the working directory. -/
def locate (working : Tree) (path : String) : Except Fault Tree :=
  match parts path with
  | [""] => .error .notFound
  | "" :: rest => walk [] (.directory []) rest
  | all => walk [] working all

/-- The text of the file at a path. -/
def read (working : Tree) (path : String) : Except Fault String :=
  if path.contains '\x00' then .error .nulInFileName
  else
    match working.locate path with
    | .ok (.file _ (some text)) => .ok text
    | .ok (.file _ none) => .error .notText
    | .ok (.directory _) => .error .isADirectory
    | .error fault => .error fault

/-- Whether something may be started. -/
def startable : Tree → Except Fault Unit
  | .file .program _ => .ok ()
  | .file .unknownFormat _ => .error .notAProgram
  | .file .data _ => .error .permissionDenied
  | .directory _ => .error .permissionDenied

/-- The first of several directories in which a path leads somewhere. -/
def search (path : String) : List Tree → Except Fault Tree
  | [] => .error .notFound
  | first :: rest =>
    match first.locate path with
    | .ok found => .ok found
    | .error _ => search path rest

/-- Whether a program can be started: its text and its arguments may hold no NUL,
and it must be found. -/
def findProgram (working : Tree) (searched : List Tree) (command : Command) : Except Fault Unit :=
  if (command.path :: command.args).any (·.contains '\x00') then .error .nulByte
  else do
    (← if command.path.contains '/' then working.locate command.path
      else search command.path searched).startable

/-- A tree with a file put at a path; directories on the way are made. -/
def put (file : Tree) : List String → Tree → Tree
  | [], _ => file
  | name :: rest, .directory children =>
    let old := (children.lookup name).getD (.directory [])
    .directory ((name, put file rest old) :: children.filter (·.1 ≠ name))
  | name :: rest, .file .. => .directory [(name, put file rest (.directory []))]

end Tree

end Responder.Host

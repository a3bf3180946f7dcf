import MetricWatch.Json.Value
import MetricWatch.Text.Parts

/-!
# Files

A tree of files and directories, and paths in it. A path is looked up part by part from the
current directory, so that every part before the last must be a directory.
-/

namespace MetricWatch

/-- What stands at a path. -/
inductive FileEntry
  | file (bytes : List UInt8)
  | directory
  deriving DecidableEq, Repr

/-- A tree of files, by the parts of their absolute paths, and the current directory. -/
structure Files where
  current : List String
  entries : List (List String × FileEntry)

namespace Files

/-- What stands at an absolute path. A directory is also whatever other paths pass through. -/
def entryAt? (files : Files) (path : List String) : Option FileEntry :=
  match files.entries.find? fun e => e.1 = path with
  | some e => some e.2
  | none =>
    if path.isPrefixOf files.current ∨ files.entries.any (fun e => path.isPrefixOf e.1) then
      some .directory
    else none

/-- The absolute path and entry that parts lead to from a place. -/
def follow? (files : Files) (place : List String) : List String → Option (List String × FileEntry)
  | [] => (files.entryAt? place).map fun e => (place, e)
  | part :: rest =>
    if files.entryAt? place = some .directory then
      if part = ".." then files.follow? place.dropLast rest
      else if part = "." ∨ part = "" then files.follow? place rest
      else files.follow? (place ++ [part]) rest
    else none

/-- The parts of a path. -/
def parts (path : String) : List String :=
  (Text.parts (· = '/') path.toList).map String.ofList

/-- What a path leads to. -/
def lookUp? (files : Files) (path : String) : Option FileEntry :=
  let place := if path.toList.head? = some '/' then [] else files.current
  (files.follow? place (parts path)).map Prod.snd

/-- A path below another. A separator is put between them unless one stands there. -/
def join (dir below : String) : String :=
  match dir.toList.getLast? with
  | none => below
  | some c => if c = '/' then dir ++ below else dir ++ "/" ++ below

/-- Whether a path leads to anything. -/
def holds (files : Files) (path : String) : Bool := (files.lookUp? path).isSome

end Files

/-! ### Extensions -/

/-- The last part of a path, if it is a name. -/
def fileName? (path : String) : Option String :=
  let named := (Files.parts path).filter fun p => p ≠ "" ∧ p ≠ "."
  match named.getLast? with
  | some p => if p = ".." then none else some p
  | none => none

/-- What stands behind the last point of a file's name; a point in front does not count. -/
def extension? (path : String) : Option String := do
  let name ← fileName? path
  let back := name.toList.reverse
  let behind := back.takeWhile (· ≠ '.')
  match back.drop behind.length with
  | _ :: _ :: _ => some (String.ofList behind.reverse)
  | _ => none

end MetricWatch

import LogShift.Files.Fault
import LogShift.Files.Path
import LogShift.Text.Utf8

/-! A file system as a value: what stands at each place, and how paths lead there. -/
namespace LogShift

/-- The names from the root to a file or directory. -/
abbrev Place := List Text

inductive FileNode where
  | file (content : Bytes)
  | directory
deriving DecidableEq, Repr

structure Files where
  nodes : List (Place × FileNode)
  /-- Where relative paths start. -/
  current : Place
deriving DecidableEq

namespace Files

/-- What stands at a place; the root is a directory always. -/
def node? (fs : Files) (place : Place) : Option FileNode :=
  if place = [] then some .directory else fs.nodes.lookup place

def set (fs : Files) (place : Place) (node : FileNode) : Files :=
  { fs with nodes := (place, node) :: fs.nodes.filter fun (p, _) => p ≠ place }

/-- Adds the directories on the way to a place. -/
def withParents (fs : Files) (place : Place) : Files :=
  (List.range place.length).foldl (fun fs n =>
    if n = 0 ∨ (fs.node? (place.take n)).isSome then fs
    else fs.set (place.take n) .directory) fs

/-- The most bytes of a name. -/
def maxNameLength : Nat := 255

/-- The most bytes of a path. -/
def maxPathLength : Nat := 4095

/-- The place of a name in a directory. -/
def enter (place : Place) (name : Text) : Except FileFault Place :=
  if name = ['.'] then .ok place
  else if name = ['.', '.'] then .ok place.dropLast
  else if maxNameLength < Text.width name then .error .nameTooLong
  else .ok (place ++ [name])

/-- Follows names from a place; all but the last must lead to directories. -/
def walk (fs : Files) : Place → List Text → Except FileFault Place
  | place, [] => .ok place
  | place, name :: names =>
    match fs.node? place with
    | none => .error .notFound
    | some (.file _) => .error .notDirectory
    | some .directory => do
      let place ← enter place name
      walk fs place names

/-- What is wrong with a path whatever the files are. -/
def checkPath (path : Text) : Except FileFault Unit :=
  if path.contains (Char.ofNat 0) then .error .zeroInName
  else if path.isEmpty then .error .notFound
  else if maxPathLength < Text.width path then .error .nameTooLong
  else .ok ()

def startOf (fs : Files) (path : Text) : Place :=
  if Path.isAbsolute path then [] else fs.current

/-- What stands at a path. -/
def lookup (fs : Files) (path : Text) : Except FileFault FileNode := do
  checkPath path
  let place ← fs.walk (fs.startOf path) (Path.names path)
  match fs.node? place with
  | none => .error .notFound
  | some (.file content) =>
    if Path.endsInSlash path then .error .notDirectory else .ok (.file content)
  | some .directory => .ok .directory

def read (fs : Files) (path : Text) : Except FileFault Bytes := do
  match ← fs.lookup path with
  | .file content => .ok content
  | .directory => .error .isDirectory

/-- The place at which a file is made anew or overwritten. -/
def creationPlace (fs : Files) (path : Text) : Except FileFault Place := do
  checkPath path
  let names := Path.names path
  let parent ← fs.walk (fs.startOf path) names.dropLast
  match fs.node? parent with
  | none => .error .notFound
  | some (.file _) => .error .notDirectory
  | some .directory =>
    match names.getLast? with
    | none => .error .isDirectory
    | some name =>
      if name = ['.'] ∨ name = ['.', '.'] ∨ Path.endsInSlash path then .error .isDirectory
      else do
        let place ← enter parent name
        if fs.node? place = some .directory then .error .isDirectory else .ok place

/-- Writes a file. -/
def write (fs : Files) (path : Text) (content : Bytes) : Except FileFault Files :=
  (fs.creationPlace path).map fun place => fs.set place (.file content)

end Files

end LogShift

import MarkupTemplate.Command.Host
import MarkupTemplate.Command.Path

/-!
# Files held in memory

A workspace is a folder with everything below it, together with the streams of the
command. Its files are addressed by the names that lead to them, and every folder
on the way to a file or folder is one of its folders.
-/

namespace MarkupTemplate.Command

/-- The names that lead from the workspace to an entry. -/
abbrev Location := List String

/-- Files, folders and streams held in memory. -/
structure Workspace where
  files : List (Location × ByteArray) := []
  folders : List Location := [[]]
  input : ByteArray := .empty
  output : String := ""
  errors : String := ""

namespace Workspace

/-- Whether one location comes before another when folders are listed with what
is below them. -/
def comesBefore : Location → Location → Bool
  | [], _ => true
  | _ :: _, [] => false
  | name :: names, other :: others =>
      name < other || (name == other && comesBefore names others)

/-- The entry at a location. -/
def kindAt (workspace : Workspace) (location : Location) : Option EntryKind :=
  if workspace.folders.contains location then some .folder
  else if workspace.files.any (·.1 == location) then some .file
  else none

/-- Follows names from a location that has to be a folder as long as names remain.
An empty name and a dot stay there, and two dots go up, but not out of the
workspace. -/
def follow (workspace : Workspace) (location : Location) :
    List String → Except FileFault Location
  | [] => .ok location
  | name :: rest =>
      match workspace.kindAt location with
      | none => .error .notFound
      | some .file => .error .notFolder
      | some .folder =>
          if name = "" ∨ name = "." then workspace.follow location rest
          else if name = ".." then workspace.follow location.dropLast rest
          else workspace.follow (location ++ [name]) rest

/-- The location that a path leads to. A path from the root of all files lies
outside the workspace. -/
def locate (workspace : Workspace) (path : String) : Except FileFault Location :=
  if path.startsWith "/" then .error .notFound
  else workspace.follow [] (path.splitOn "/")

/-- Adds a folder and every folder on the way to it. -/
def addFolder (workspace : Workspace) (location : Location) : Workspace :=
  let folders := (List.range (location.length + 1)).map location.take
  { workspace with
    folders := workspace.folders ++ folders.filter fun folder =>
      !workspace.folders.contains folder }

/-- Puts bytes into the file at a location. -/
def putFile (workspace : Workspace) (location : Location) (bytes : ByteArray) : Workspace :=
  { workspace with
    files := (location, bytes) :: workspace.files.filter fun file => file.1 != location }

/-- Adds a file with the folders on the way to it. -/
def addFile (workspace : Workspace) (location : Location) (bytes : ByteArray) : Workspace :=
  (workspace.addFolder location.dropLast).putFile location bytes

/-- Reads the text of the file at a path. -/
def read (workspace : Workspace) (path : String) : Except FileFault String := do
  let location ← workspace.locate path
  match workspace.kindAt location with
  | some .folder => throw .isFolder
  | _ =>
      match workspace.files.find? (·.1 == location) with
      | some (_, bytes) => textOfBytes bytes
      | none => throw .notFound

/-- Writes a text to the file at a path. -/
def write (workspace : Workspace) (path text : String) : Except FileFault Workspace := do
  let location ← workspace.locate path
  match workspace.kindAt location, workspace.kindAt location.dropLast with
  | some .folder, _ => throw .isFolder
  | _, some .folder => return workspace.putFile location text.toUTF8
  | _, some .file => throw .notFolder
  | _, none => throw .notFound

/-- What a path leads to. -/
def kind? (workspace : Workspace) (path : String) : Option EntryKind :=
  match workspace.locate path with
  | .ok location => workspace.kindAt location
  | .error _ => none

/-- The path of a folder and the paths of everything below it. -/
def walk (workspace : Workspace) (path : String) : List String :=
  match workspace.locate path with
  | .error _ => []
  | .ok location =>
      let below := (workspace.folders ++ workspace.files.map (·.1)).filter fun other =>
        location.isPrefixOf other && other != location
      path :: (below.mergeSort comesBefore).map fun other =>
        (other.drop location.length).foldl Path.join path

/-- A workspace as the surroundings of the command, in which no time passes. -/
def host : Host (StateM Workspace) where
  style := .plain
  readInput := return textOfBytes (← get).input
  readFile path := return (← get).read path
  writeFile path text := do
    match (← get).write path text with
    | .ok workspace =>
        set workspace
        return .ok ()
    | .error fault => return .error fault
  kind? path := return (← get).kind? path
  walk path := return (← get).walk path
  print text := modify fun workspace => { workspace with output := workspace.output ++ text }
  report text := modify fun workspace => { workspace with errors := workspace.errors ++ text }
  clock := return 0

end Workspace

end MarkupTemplate.Command

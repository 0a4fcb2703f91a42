import MarkupTemplate.Diagnostic.Report

/-!
# What the command needs from its surroundings

The command reads and writes files, lists folders, prints and measures time only
through a host, so that it can be run on real files as well as on files held in
memory.
-/

namespace MarkupTemplate.Command

/-- Why a file could not be read or written. -/
inductive FileFault where
  | notFound
  | notFolder
  | isFolder
  | notText
  | other (message : String)
deriving DecidableEq, Repr

/-- The wording of a fault. -/
def FileFault.message : FileFault → String
  | notFound => "No such file or directory (os error 2)"
  | notFolder => "Not a directory (os error 20)"
  | isFolder => "Is a directory (os error 21)"
  | notText => "stream did not contain valid UTF-8"
  | other message => message

/-- The text that bytes encode. -/
def textOfBytes (bytes : ByteArray) : Except FileFault String :=
  match String.fromUTF8? bytes with
  | some text => .ok text
  | none => .error .notText

/-- What a path leads to. -/
inductive EntryKind where
  | file
  | folder
deriving DecidableEq, Repr

/-- The surroundings of the command. -/
structure Host (m : Type → Type) where
  /-- How reports are shown. -/
  style : Style
  /-- Reads standard input to its end. -/
  readInput : m (Except FileFault String)
  /-- Reads the file at a path. -/
  readFile : String → m (Except FileFault String)
  /-- Writes a text to the file at a path. -/
  writeFile : String → String → m (Except FileFault Unit)
  /-- What a path leads to, if anything. -/
  kind? : String → m (Option EntryKind)
  /-- The path of a folder and of everything below it. -/
  walk : String → m (List String)
  /-- Writes to standard output. -/
  print : String → m Unit
  /-- Writes to standard error. -/
  report : String → m Unit
  /-- The time in microseconds. -/
  clock : m Nat

end MarkupTemplate.Command

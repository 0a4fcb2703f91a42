import MarkupTemplate.Command.Run

/-!
# The command line

Runs the command on real files and streams.
-/

namespace MarkupTemplate.Command

/-- Runs an action on files and keeps the fault it ends with. -/
def keepFault {α : Type} (action : IO α) : IO (Except FileFault α) := do
  try
    return .ok (← action)
  catch
    | .noFileOrDirectory .. => return .error .notFound
    | .inappropriateType .. => return .error .notFolder
    | error => return .error (.other (toString error))

/-- The kind of the entry at a path. -/
def entryKind? (path : String) : IO (Option EntryKind) := do
  let entry := (← IO.currentDir) / path
  if ← entry.isDir then return some .folder
  else if !path.endsWith "/" && (← entry.pathExists) then return some .file
  else return none

/-- Reads the file at a path. -/
def readEntry (path : String) : IO (Except FileFault String) := do
  if (← entryKind? path) = some .folder then return .error .isFolder
  return (← keepFault (IO.FS.readBinFile path)) >>= textOfBytes

/-- Writes the file at a path. -/
def writeEntry (path text : String) : IO (Except FileFault Unit) := do
  if (← entryKind? path) = some .folder then return .error .isFolder
  keepFault (IO.FS.writeFile path text)

/-- The path of an entry and of everything below it. A link is not followed. -/
partial def walkEntries (path : String) : IO (List String) := do
  let entry := (← IO.currentDir) / path
  let names ← try
      if (← entry.symlinkMetadata).type matches .dir then
        pure ((← entry.readDir).toList.map fun inner => inner.fileName)
      else pure []
    catch _ => pure []
  return path :: (← names.mapM fun name => walkEntries (Path.join path name)).flatten

/-- Reads standard input to its end. -/
def readStream : IO (Except FileFault String) := do
  return (← keepFault (do (← IO.getStdin).readBinToEnd)) >>= textOfBytes

/-- Real files and streams as the surroundings of the command. -/
def realHost (style : Style) : Host IO where
  style
  readInput := readStream
  readFile := readEntry
  writeFile := writeEntry
  kind? := entryKind?
  walk := walkEntries
  print text := do (← IO.getStdout).putStr text
  report text := do (← IO.getStderr).putStr text
  clock := return (← IO.monoNanosNow) / 1000

end MarkupTemplate.Command

/-- Runs the command on the arguments it was called with. -/
def main (arguments : List String) : IO UInt32 := do
  let style : MarkupTemplate.Style :=
    if ← (← IO.getStderr).isTty then .coloured else .plain
  return (← (MarkupTemplate.Command.realHost style).runArguments arguments).toUInt32

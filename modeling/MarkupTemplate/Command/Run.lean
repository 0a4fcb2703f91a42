import MarkupTemplate.Command.Arguments
import MarkupTemplate.Command.Host
import MarkupTemplate.Command.Notes
import MarkupTemplate.Command.Path
import MarkupTemplate.Exchange
import MarkupTemplate.Json.Printer

/-!
# Running a task

A task either succeeds or ends with one message, which is reported last and makes
the exit status one. In a folder every template is tried, and its failures are
logged and counted.
-/

namespace MarkupTemplate.Command

/-- A source text and the name it is reported under. -/
structure Source where
  name : String
  text : String
deriving DecidableEq, Repr

/-- A duration in the unit that suits it. -/
def durationText (microseconds : Nat) : String :=
  if microseconds < 1000 then s!"{microseconds}μs"
  else if microseconds < 1000000 then
    let tenths := (microseconds + 50) / 100
    s!"{tenths / 10}.{tenths % 10}ms"
  else
    let hundredths := (microseconds + 5000) / 10000
    s!"{hundredths / 100}.{hundredths / 10 % 10}{hundredths % 10}s"

/-- The number of templates that were compiled and that failed in a folder. -/
structure Tally where
  compiled : Nat := 0
  failed : Nat := 0
deriving DecidableEq, Repr

namespace Host

variable {m : Type → Type} [Monad m] (host : Host m)

/-- A text between two escape sequences on a terminal, and alone otherwise. -/
def inked (sequence text : String) : String :=
  match host.style with
  | .plain => text
  | .coloured => sequence ++ text ++ Ink.normal.sequence

/-- Logs a note if the verbosity admits it. -/
def log (verbosity : Verbosity) (note : Note) : m Unit :=
  if verbosity.admits note.severity then
    host.report (host.inked note.severity.sequence note.severity.name ++ ": " ++ note.text ++ "\n")
  else return ()

/-- Logs notes that are only worked out if the verbosity can admit them. -/
def logAll (verbosity : Verbosity) (notes : Unit → List Note) : m Unit :=
  if verbosity.admits .debug then (notes ()).forM (host.log verbosity) else return ()

/-- Runs an action on a file, whose fault ends the task. -/
def orEnd {α : Type} (context : String) (action : m (Except FileFault α)) :
    ExceptT String m α := do
  match ← action with
  | .ok value => return value
  | .error fault => throw (context ++ ": " ++ fault.message)

/-- Reads the source that a task is about. -/
def readSource : Input → ExceptT String m Source
  | .standard => return ⟨"<stdin>", ← orEnd "failed to read stdin" host.readInput⟩
  | .path path => return ⟨path, ← orEnd ("failed to read " ++ path) (host.readFile path)⟩

/-- The value that was made of a source. A fault is shown and ends the task. -/
def orReport {α : Type} (source : Source) : Except Fault α → ExceptT String m α
  | .ok value => return value
  | .error fault => do
      host.report (fault.diagnostic.render host.style source.text source.name)
      throw ("could not compile " ++ source.name)

/-- Compiles a source and logs how it went. -/
def compileSource (verbosity : Verbosity) (options : Script.Options) (source : Source) :
    ExceptT String m Compiled := do
  host.logAll verbosity fun _ => compileNotes options source.text
  host.orReport source (compile options source.text)

/-- Writes a file next to a template. -/
def writeNext (path extension text : String) : ExceptT String m String := do
  let target := Path.withExtension path extension
  orEnd ("failed to write " ++ target) (host.writeFile target text)
  return target

/-- Compiles the template at a path and writes what it is compiled to next to it. -/
def compileFile (verbosity : Verbosity) (options : Script.Options) (json : Bool)
    (path : String) : ExceptT String m Unit := do
  let source ← host.readSource (.path path)
  let compiled ← host.compileSource verbosity options source
  let target ← host.writeNext path "rb" compiled.code
  if json then
    let _ ← host.writeNext path "json" compiled.json.compact
  host.log verbosity ⟨.debug, s!"{path}: {compiled.metadata.components.size} components, "
    ++ s!"{compiled.metadata.elements.size} elements"⟩
  host.report ("  " ++ host.inked "\x1b[32m" "✓" ++ s!" {target}\n")

/-- Reports how many templates were compiled since a time. -/
def reportCount (compiled started : Nat) : m Unit := do
  let elapsed := (← host.clock) - started
  let files := if compiled = 1 then "file" else "files"
  host.report ("\n"
    ++ host.inked "\x1b[1m" s!"Compiled {compiled} {files} in {durationText elapsed}" ++ "\n")

/-- Compiles one template of a folder and counts it. -/
def compileCounted (verbosity : Verbosity) (options : Script.Options) (json : Bool)
    (tally : Tally) (path : String) : m Tally := do
  match ← (host.compileFile verbosity options json path).run with
  | .ok _ => return { tally with compiled := tally.compiled + 1 }
  | .error message =>
      host.log verbosity ⟨.error, message⟩
      return { tally with failed := tally.failed + 1 }

/-- Compiles every template of a folder. -/
def compileFolder (verbosity : Verbosity) (options : Script.Options) (json : Bool)
    (path : String) (started : Nat) : ExceptT String m Unit := do
  let paths ← host.walk path
  let templates := paths.filter fun path => Path.extension? path == some "rbx"
  let tally : Tally ←
    (templates.foldlM (host.compileCounted verbosity options json) {} : m Tally)
  let total := tally.compiled + tally.failed
  if total = 0 then throw s!"no .rbx files found in {path}"
  host.reportCount tally.compiled started
  if tally.failed ≠ 0 then throw s!"{tally.failed} of {total} templates failed to compile"

/-- Compiles the file or the folder at a path. -/
def compilePath (verbosity : Verbosity) (options : Script.Options) (json : Bool)
    (path : String) : ExceptT String m Unit := do
  let started ← host.clock
  match ← host.kind? path with
  | some .file =>
      if Path.extension? path ≠ some "rbx" then throw s!"{path} is not a .rbx file"
      host.compileFile verbosity options json path
      host.reportCount 1 started
  | some .folder => host.compileFolder verbosity options json path started
  | none => throw s!"{path} does not exist"

/-- Does a task up to its end or up to the message that ends it. -/
def perform (verbosity : Verbosity) : Task → ExceptT String m Unit
  | .compile .standard json options => do
      let source ← host.readSource .standard
      let compiled ← host.compileSource verbosity options source
      host.print (if json then compiled.json.compact ++ "\n" else compiled.code)
  | .compile (.path path) json options => host.compilePath verbosity options json path
  | .tokens input => do
      let source ← host.readSource input
      host.logAll verbosity fun _ => tokenNotes source.text
      let tokens ← host.orReport source (Token.read source.text)
      host.print ((Json.list (tokens.map Token.json)).pretty ++ "\n")
  | .tree input => do
      let source ← host.readSource input
      host.logAll verbosity fun _ => templateNotes source.text
      let template ← host.orReport source (Template.read source.text)
      host.print (template.json.pretty ++ "\n")

/-- Runs an invocation and gives the exit status. -/
def run (invocation : Invocation) : m Nat := do
  match ← (host.perform invocation.verbosity invocation.task).run with
  | .ok _ => return 0
  | .error message =>
      host.report s!"error: {message}\n"
      return 1

/-- How the command is called. -/
def usage : String :=
  String.join ["Usage: rbx [--log-level <LEVEL>] <COMMAND>\n",
    "\n",
    "Commands:\n",
    "  compile [--stdin] [--json] [--prelude] [--buffer-class <CLASS>] [--tag-helper <NAME>]",
    " [PATH]\n",
    "  tokens [--stdin] [PATH]\n",
    "  ast [--stdin] [PATH]\n"]

/-- Runs the command on its arguments and gives the exit status, which is two when
they are not acceptable. -/
def runArguments (arguments : List String) : m Nat := do
  match Request.ofArguments? none arguments with
  | none =>
      host.report usage
      return 2
  | some .help =>
      host.print usage
      return 0
  | some (.run invocation) => host.run invocation

end Host

end MarkupTemplate.Command

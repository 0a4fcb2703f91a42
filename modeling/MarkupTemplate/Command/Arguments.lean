import MarkupTemplate.Command.Log
import MarkupTemplate.Script.Code

/-!
# Arguments of the command

The arguments name one task, where its source comes from and how it is done. A
flag or a valued option stands at most once on each side of the task's name; only
the verbosity may stand on both sides, and the one after the name counts.
-/

namespace MarkupTemplate.Command

/-- Where the source comes from. -/
inductive Input where
  | standard
  | path (path : String)
deriving DecidableEq, Repr

/-- What is to be done. -/
inductive Task where
  /-- Compile a source, a file or all files of a folder. -/
  | compile (input : Input) (json : Bool) (options : Script.Options)
  /-- Show the tokens of a source. -/
  | tokens (input : Input)
  /-- Show the template that a source spells. -/
  | tree (input : Input)

/-- A task and how much is logged about it. -/
structure Invocation where
  verbosity : Verbosity
  task : Task

/-- What acceptable arguments ask for. -/
inductive Request where
  | help
  | run (invocation : Invocation)

/-- How one argument is spelled. -/
inductive Argument where
  /-- `--`, after which every argument is plain. -/
  | separator
  /-- `--name` or `--name=value`. -/
  | long (name : String) (value : Option String)
  /-- A single dash with a letter behind it. -/
  | short (letter : Char)
  /-- Anything else, a dash alone included. -/
  | plain (text : String)
deriving DecidableEq, Repr

/-- Reads the spelling of an argument. -/
def Argument.ofText (text : String) : Argument :=
  match text.toList with
  | ['-', '-'] => .separator
  | '-' :: '-' :: characters =>
      let name := characters.takeWhile (· != '=')
      .long (String.ofList name)
        (match characters.drop name.length with
          | [] => none
          | _ :: value => some (String.ofList value))
  | '-' :: letter :: _ => .short letter
  | _ => .plain text

/-- The names that tasks are asked for by. -/
inductive Subcommand where
  | compile
  | tokens
  | tree
deriving DecidableEq, Repr

/-- The subcommand with a name. -/
def Subcommand.ofName? : String → Option Subcommand
  | "compile" => some .compile
  | "tokens" => some .tokens
  | "ast" => some .tree
  | _ => none

/-- What the arguments after a subcommand have set so far. -/
structure Draft where
  verbosity : Option Verbosity := none
  path : Option String := none
  standard : Bool := false
  json : Bool := false
  prelude : Bool := false
  bufferClass : Option String := none
  tagHelper : Option String := none

namespace Draft

/-- Sets the path, which must not be empty and is given once. -/
def setPath (draft : Draft) (path : String) : Option Draft :=
  if path.isEmpty || draft.path.isSome then none else some { draft with path := some path }

/-- Sets a flag that the subcommand has and that is not set yet. -/
def setFlag (draft : Draft) (subcommand : Subcommand) (name : String) : Option Draft :=
  match name, subcommand with
  | "stdin", _ => if draft.standard then none else some { draft with standard := true }
  | "json", .compile => if draft.json then none else some { draft with json := true }
  | "prelude", .compile => if draft.prelude then none else some { draft with prelude := true }
  | _, _ => none

/-- Whether the subcommand has an option of that name with a value. -/
def takesValue (subcommand : Subcommand) (name : String) : Bool :=
  name == "log-level"
    || (subcommand == .compile && (name == "buffer-class" || name == "tag-helper"))

/-- Gives a value to an option that has none yet. -/
def setValue (draft : Draft) (name value : String) : Option Draft :=
  match name with
  | "log-level" =>
      if draft.verbosity.isSome then none
      else (Verbosity.ofName? value).map fun verbosity =>
        { draft with verbosity := some verbosity }
  | "buffer-class" =>
      if draft.bufferClass.isSome then none else some { draft with bufferClass := some value }
  | "tag-helper" =>
      if draft.tagHelper.isSome then none else some { draft with tagHelper := some value }
  | _ => none

/-- The input that was asked for: standard input takes precedence over a path. -/
def input? (draft : Draft) : Option Input :=
  if draft.standard then some .standard else draft.path.map .path

/-- The options that compiling was asked to use. -/
def options (draft : Draft) : Script.Options :=
  let default : Script.Options := {}
  { bufferClass := draft.bufferClass.getD default.bufferClass
    tagHelper := draft.tagHelper.getD default.tagHelper
    prelude := draft.prelude }

/-- The request once all arguments are read. `outer` is the verbosity given before
the subcommand. -/
def finish (draft : Draft) (subcommand : Subcommand) (outer : Option Verbosity) :
    Option Request :=
  draft.input?.map fun input =>
    .run {
      verbosity := (draft.verbosity <|> outer).getD (some .warn)
      task := match subcommand with
        | .compile => .compile input draft.json draft.options
        | .tokens => .tokens input
        | .tree => .tree input }

/-- Reads the arguments after a subcommand. A value given as an argument of its own
must be plain. -/
def read (subcommand : Subcommand) (outer : Option Verbosity) (draft : Draft) :
    List String → Option Request
  | [] => draft.finish subcommand outer
  | text :: rest =>
      match Argument.ofText text with
      | .separator =>
          match rest.foldlM setPath draft with
          | some draft => draft.finish subcommand outer
          | none => none
      | .plain path =>
          match draft.setPath path with
          | some draft => read subcommand outer draft rest
          | none => none
      | .short letter => if letter = 'h' then some .help else none
      | .long name (some value) =>
          match if takesValue subcommand name then draft.setValue name value else none with
          | some draft => read subcommand outer draft rest
          | none => none
      | .long name none =>
          if name = "help" then some .help
          else if takesValue subcommand name then
            match rest with
            | [] => none
            | next :: rest =>
                match Argument.ofText next with
                | .plain value =>
                    match draft.setValue name value with
                    | some draft => read subcommand outer draft rest
                    | none => none
                | _ => none
          else
            match draft.setFlag subcommand name with
            | some draft => read subcommand outer draft rest
            | none => none

end Draft

/-- Whether help can be asked for about the arguments. -/
def hasHelp : List String → Bool
  | [] => true
  | [name] => name == "help" || (Subcommand.ofName? name).isSome
  | _ => false

/-- Reads the arguments before and after a subcommand, where `outer` is the
verbosity given so far. There is no request when they are not acceptable. -/
def Request.ofArguments? (outer : Option Verbosity) : List String → Option Request
  | [] => none
  | text :: rest =>
      match Argument.ofText text with
      | .separator => none
      | .short letter => if letter = 'h' then some .help else none
      | .long "help" none => some .help
      | .long "log-level" (some value) =>
          match outer, Verbosity.ofName? value with
          | none, some verbosity => ofArguments? (some verbosity) rest
          | _, _ => none
      | .long "log-level" none =>
          match rest with
          | [] => none
          | value :: rest =>
              match outer, Verbosity.ofName? value with
              | none, some verbosity => ofArguments? (some verbosity) rest
              | _, _ => none
      | .long _ _ => none
      | .plain "help" => if hasHelp rest then some .help else none
      | .plain name =>
          match Subcommand.ofName? name with
          | some subcommand => ({} : Draft).read subcommand outer rest
          | none => none

end MarkupTemplate.Command

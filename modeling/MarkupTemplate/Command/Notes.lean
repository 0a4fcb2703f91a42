import MarkupTemplate.Command.Log
import MarkupTemplate.Compile

/-!
# What is logged about a source

Reading logs every tag that is opened, and putting together logs every element
whose children are read, up to the fault if there is one. Compiling adds the sizes
of what each stage made.
-/

namespace MarkupTemplate.Command

/-- The notes on reading a source. -/
def readingNotes (ending : Reader.Ending) : List Note :=
  ending.openedTags.map fun (name, position) =>
    ⟨.trace, s!"lexing <{name}> at {position.line + 1}:{position.col + 1}"⟩

/-- The notes on putting tokens together. -/
def assemblyNotes (tokens : List Token) : List Note :=
  (Assembly.elementsBegun [] (Assembly.start tokens)).map fun name =>
    ⟨.trace, s!"parsing children of <{name}>"⟩

/-- The notes on reading the tokens of a source. -/
def tokenNotes (source : String) : List Note := readingNotes (Reader.start source).run

/-- The notes on reading the template that a source spells. -/
def templateNotes (source : String) : List Note :=
  let ending := (Reader.start source).run
  readingNotes ending ++ if ending.fault.isSome then [] else assemblyNotes ending.tokens

/-- The notes on compiling a source. -/
def compileNotes (options : Script.Options) (source : String) : List Note :=
  let ending := (Reader.start source).run
  let size := source.utf8ByteSize
  readingNotes ending ++
    if ending.fault.isSome then []
    else
      ⟨.debug, s!"tokenized {size} bytes into {ending.tokens.length} tokens"⟩
        :: assemblyNotes ending.tokens
        ++ match Template.ofTokens ending.tokens with
          | .error _ => []
          | .ok template =>
              let listing := Script.listing options template
              [⟨.debug, s!"built template with {template.children.length} top-level nodes"⟩,
                ⟨.debug, s!"generated {listing.lineCount} lines of ruby"⟩,
                ⟨.debug, s!"compiled {size} bytes of template into "
                  ++ s!"{listing.finish.utf8ByteSize} bytes of ruby"⟩]

end MarkupTemplate.Command

import MarkupTemplate.Script.Code
import MarkupTemplate.Template.Metadata
import MarkupTemplate.Template.OfTokens
import MarkupTemplate.Token.Reading

/-!
# Compiling a template

Source text is read into tokens, the tokens are put together into a template,
and the template is turned into code and into a summary of what it uses.
-/

namespace MarkupTemplate

/-- The template that a source text spells. -/
def Template.read (source : String) : Except Fault Template := do
  Template.ofTokens (← Token.read source)

/-- What a template is compiled to. -/
structure Compiled where
  code : String
  metadata : Metadata

/-- Compiles a source text. -/
def compile (options : Script.Options) (source : String) : Except Fault Compiled := do
  let template ← Template.read source
  return ⟨Script.generate options template, template.metadata⟩

end MarkupTemplate

import MarkupTemplate.Command.Workspace
import MarkupTemplate.Component.Description
import MarkupTemplate.Json.Reader
import MarkupTemplate.Main
import MarkupTemplate.Proofs.Assembly.Acceptance
import MarkupTemplate.Proofs.Assembly.Standing
import MarkupTemplate.Proofs.Component.History
import MarkupTemplate.Proofs.Component.Lookup
import MarkupTemplate.Proofs.Content.Flattening
import MarkupTemplate.Proofs.Diagnostic.Colours
import MarkupTemplate.Proofs.Diagnostic.Excerpts
import MarkupTemplate.Proofs.Element.ReadBack
import MarkupTemplate.Proofs.Grammar.Census
import MarkupTemplate.Proofs.Reader.Closing
import MarkupTemplate.Proofs.Reader.Embedding
import MarkupTemplate.Proofs.Reader.Lookahead
import MarkupTemplate.Proofs.Reader.Respacing
import MarkupTemplate.Proofs.Script.Keys
import MarkupTemplate.Proofs.Script.Layout
import MarkupTemplate.Proofs.Script.Literals
import MarkupTemplate.Proofs.Script.Words

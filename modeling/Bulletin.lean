import Bulletin.Artifact
import Bulletin.Artifact.Store
import Bulletin.Command.Line
import Bulletin.Command.Run
import Bulletin.Compose
import Bulletin.Decimal.Binary64
import Bulletin.Decimal.Notation
import Bulletin.Decimal.Numeral
import Bulletin.Decimal.Shortest
import Bulletin.Emit
import Bulletin.Error
import Bulletin.FileTree.Access
import Bulletin.FileTree.Basic
import Bulletin.FileTree.Error
import Bulletin.FileTree.Path
import Bulletin.Journal
import Bulletin.Journal.Filter
import Bulletin.Json.Fault
import Bulletin.Json.Number
import Bulletin.Json.Skip
import Bulletin.Json.Structure
import Bulletin.Json.Token
import Bulletin.Json.Writer
import Bulletin.Layout
import Bulletin.Main
import Bulletin.Marker
import Bulletin.Output
import Bulletin.Pattern
import Bulletin.Pattern.Bracket
import Bulletin.Pattern.Mode
import Bulletin.Pattern.Symbol
import Bulletin.Placeholder
import Bulletin.Proofs.Artifact.Members
import Bulletin.Proofs.Artifact.RoundTrip
import Bulletin.Proofs.Artifact.Store
import Bulletin.Proofs.Artifact.Torn
import Bulletin.Proofs.Command.Given
import Bulletin.Proofs.Command.Line
import Bulletin.Proofs.Command.Reading
import Bulletin.Proofs.Command.Request
import Bulletin.Proofs.Failure
import Bulletin.Proofs.FileTree.Agreement
import Bulletin.Proofs.FileTree.Change
import Bulletin.Proofs.FileTree.Creation
import Bulletin.Proofs.FileTree.Join
import Bulletin.Proofs.FileTree.Making
import Bulletin.Proofs.FileTree.Parent
import Bulletin.Proofs.FileTree.Resolution
import Bulletin.Proofs.FileTree.View
import Bulletin.Proofs.Json.Extension
import Bulletin.Proofs.Json.Grammar
import Bulletin.Proofs.Json.Skipping
import Bulletin.Proofs.Json.Strings
import Bulletin.Proofs.Cleaning
import Bulletin.Proofs.Marker
import Bulletin.Proofs.Output
import Bulletin.Proofs.Pipeline
import Bulletin.Proofs.Pipeline.Companions
import Bulletin.Proofs.Pipeline.Completeness
import Bulletin.Proofs.Pipeline.Frame
import Bulletin.Proofs.Pipeline.Outcome
import Bulletin.Proofs.Pipeline.Repeat
import Bulletin.Proofs.Pipeline.Run
import Bulletin.Proofs.Pipeline.Stopping
import Bulletin.Proofs.Placeholder
import Bulletin.Proofs.Sandbox
import Bulletin.Proofs.Section
import Bulletin.Proofs.Sink
import Bulletin.Proofs.Source
import Bulletin.Proofs.Template.Closing
import Bulletin.Proofs.Template.Comments
import Bulletin.Proofs.Template.Continuation
import Bulletin.Proofs.Template.Draft
import Bulletin.Proofs.Template.Joining
import Bulletin.Proofs.Template.Nesting
import Bulletin.Proofs.Template.Plain
import Bulletin.Proofs.Template.Recovery
import Bulletin.Proofs.Template.Rendering
import Bulletin.Proofs.Template.Size
import Bulletin.Proofs.Template.Spacing
import Bulletin.Proofs.Text.Ascii
import Bulletin.Proofs.Text.Base64
import Bulletin.Proofs.Text.Blank
import Bulletin.Proofs.Text.CodePoint
import Bulletin.Proofs.Text.Cut
import Bulletin.Proofs.Text.Decoding
import Bulletin.Proofs.Text.Digits
import Bulletin.Proofs.Text.Escape
import Bulletin.Proofs.Text.Lines
import Bulletin.Proofs.Text.Scan
import Bulletin.Proofs.Text.Sequence
import Bulletin.Proofs.Text.Spelling
import Bulletin.Proofs.Text.Utf8
import Bulletin.Release
import Bulletin.Section
import Bulletin.Source
import Bulletin.Template.Default
import Bulletin.Template.Draft
import Bulletin.Text.Alphabetic
import Bulletin.Text.Alphanumeric
import Bulletin.Text.Base64
import Bulletin.Text.Blank
import Bulletin.Text.Digits
import Bulletin.Text.Escape
import Bulletin.Text.Printable
import Bulletin.Text.Quoted
import Bulletin.Text.Ranges
import Bulletin.Text.Scan
import Bulletin.Text.Slice
import Bulletin.Text.Utf8
import Bulletin.Workspace

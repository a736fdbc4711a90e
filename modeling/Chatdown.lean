import Chatdown.Arguments
import Chatdown.Conversion
import Chatdown.Directory
import Chatdown.Document
import Chatdown.Files
import Chatdown.GitHub
import Chatdown.Json.Binary64
import Chatdown.Json.Decoding
import Chatdown.Json.Error
import Chatdown.Json.Number
import Chatdown.Json.Printer
import Chatdown.Json.StringScan
import Chatdown.Json.Token
import Chatdown.Json.Tree
import Chatdown.Json.Value
import Chatdown.Loading
import Chatdown.Main
import Chatdown.Manager
import Chatdown.Manager.Decoding
import Chatdown.Manager.Encoding
import Chatdown.Markdown
import Chatdown.Markdown.Address
import Chatdown.Markdown.Autolink
import Chatdown.Markdown.BlockStart
import Chatdown.Markdown.Character
import Chatdown.Markdown.CharacterNames
import Chatdown.Markdown.CharacterReference
import Chatdown.Markdown.CodeSpan
import Chatdown.Markdown.Cursor
import Chatdown.Markdown.Destination
import Chatdown.Markdown.Emphasis
import Chatdown.Markdown.HtmlBlock
import Chatdown.Markdown.Inlines
import Chatdown.Markdown.Line
import Chatdown.Markdown.LinkTable
import Chatdown.Markdown.Outline
import Chatdown.Markdown.Passage
import Chatdown.Markdown.RawHtml
import Chatdown.Markdown.TableRow
import Chatdown.Markdown.TaskMarker
import Chatdown.Markup
import Chatdown.Mention
import Chatdown.Message
import Chatdown.Message.Decoding
import Chatdown.Message.Encoding
import Chatdown.Options
import Chatdown.Program
import Chatdown.Rendering
import Chatdown.Text
import Chatdown.Text.Utf8
import Chatdown.Unicode.Blank
import Chatdown.Unicode.CaseFold
import Chatdown.Unicode.LowerCase
import Chatdown.Unicode.Printable
import Chatdown.Unicode.Symbol
import Chatdown.Unicode.Table
import Chatdown.Proofs.Markup.Escape
import Chatdown.Proofs.Mention.Pieces
import Chatdown.Proofs.Document.ListStyles
import Chatdown.Proofs.Markup.Grammar
import Chatdown.Proofs.Rendering.Spans
import Chatdown.Proofs.Markdown.ListMarkers
import Chatdown.Proofs.Rendering.WellFormed
import Chatdown.Proofs.Markup.Visible
import Chatdown.Proofs.Rendering.PlainText
import Chatdown.Proofs.Mention.LowerNames
import Chatdown.Proofs.Mention.Spellings
import Chatdown.Proofs.Directory.LastRecord
import Chatdown.Proofs.Directory.Reloading
import Chatdown.Proofs.Unicode.LowerCase
import Chatdown.Proofs.Rendering.Template
import Chatdown.Proofs.Rendering.SourceLines
import Chatdown.Proofs.Json.Integers
import Chatdown.Proofs.Json.Scanning
import Chatdown.Proofs.Json.Reading
import Chatdown.Proofs.Json.Nesting
import Chatdown.Proofs.Json.Layers
import Chatdown.Proofs.Message.RoundTrip
import Chatdown.Proofs.Manager.RoundTrip
import Chatdown.Proofs.Message.Depth
import Chatdown.Proofs.RoundTrip
import Chatdown.Proofs.Reencoding
import Chatdown.Proofs.Text.Runs
import Chatdown.Proofs.Markdown.Lines
import Chatdown.Proofs.Markdown.LineStarts
import Chatdown.Proofs.Markdown.FencedCode
import Chatdown.Proofs.Mention.DisplayNames
import Chatdown.Proofs.Text.Join
import Chatdown.Proofs.Text.LineReaders
import Chatdown.Proofs.Markdown.RunningText
import Chatdown.Proofs.Markdown.TextLines
import Chatdown.Proofs.Markdown.OpenBlocks
import Chatdown.Proofs.Markdown.PlainLines
import Chatdown.Proofs.Markdown.PlainBlocks
import Chatdown.Proofs.PlainDocuments
import Chatdown.Proofs.Markdown.InlineLinks
import Chatdown.Proofs.GitHub.IssuePages
import Chatdown.Proofs.Rendering.ExplicitLinks
import Chatdown.Proofs.Rendering.Autolinks
import Chatdown.Proofs.Rendering.Flattening
import Chatdown.Proofs.ConvertedMessages
import Chatdown.Proofs.Program.Endings
import Chatdown.Proofs.LineEnds
import Chatdown.Proofs.Json.Members
import Chatdown.Proofs.Message.Members
import Chatdown.Proofs.Message.InsideBullets
import Chatdown.Proofs.Manager.Members
import Chatdown.Proofs.MemberOrder
import Chatdown.Proofs.Arguments.Operands
import Chatdown.Proofs.Program.StandardInput
import Chatdown.Proofs.Document.ListItems
import Chatdown.Proofs.Markdown.ListItems
import Chatdown.Proofs.Rendering.ListLayout
import Chatdown.Proofs.Mention.Cuts
import Chatdown.Proofs.GitHub.Urls
import Chatdown.Proofs.Rendering.TextLeaves
import Chatdown.Proofs.Markdown.Autolinks
import Chatdown.Proofs.Rendering.ShortenedLinks
import Chatdown.Proofs.GitHub.Comparisons
import Chatdown.Proofs.Json.Quoting
import Chatdown.Proofs.Json.Composition
import Chatdown.Proofs.Message.Literals
import Chatdown.Proofs.Document.ListRuns
import Chatdown.Proofs.Markdown.TaskBoxes
import Chatdown.Proofs.Markdown.ItemLines
import Chatdown.Proofs.Markdown.OpenItems
import Chatdown.Proofs.Markdown.NestedLists
import Chatdown.Proofs.Rendering.TaskItems
import Chatdown.Proofs.Arguments.Arrangements
import Chatdown.Proofs.Text.Utf8
import Chatdown.Proofs.Text.IllFormed
import Chatdown.Proofs.Markup.Entities
import Chatdown.Proofs.Mention.EscapedCuts

import CallExplorer.Action
import CallExplorer.Command.Arguments
import CallExplorer.Command.Help
import CallExplorer.Command.Options
import CallExplorer.Command.Run
import CallExplorer.Command.Settings
import CallExplorer.Command.Surroundings
import CallExplorer.Direction
import CallExplorer.Failure
import CallExplorer.Files
import CallExplorer.Graph.Basic
import CallExplorer.Graph.Fixture
import CallExplorer.Host
import CallExplorer.Json.Decoder
import CallExplorer.Json.Document
import CallExplorer.Json.Double
import CallExplorer.Json.Printer
import CallExplorer.Json.Reader
import CallExplorer.Json.Record
import CallExplorer.Json.Value
import CallExplorer.Location
import CallExplorer.Log.Event
import CallExplorer.Log.Filter
import CallExplorer.Log.Line
import CallExplorer.Main
import CallExplorer.Pattern.Bracketed
import CallExplorer.Pattern.Check
import CallExplorer.Pattern.Escape
import CallExplorer.Pattern.Mode
import CallExplorer.Proofs.Json.Grammar
import CallExplorer.Proofs.Text.Utf8
import CallExplorer.Proofs.Tree.StackLoop
import CallExplorer.Proofs.Tree.Traversal
import CallExplorer.Provider
import CallExplorer.Remote
import CallExplorer.Remote.Scripted
import CallExplorer.Server.Capabilities
import CallExplorer.Server.Client
import CallExplorer.Server.Failure
import CallExplorer.Server.Frame
import CallExplorer.Server.Message
import CallExplorer.Server.Stream
import CallExplorer.Symbol.Item
import CallExplorer.Symbol.Kind
import CallExplorer.Symbol.Link
import CallExplorer.Text.Alphanumeric
import CallExplorer.Text.Blank
import CallExplorer.Text.Bytes
import CallExplorer.Text.CharSet
import CallExplorer.Text.Decimal
import CallExplorer.Text.Hex
import CallExplorer.Text.Hidden
import CallExplorer.Text.Quoted
import CallExplorer.Text.Split
import CallExplorer.Text.Visible
import CallExplorer.Tree.Explorer
import CallExplorer.Tree.Identity
import CallExplorer.Tree.Node
import CallExplorer.Tree.Order
import CallExplorer.Tree.Row
import CallExplorer.Tree.Unfolding
import CallExplorer.Uri.Basic
import CallExplorer.Uri.Host
import CallExplorer.Uri.HostChar
import CallExplorer.Uri.Joiner
import CallExplorer.Uri.Octet
import CallExplorer.Uri.Path
import CallExplorer.Uri.Punycode
import CallExplorer.Uri.Variant
import CallExplorer.Uri.Writing
import CallExplorer.Proofs.Json.Strings
import CallExplorer.Proofs.Json.Numbers
import CallExplorer.Proofs.Json.Reading
import CallExplorer.Proofs.Text.Digits
import CallExplorer.Proofs.Json.Printing
import CallExplorer.Proofs.Tree.Identity
import CallExplorer.Proofs.Tree.SiblingOrder
import CallExplorer.Proofs.Json.Normal
import CallExplorer.Proofs.Json.Records
import CallExplorer.Proofs.Symbol.Wire
import CallExplorer.Proofs.Server.Framing
import CallExplorer.Proofs.Server.Replies
import CallExplorer.Proofs.Server.Growth
import CallExplorer.Proofs.Server.Conversation
import CallExplorer.Proofs.Server.Session
import CallExplorer.Proofs.Tree.Received
import CallExplorer.Proofs.Server.Exploration
import CallExplorer.Proofs.Tree.Sorting
import CallExplorer.Proofs.Graph.Loading
import CallExplorer.Proofs.Graph.Growth
import CallExplorer.Proofs.Graph.Walks
import CallExplorer.Proofs.Graph.Converse
import CallExplorer.Proofs.Server.Reading
import CallExplorer.Proofs.Server.Operations
import CallExplorer.Proofs.Server.Turns
import CallExplorer.Proofs.Server.Credit
import CallExplorer.Proofs.Server.Span
import CallExplorer.Proofs.Server.Sequence
import CallExplorer.Proofs.Host.Provenance
import CallExplorer.Proofs.Tree.Preorder
import CallExplorer.Proofs.Tree.Distinct
import CallExplorer.Proofs.Tree.Questions
import CallExplorer.Proofs.Remote.Sharing
import CallExplorer.Proofs.Tree.Limits
import CallExplorer.Proofs.Tree.Unfinished
import CallExplorer.Proofs.Server.Places
import CallExplorer.Proofs.Command.Transcript
import CallExplorer.Proofs.Server.Accepting
import CallExplorer.Proofs.Server.Waiting
import CallExplorer.Proofs.Tree.Turning
import CallExplorer.Proofs.Command.Finish
import CallExplorer.Proofs.Json.Sources
import CallExplorer.Proofs.Server.Told
import CallExplorer.Proofs.Server.Returned
import CallExplorer.Proofs.Text.Split
import CallExplorer.Proofs.Uri.Encoding
import CallExplorer.Proofs.Uri.FilePaths
import CallExplorer.Proofs.Uri.NamedPath
import CallExplorer.Proofs.Json.Indented
import CallExplorer.Proofs.Command.Output
import CallExplorer.Proofs.Graph.Blocks
import CallExplorer.Proofs.Tree.Events
import CallExplorer.Proofs.Tree.Outline
import CallExplorer.Proofs.Graph.Documents
import CallExplorer.Proofs.Text.ByteOrder
import CallExplorer.Proofs.Tree.Stability
import CallExplorer.Proofs.Graph.Keys

import ReplDriver.Command.Arguments
import ReplDriver.Command.Parse
import ReplDriver.Command.Run
import ReplDriver.Completion.Cache
import ReplDriver.Completion.Candidates
import ReplDriver.Completion.Context
import ReplDriver.Completion.Engine
import ReplDriver.Diagnostics.Note
import ReplDriver.Expression.Boundary
import ReplDriver.Expression.Group
import ReplDriver.Expression.Pieces
import ReplDriver.Failure
import ReplDriver.Files.Machine
import ReplDriver.Files.Path
import ReplDriver.Files.Tree
import ReplDriver.Frontend.Basic
import ReplDriver.Json.Reader
import ReplDriver.Json.Value
import ReplDriver.Json.Writer
import ReplDriver.Launch.Command
import ReplDriver.Launch.NodeVersion
import ReplDriver.Main
import ReplDriver.Module.Bindings
import ReplDriver.Module.Script
import ReplDriver.Module.Statement
import ReplDriver.Number.Decimal
import ReplDriver.Number.Double
import ReplDriver.Process.Basic
import ReplDriver.Process.Clock
import ReplDriver.Proofs.Command.Sources
import ReplDriver.Proofs.Completion.Context
import ReplDriver.Proofs.Completion.Ending
import ReplDriver.Proofs.Completion.Erasure
import ReplDriver.Proofs.Completion.Listing
import ReplDriver.Proofs.Completion.Previews
import ReplDriver.Proofs.Completion.Repeated
import ReplDriver.Proofs.Expression.Brackets
import ReplDriver.Proofs.Expression.Chain
import ReplDriver.Proofs.Expression.Cut
import ReplDriver.Proofs.Expression.Items
import ReplDriver.Proofs.Expression.Members
import ReplDriver.Proofs.Expression.Pieces
import ReplDriver.Proofs.Expression.Recognition
import ReplDriver.Proofs.Expression.Snippets
import ReplDriver.Proofs.Expression.Starts
import ReplDriver.Proofs.Expression.Surroundings
import ReplDriver.Proofs.Files.Paths
import ReplDriver.Proofs.Files.Places
import ReplDriver.Proofs.Frontend.Terminal
import ReplDriver.Proofs.Json.OneLine
import ReplDriver.Proofs.Module.Clause
import ReplDriver.Proofs.Module.DefaultExport
import ReplDriver.Proofs.Module.Exports
import ReplDriver.Proofs.Module.Imports
import ReplDriver.Proofs.Module.InnerLines
import ReplDriver.Proofs.Module.Layout
import ReplDriver.Proofs.Module.Literals
import ReplDriver.Proofs.Module.Named
import ReplDriver.Proofs.Module.Passes
import ReplDriver.Proofs.Module.Paths
import ReplDriver.Proofs.Module.Rendering
import ReplDriver.Proofs.Module.Statements
import ReplDriver.Proofs.Module.Tokens
import ReplDriver.Proofs.Module.Types
import ReplDriver.Proofs.Number.Rounding
import ReplDriver.Proofs.Operation
import ReplDriver.Proofs.Process.Answering
import ReplDriver.Proofs.Process.Channel
import ReplDriver.Proofs.Process.Events
import ReplDriver.Proofs.Process.Life
import ReplDriver.Proofs.Process.Printing
import ReplDriver.Proofs.Process.Time
import ReplDriver.Proofs.Server.Answers
import ReplDriver.Proofs.Server.Confined
import ReplDriver.Proofs.Server.Failing
import ReplDriver.Proofs.Server.Faults
import ReplDriver.Proofs.Server.Lifetimes
import ReplDriver.Proofs.Server.Pairing
import ReplDriver.Proofs.Server.Requests
import ReplDriver.Proofs.Server.Separation
import ReplDriver.Proofs.Server.Steps
import ReplDriver.Proofs.Server.Stream
import ReplDriver.Proofs.Session.Answering
import ReplDriver.Proofs.Session.Call
import ReplDriver.Proofs.Session.Episodes
import ReplDriver.Proofs.Session.Failing
import ReplDriver.Proofs.Session.Prompted
import ReplDriver.Proofs.Session.Reading
import ReplDriver.Proofs.Session.Reply
import ReplDriver.Proofs.Session.Silence
import ReplDriver.Proofs.Session.Timeless
import ReplDriver.Proofs.Session.Transaction
import ReplDriver.Proofs.Session.Typing
import ReplDriver.Proofs.Settings.Nearest
import ReplDriver.Proofs.Settings.Validation
import ReplDriver.Proofs.Terminal.Chunks
import ReplDriver.Proofs.Terminal.Cleaning
import ReplDriver.Proofs.Terminal.LastLine
import ReplDriver.Proofs.Terminal.Removal
import ReplDriver.Proofs.Terminal.Reply
import ReplDriver.Proofs.Terminal.Sequences
import ReplDriver.Proofs.Text.Characters
import ReplDriver.Proofs.Text.Cutting
import ReplDriver.Proofs.Workspace.Actions
import ReplDriver.Proofs.Workspace.Answering
import ReplDriver.Proofs.Workspace.Caching
import ReplDriver.Proofs.Workspace.Failing
import ReplDriver.Proofs.Workspace.Ledger
import ReplDriver.Proofs.Workspace.Private
import ReplDriver.Proofs.Workspace.Recall
import ReplDriver.Proofs.World.Alike
import ReplDriver.Proofs.World.Answering
import ReplDriver.Proofs.World.Cached
import ReplDriver.Proofs.World.Greeting
import ReplDriver.Proofs.World.Launches
import ReplDriver.Proofs.World.Moves
import ReplDriver.Proofs.World.Orphans
import ReplDriver.Proofs.World.Registered
import ReplDriver.Proofs.World.Share
import ReplDriver.Server.Basic
import ReplDriver.Server.Client
import ReplDriver.Server.Connection
import ReplDriver.Server.Protocol
import ReplDriver.Server.Request
import ReplDriver.Server.Run
import ReplDriver.Session.Basic
import ReplDriver.Session.Exchange
import ReplDriver.Session.Registry
import ReplDriver.Session.Scripted
import ReplDriver.Settings.Basic
import ReplDriver.Settings.Check
import ReplDriver.Settings.Search
import ReplDriver.Terminal.Capture
import ReplDriver.Terminal.Channel
import ReplDriver.Terminal.Control
import ReplDriver.Terminal.Prompt
import ReplDriver.Terminal.Reply
import ReplDriver.Terminal.Submission
import ReplDriver.Text.Basic
import ReplDriver.Text.Digit
import ReplDriver.Text.LetterCase
import ReplDriver.Text.Printable
import ReplDriver.Text.Quoted
import ReplDriver.Text.Ranges
import ReplDriver.Text.Utf8
import ReplDriver.Text.Word
import ReplDriver.Workspace.Basic
import ReplDriver.World

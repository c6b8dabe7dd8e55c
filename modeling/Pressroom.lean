import Pressroom.Text.CodeRanges
import Pressroom.Text.Letter
import Pressroom.Text.LetterCase
import Pressroom.Text.Quoted
import Pressroom.Text.Hex
import Pressroom.Text.Blank
import Pressroom.Text.Search
import Pressroom.Text.Fold
import Pressroom.Text.Utf8
import Pressroom.Text.Base64
import Pressroom.Number.Binary
import Pressroom.Number.Decimal
import Pressroom.Number.Layout
import Pressroom.Number.Literal
import Pressroom.Number.Scaled
import Pressroom.Data.Keyed
import Pressroom.Data.Value
import Pressroom.Data.Printer
import Pressroom.Data.Lexeme
import Pressroom.Data.Reader
import Pressroom.Data.Shape
import Pressroom.Expr.Token
import Pressroom.Expr.Error
import Pressroom.Expr.Lexer
import Pressroom.Expr.Term
import Pressroom.Expr.Parser
import Pressroom.Scope
import Pressroom.Data.Coercion
import Pressroom.Expr.Method
import Pressroom.Expr.Eval
import Pressroom.Markup.Marker
import Pressroom.Markup.Directive
import Pressroom.Markup.Head
import Pressroom.Markup.Scan
import Pressroom.Markup.Node
import Pressroom.Log
import Pressroom.Markup.Section
import Pressroom.Style
import Pressroom.Render.Event
import Pressroom.Render.Page
import Pressroom.Paper
import Pressroom.Text.Pattern
import Pressroom.Html.Tag
import Pressroom.Html.Link
import Pressroom.Html.Image
import Pressroom.Html.Body
import Pressroom.Files.Path
import Pressroom.Files.Fault
import Pressroom.Files.Tree
import Pressroom.Files.Disk
import Pressroom.Inline.Media
import Pressroom.Inline.Resource
import Pressroom.Inline.PublicFolder
import Pressroom.Inline.Inliner
import Pressroom.Document.Config
import Pressroom.Document.Skeleton
import Pressroom.Document.Template
import Pressroom.Print.Printer
import Pressroom.Print.Desk
import Pressroom.Document.Engine
import Pressroom.Document.Archive
import Pressroom.Sample
import Pressroom.Command
import Pressroom.Main
import Pressroom.Proofs.Text.Fold
import Pressroom.Proofs.Text.Bytes
import Pressroom.Proofs.Markup.Marker
import Pressroom.Proofs.Markup.Local
import Pressroom.Proofs.Markup.Spans
import Pressroom.Proofs.Markup.Pieces
import Pressroom.Proofs.Markup.Offsets
import Pressroom.Proofs.Markup.Tiling
import Pressroom.Proofs.Render.Slices
import Pressroom.Proofs.Expr.Snapshot
import Pressroom.Proofs.Markup.Draft
import Pressroom.Proofs.Markup.Walls
import Pressroom.Proofs.Markup.Written
import Pressroom.Proofs.Markup.Sound
import Pressroom.Proofs.Markup.Readback
import Pressroom.Proofs.Render.Drafts
import Pressroom.Proofs.Markup.Finding
import Pressroom.Proofs.Expr.Grammar
import Pressroom.Proofs.Expr.Soundness
import Pressroom.Proofs.Expr.Completeness
import Pressroom.Proofs.Expr.Spelling
import Pressroom.Proofs.Expr.Draft
import Pressroom.Proofs.Markup.Definitions
import Pressroom.Proofs.Markup.Sections
import Pressroom.Proofs.Render.Counter
import Pressroom.Proofs.Render.Ending
import Pressroom.Proofs.Text.Join
import Pressroom.Proofs.Text.Pieces
import Pressroom.Proofs.Render.Machine
import Pressroom.Proofs.Render.Stepwise
import Pressroom.Proofs.Render.Nesting
import Pressroom.Proofs.Render.Session
import Pressroom.Proofs.Document.Body
import Pressroom.Proofs.Render.Room
import Pressroom.Proofs.Render.Limit
import Pressroom.Proofs.Render.Content
import Pressroom.Proofs.Render.Failures
import Pressroom.Proofs.Render.Flatten
import Pressroom.Proofs.Data.Spelling
import Pressroom.Proofs.Data.Units
import Pressroom.Proofs.Print.Sessions
import Pressroom.Proofs.Data.Reading
import Pressroom.Proofs.Outcome
import Pressroom.Proofs.Watch
import Pressroom.Proofs.Text.Utf8
import Pressroom.Proofs.Data.Records
import Pressroom.Proofs.Document.Saved
import Pressroom.Proofs.Text.Cuts
import Pressroom.Proofs.Html.Tags
import Pressroom.Proofs.Inline.Passes
import Pressroom.Proofs.Document.Printing
import Pressroom.Proofs.Document.Output
import Pressroom.Proofs.Files.Clean
import Pressroom.Proofs.Inline.Public
import Pressroom.Proofs.Markup.Conditional
import Pressroom.Proofs.Html.Body
import Pressroom.Proofs.Html.Sources
import Pressroom.Proofs.Inline.NewSources
import Pressroom.Proofs.Inline.Again
import Pressroom.Proofs.Text.Hex
import Pressroom.Proofs.Expr.Escapes
import Pressroom.Proofs.Expr.Enclosed
import Pressroom.Proofs.Expr.Truth
import Pressroom.Proofs.Expr.Literals
import Pressroom.Proofs.Expr.Mentions
import Pressroom.Proofs.Render.Frames
import Pressroom.Proofs.Expr.Methods
import Pressroom.Proofs.Expr.Texts
import Pressroom.Proofs.Expr.Nodes
import Pressroom.Proofs.Expr.Printed
import Pressroom.Proofs.Markup.Language
import Pressroom.Proofs.Print.Arrivals
import Pressroom.Proofs.Command.Arguments
import Pressroom.Proofs.Command.Traces
import Pressroom.Proofs.Files.Changes
import Pressroom.Proofs.Files.Plain
import Pressroom.Proofs.Document.Persisted

import HandlerRouting.Binary64
import HandlerRouting.Binary64.Arithmetic
import HandlerRouting.Binary64.Shortest
import HandlerRouting.Chain
import HandlerRouting.Chain.Causes
import HandlerRouting.Container
import HandlerRouting.Container.Asked
import HandlerRouting.Container.Discovered
import HandlerRouting.Container.Override
import HandlerRouting.Datum
import HandlerRouting.Defect
import HandlerRouting.Distinct
import HandlerRouting.Document.Content
import HandlerRouting.Document.Cursor
import HandlerRouting.Document.Fault
import HandlerRouting.Document.Kind
import HandlerRouting.Document.Layout
import HandlerRouting.Document.Node
import HandlerRouting.Document.ScalarText
import HandlerRouting.Document.ScalarValue
import HandlerRouting.Document.Settings
import HandlerRouting.Document.Token
import HandlerRouting.Entries
import HandlerRouting.Event
import HandlerRouting.Event.Line
import HandlerRouting.EventContext
import HandlerRouting.Handler
import HandlerRouting.Hierarchy
import HandlerRouting.Hierarchy.Acceptance
import HandlerRouting.Hierarchy.Builtin
import HandlerRouting.Hierarchy.Raising
import HandlerRouting.MediaType.Basic
import HandlerRouting.MediaType.Charset
import HandlerRouting.MediaType.CharsetNames
import HandlerRouting.MediaType.Division
import HandlerRouting.MediaType.Edit
import HandlerRouting.MediaType.Grammar
import HandlerRouting.MediaType.Matching
import HandlerRouting.MediaType.Merged
import HandlerRouting.MediaType.Nesting
import HandlerRouting.MediaType.Obtainable
import HandlerRouting.MediaType.Parameter
import HandlerRouting.MediaType.Reached
import HandlerRouting.MediaType.ReadBack
import HandlerRouting.MediaType.Reader
import HandlerRouting.MediaType.Repetition
import HandlerRouting.MediaType.Respelling
import HandlerRouting.MediaType.Segments
import HandlerRouting.MediaType.Sharing
import HandlerRouting.MediaType.Specificity
import HandlerRouting.MediaType.Written
import HandlerRouting.Numeral
import HandlerRouting.Precedence
import HandlerRouting.Precedence.Merge
import HandlerRouting.Precedence.Run
import HandlerRouting.Precedence.Sort
import HandlerRouting.Proofs.Container.Discovery
import HandlerRouting.Proofs.Container.Inherited
import HandlerRouting.Proofs.Container.Names
import HandlerRouting.Proofs.Container.Objects
import HandlerRouting.Proofs.Container.Override
import HandlerRouting.Proofs.Entries.Assigning
import HandlerRouting.Proofs.Event.Lines
import HandlerRouting.Proofs.Hierarchy.Acceptance
import HandlerRouting.Proofs.Hierarchy.Lineage
import HandlerRouting.Proofs.Hierarchy.Linearization
import HandlerRouting.Proofs.MediaType.Checked
import HandlerRouting.Proofs.MediaType.Dividing
import HandlerRouting.Proofs.MediaType.Grammar
import HandlerRouting.Proofs.MediaType.Inclusion
import HandlerRouting.Proofs.MediaType.Joining
import HandlerRouting.Proofs.MediaType.Listing
import HandlerRouting.Proofs.MediaType.Merged
import HandlerRouting.Proofs.MediaType.Nesting
import HandlerRouting.Proofs.MediaType.Ranking
import HandlerRouting.Proofs.MediaType.Reading
import HandlerRouting.Proofs.MediaType.Refusals
import HandlerRouting.Proofs.MediaType.Repetition
import HandlerRouting.Proofs.MediaType.Respelling
import HandlerRouting.Proofs.MediaType.RoundTrip
import HandlerRouting.Proofs.MediaType.Segmenting
import HandlerRouting.Proofs.MediaType.Semicolons
import HandlerRouting.Proofs.MediaType.Sharing
import HandlerRouting.Proofs.MediaType.Subtypes
import HandlerRouting.Proofs.MediaType.WellFormed
import HandlerRouting.Proofs.MediaType.Writing
import HandlerRouting.Proofs.MediaType.WrittenSegments
import HandlerRouting.Proofs.Precedence.Arranged
import HandlerRouting.Proofs.Precedence.Levels
import HandlerRouting.Proofs.Precedence.Merging
import HandlerRouting.Proofs.Precedence.SortedKeys
import HandlerRouting.Proofs.Precedence.Sorting
import HandlerRouting.Proofs.Precedence.Stability
import HandlerRouting.Proofs.Precedence.StrictOrder
import HandlerRouting.Proofs.RecencyCache.LeastRecent
import HandlerRouting.Proofs.RecencyCache.Recency
import HandlerRouting.Proofs.RecencyCache.Soundness
import HandlerRouting.Proofs.RecencyCache.Steps
import HandlerRouting.Proofs.Related
import HandlerRouting.Proofs.Router.Caching
import HandlerRouting.Proofs.Router.ChainWalk
import HandlerRouting.Proofs.Router.Closest
import HandlerRouting.Proofs.Router.Contexts
import HandlerRouting.Proofs.Router.Decided
import HandlerRouting.Proofs.Router.Descendants
import HandlerRouting.Proofs.Router.MostSpecific
import HandlerRouting.Proofs.Router.Narrower
import HandlerRouting.Proofs.Router.Requests
import HandlerRouting.Proofs.RoutingTable.Built
import HandlerRouting.Proofs.RoutingTable.Declarations
import HandlerRouting.Proofs.RoutingTable.Fitness
import HandlerRouting.Proofs.RoutingTable.Refusals
import HandlerRouting.Proofs.RoutingTable.Reordered
import HandlerRouting.Proofs.Settings
import HandlerRouting.Proofs.Signature.Flattening
import HandlerRouting.Proofs.Signature.Hints
import HandlerRouting.Proofs.Signature.Returning
import HandlerRouting.Proofs.Text.LetterCase
import HandlerRouting.Proofs.Text.LowerCase
import HandlerRouting.Proofs.Text.Quoting
import HandlerRouting.Proofs.Text.Trimming
import HandlerRouting.Proofs.TypeExpr.Forming
import HandlerRouting.Proofs.TypeExpr.LookingUp
import HandlerRouting.Proofs.TypeExpr.Members
import HandlerRouting.Proofs.TypeExpr.Remembering
import HandlerRouting.Proofs.TypeExpr.Sameness
import HandlerRouting.Proofs.TypeExpr.Widening
import HandlerRouting.RecencyCache
import HandlerRouting.RecencyCache.History
import HandlerRouting.RecencyCache.Requests
import HandlerRouting.Route
import HandlerRouting.Route.Key
import HandlerRouting.Router
import HandlerRouting.Router.Run
import HandlerRouting.RoutingTable
import HandlerRouting.RoutingTable.Claims
import HandlerRouting.RoutingTable.Declared
import HandlerRouting.RoutingTable.Report
import HandlerRouting.Settings
import HandlerRouting.Settings.Flaw
import HandlerRouting.Settings.Whole
import HandlerRouting.Signature
import HandlerRouting.Signature.Flattened
import HandlerRouting.Signature.Returning
import HandlerRouting.Text.Base64
import HandlerRouting.Text.Blank
import HandlerRouting.Text.CasingData
import HandlerRouting.Text.CodePoints
import HandlerRouting.Text.Digit
import HandlerRouting.Text.LowerCase
import HandlerRouting.Text.Printable
import HandlerRouting.Text.Quoted
import HandlerRouting.Text.Token
import HandlerRouting.Timestamp
import HandlerRouting.TypeExpr
import HandlerRouting.TypeExpr.Expression
import HandlerRouting.TypeExpr.Formed
import HandlerRouting.TypeExpr.Lineage
import HandlerRouting.TypeExpr.Search
import HandlerRouting.TypeExpr.Union
import HandlerRouting.TypeExpr.Widening

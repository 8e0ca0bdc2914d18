import KeysetPaging.Cursor.Binding
import KeysetPaging.Cursor.Position
import KeysetPaging.Cursor.Token
import KeysetPaging.Decimal.Layout
import KeysetPaging.Decimal.Shortest
import KeysetPaging.Demand
import KeysetPaging.Digest.Sha256
import KeysetPaging.Fault
import KeysetPaging.Json.Form
import KeysetPaging.Json.Printer
import KeysetPaging.Json.Reader
import KeysetPaging.Json.Schema
import KeysetPaging.Json.Value
import KeysetPaging.Metrics
import KeysetPaging.Order
import KeysetPaging.Page
import KeysetPaging.Page.Composition
import KeysetPaging.Paging
import KeysetPaging.Policy
import KeysetPaging.Proofs.Cursor.Binding
import KeysetPaging.Proofs.Cursor.Column
import KeysetPaging.Proofs.Cursor.Framing
import KeysetPaging.Proofs.Cursor.Language
import KeysetPaging.Proofs.Cursor.RoundTrip
import KeysetPaging.Proofs.Cursor.Token
import KeysetPaging.Proofs.Json.Documents
import KeysetPaging.Proofs.Json.Letters
import KeysetPaging.Proofs.Json.RoundTrip
import KeysetPaging.Proofs.Page.Composition
import KeysetPaging.Proofs.Page.Reports
import KeysetPaging.Proofs.Paging.Agreement
import KeysetPaging.Proofs.Paging.Approach
import KeysetPaging.Proofs.Paging.Blame
import KeysetPaging.Proofs.Paging.Blocks
import KeysetPaging.Proofs.Paging.Drift
import KeysetPaging.Proofs.Paging.Entry
import KeysetPaging.Proofs.Paging.Modes
import KeysetPaging.Proofs.Paging.Nearest
import KeysetPaging.Proofs.Paging.Numbering
import KeysetPaging.Proofs.Paging.Return
import KeysetPaging.Proofs.Paging.Serving
import KeysetPaging.Proofs.Paging.Walk
import KeysetPaging.Proofs.Policy.Adjustments
import KeysetPaging.Proofs.Query.Construction
import KeysetPaging.Proofs.Query.Lifetime
import KeysetPaging.Proofs.Query.Lists
import KeysetPaging.Proofs.Query.Reachable
import KeysetPaging.Proofs.Query.Shape
import KeysetPaging.Proofs.Seek
import KeysetPaging.Proofs.Session.Scopes
import KeysetPaging.Proofs.Shape.Description
import KeysetPaging.Proofs.Shape.Elements
import KeysetPaging.Proofs.Shape.Separators
import KeysetPaging.Proofs.Sheet.Listing
import KeysetPaging.Proofs.Sheet.Walk
import KeysetPaging.Proofs.Sorting
import KeysetPaging.Proofs.Table.Block
import KeysetPaging.Proofs.Table.Listing
import KeysetPaging.Proofs.Table.Strides
import KeysetPaging.Proofs.Tally.Counters
import KeysetPaging.Proofs.Tally.Reconciliation
import KeysetPaging.Proofs.Text.Base64
import KeysetPaging.Proofs.Text.Join
import KeysetPaging.Proofs.Text.Numeral
import KeysetPaging.Query
import KeysetPaging.Query.Draft
import KeysetPaging.Seek
import KeysetPaging.Session.Action
import KeysetPaging.Session.Run
import KeysetPaging.Session.State
import KeysetPaging.Settings
import KeysetPaging.Shape.Escape
import KeysetPaging.Shape.Fields
import KeysetPaging.Shape.Value
import KeysetPaging.Sorting
import KeysetPaging.Table
import KeysetPaging.Tally
import KeysetPaging.Text.Base64
import KeysetPaging.Text.Blank
import KeysetPaging.Text.Lexical
import KeysetPaging.Text.Numeral
import KeysetPaging.Text.Split
import KeysetPaging.Text.Utf8
import KeysetPaging.Toml.Reader
import KeysetPaging.Toml.Settings
import KeysetPaging.Toml.Value
import KeysetPaging.Traced

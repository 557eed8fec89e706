import CardBrowser.About
import CardBrowser.Card
import CardBrowser.Column.Active
import CardBrowser.Column.Builtin
import CardBrowser.Column.Custom
import CardBrowser.Column.Index
import CardBrowser.Column.Registry
import CardBrowser.Column.SortKey
import CardBrowser.Config
import CardBrowser.Database.Basic
import CardBrowser.Database.Catalog
import CardBrowser.Database.Computed
import CardBrowser.Database.Connection
import CardBrowser.Database.Contents
import CardBrowser.Database.Count
import CardBrowser.Database.Definition
import CardBrowser.Database.Fault
import CardBrowser.Database.Frames
import CardBrowser.Database.Query
import CardBrowser.Database.Store
import CardBrowser.Database.Table
import CardBrowser.Direction
import CardBrowser.Error
import CardBrowser.FieldCache
import CardBrowser.FieldList
import CardBrowser.Json.Interpretation
import CardBrowser.Json.Node
import CardBrowser.Json.Printer
import CardBrowser.Json.Value
import CardBrowser.Number.Binary64
import CardBrowser.Number.Decimal
import CardBrowser.Number.DoubleDouble
import CardBrowser.Preferences.Basic
import CardBrowser.Preferences.File
import CardBrowser.Search.Condition
import CardBrowser.Search.Native
import CardBrowser.Search.Ordering
import CardBrowser.Search.Plan
import CardBrowser.Search.Predicate
import CardBrowser.Search.Statement
import CardBrowser.Search.Term
import CardBrowser.Search.UniqueNotes
import CardBrowser.Session.Basic
import CardBrowser.Session.Change
import CardBrowser.Session.History
import CardBrowser.Session.Offer
import CardBrowser.Session.View
import CardBrowser.Sql.Count
import CardBrowser.Sql.Definition
import CardBrowser.Sql.Eval
import CardBrowser.Sql.Expr
import CardBrowser.Sql.FromClause
import CardBrowser.Sql.Keyword
import CardBrowser.Sql.Pattern
import CardBrowser.Sql.Reader
import CardBrowser.Sql.Reading
import CardBrowser.Sql.Scope
import CardBrowser.Sql.TableName
import CardBrowser.Sql.Token
import CardBrowser.Sql.Value
import CardBrowser.Store.Basic
import CardBrowser.Store.Scripted
import CardBrowser.Store.Traced
import CardBrowser.Text.Ascii
import CardBrowser.Text.Blank
import CardBrowser.Text.CaseRanges
import CardBrowser.Text.HiddenRanges
import CardBrowser.Text.Lowercase
import CardBrowser.Text.Quoted
import CardBrowser.Text.Word
import CardBrowser.Text.WordRanges
import CardBrowser.Proofs.Column.Active
import CardBrowser.Proofs.Column.Registry
import CardBrowser.Proofs.Session.Offer
import CardBrowser.Proofs.Session.Invariant
import CardBrowser.Proofs.Session.Change
import CardBrowser.Proofs.Sql.Expr
import CardBrowser.Proofs.Database.Query
import CardBrowser.Proofs.Database.Rank
import CardBrowser.Proofs.Database.SortTable
import CardBrowser.Proofs.Search.Condition
import CardBrowser.Proofs.Search.Run
import CardBrowser.Proofs.Search.Strategy
import CardBrowser.Proofs.Database.Order
import CardBrowser.Proofs.Database.Contents
import CardBrowser.Proofs.Database.Found
import CardBrowser.Proofs.Search.Ordering
import CardBrowser.Proofs.Search.Blanks
import CardBrowser.Proofs.Search.Cleanup
import CardBrowser.Proofs.Search.Mentions
import CardBrowser.Proofs.Database.Additions
import CardBrowser.Proofs.Search.Found
import CardBrowser.Proofs.Column.SortKey
import CardBrowser.Proofs.Session.Steady
import CardBrowser.Proofs.Session.Coherence
import CardBrowser.Proofs.Session.NativeOrder
import CardBrowser.Proofs.Database.Replacement
import CardBrowser.Proofs.Search.Meaning
import CardBrowser.Proofs.Search.Wildcard
import CardBrowser.Proofs.Search.Words
import CardBrowser.Proofs.Sql.Truth
import CardBrowser.Proofs.Search.Evaluation
import CardBrowser.Proofs.Sql.Lexing
import CardBrowser.Proofs.Search.ReadBack
import CardBrowser.Proofs.Search.Accepted
import CardBrowser.Proofs.Search.Selected
import CardBrowser.Proofs.Preferences.Saved
import CardBrowser.Proofs.Session.Reopening
import CardBrowser.Proofs.Sql.Scope
import CardBrowser.Proofs.Search.Join
import CardBrowser.Proofs.Text.Numerals
import CardBrowser.Proofs.Search.Grammar
import CardBrowser.Proofs.Search.Shape
import CardBrowser.Proofs.Session.Discard
import CardBrowser.Proofs.Session.Hidden
import CardBrowser.Proofs.Session.Timeline
import CardBrowser.Proofs.Search.Phrase
import CardBrowser.Proofs.Search.LongPattern
import CardBrowser.Proofs.Search.Concatenation
import CardBrowser.Proofs.Search.Spread
import CardBrowser.Proofs.Search.Tags
import CardBrowser.Proofs.Search.Crossing
import CardBrowser.Proofs.Search.Protocol
import CardBrowser.Proofs.Session.Repair
import CardBrowser.Proofs.Session.Registration
import CardBrowser.Proofs.Number.Rounding
import CardBrowser.Proofs.Search.Numbers
import CardBrowser.Proofs.Search.ByNumber
import CardBrowser.Proofs.Preferences.Keys
import CardBrowser.Proofs.Search.UniqueNotes
import CardBrowser.Proofs.Database.Integrity
import CardBrowser.Proofs.FieldCache
import CardBrowser.Proofs.Text.Qualifiers
import CardBrowser.Proofs.Column.Sorted
import CardBrowser.Proofs.Column.Calls
import CardBrowser.Proofs.Column.Index
import CardBrowser.Proofs.Session.Available
import CardBrowser.Proofs.Search.Forced
import CardBrowser.Proofs.StoredFields
import CardBrowser.Proofs.Column.Displayed
import CardBrowser.Proofs.Number.Nearest
import CardBrowser.Proofs.Number.Shortest
import CardBrowser.Proofs.Json.Numeral
import CardBrowser.Proofs.Json.Float
import CardBrowser.Proofs.Json.Strings
import CardBrowser.Proofs.Json.Reading
import CardBrowser.Proofs.Json.ReadBack
import CardBrowser.Proofs.Preferences.File

import ApiContract.Binary64.Arithmetic
import ApiContract.Binary64.Basic
import ApiContract.Binary64.Decimal
import ApiContract.Binary64.Shortest
import ApiContract.Contract.Basic
import ApiContract.Contract.Body
import ApiContract.Contract.Judgement
import ApiContract.Contract.Parameters
import ApiContract.Contract.Security
import ApiContract.Digest.Sha256
import ApiContract.Document.Basic
import ApiContract.Document.Components
import ApiContract.Document.Cycles
import ApiContract.Document.Decode
import ApiContract.Document.Encode
import ApiContract.Document.Text
import ApiContract.Domain.Encoding
import ApiContract.Domain.Mapping
import ApiContract.Domain.Punycode
import ApiContract.Failure
import ApiContract.Format.Address
import ApiContract.Format.Basic
import ApiContract.Format.Calendar
import ApiContract.Format.Email
import ApiContract.Format.Hostname
import ApiContract.Format.Url
import ApiContract.Format.Uuid
import ApiContract.Guard.Basic
import ApiContract.Guard.Config
import ApiContract.Guard.Http
import ApiContract.Guard.Selector
import ApiContract.Json.Basic
import ApiContract.Json.Literal
import ApiContract.Json.Render
import ApiContract.Json.Text
import ApiContract.Node.Basic
import ApiContract.Node.Record
import ApiContract.Node.Yaml
import ApiContract.Pattern.Basic
import ApiContract.Pattern.Class
import ApiContract.Pattern.Size
import ApiContract.Pattern.Syntax
import ApiContract.Proofs.Contract.Body
import ApiContract.Proofs.Contract.Judgement
import ApiContract.Proofs.Document.Cycles
import ApiContract.Proofs.Guard.Receive
import ApiContract.Proofs.Route.Resolve
import ApiContract.Proofs.Route.Template
import ApiContract.Proofs.Schema.Calls
import ApiContract.Proofs.Schema.Chains
import ApiContract.Proofs.Schema.DepthBound
import ApiContract.Proofs.Schema.Evaluation
import ApiContract.Proofs.Schema.Resolution
import ApiContract.Proofs.Schema.Rules
import ApiContract.Proofs.Text.Lookup
import ApiContract.Proofs.Text.Utf8
import ApiContract.Request.Basic
import ApiContract.Route.Basic
import ApiContract.Route.Hits
import ApiContract.Route.Router
import ApiContract.Route.Template
import ApiContract.Schema.Basic
import ApiContract.Schema.Check
import ApiContract.Store.Basic
import ApiContract.Store.Instance
import ApiContract.Text.Ascii
import ApiContract.Text.Base64
import ApiContract.Text.Blank
import ApiContract.Text.Form
import ApiContract.Text.Percent
import ApiContract.Text.Split
import ApiContract.Text.Utf8
import ApiContract.Unicode.Category
import ApiContract.Unicode.Composition
import ApiContract.Unicode.Direction
import ApiContract.Unicode.Folding
import ApiContract.Unicode.Property
import ApiContract.Unicode.Script
import ApiContract.Unicode.Table
import ApiContract.Unicode.Uppercase
import ApiContract.Yaml.Anchor
import ApiContract.Yaml.Scalar
import ApiContract.Yaml.Token.Basic
import ApiContract.Yaml.Token.Block
import ApiContract.Yaml.Token.Cursor
import ApiContract.Yaml.Token.Lexer
import ApiContract.Yaml.Token.Plain
import ApiContract.Yaml.Token.Quoted
import ApiContract.Yaml.Token.Tag
import ApiContract.Yaml.Tree
import ApiContract.Proofs.Contract.ChosenRoute
import ApiContract.Proofs.Store.Names
import ApiContract.Proofs.Store.Run
import ApiContract.Proofs.Store.History
import ApiContract.Proofs.Store.Freed
import ApiContract.Proofs.Store.Recency
import ApiContract.Proofs.Store.Account
import ApiContract.Proofs.Store.Loading
import ApiContract.Proofs.Contract.Stages
import ApiContract.Proofs.Schema.Verdicts
import ApiContract.Proofs.Schema.Subtypes
import ApiContract.Proofs.Json.Size
import ApiContract.Proofs.Schema.Descent
import ApiContract.Proofs.Document.CycleSearch
import ApiContract.Proofs.Schema.Contexts
import ApiContract.Proofs.Guard.Configured
import ApiContract.Proofs.Json.Canonical
import ApiContract.Proofs.Json.Written
import ApiContract.Proofs.Node.ReadBack
import ApiContract.Proofs.Text.Decoding
import ApiContract.Proofs.Document.Proper
import ApiContract.Proofs.Document.ReadBack
import ApiContract.Proofs.Document.Reading
import ApiContract.Proofs.Document.RoundTrip
import ApiContract.Proofs.Document.DanglingCycles
import ApiContract.Proofs.Route.Captures
import ApiContract.Proofs.Text.PercentEncoding
import ApiContract.Proofs.Route.FilledPaths
import ApiContract.Proofs.Contract.Refusals
import ApiContract.Proofs.Store.Expiry
import ApiContract.Proofs.Contract.InTurn
import ApiContract.Proofs.Contract.MergedParameters
import ApiContract.Proofs.Contract.ParameterVerdict
import ApiContract.Proofs.Request.Arrivals
import ApiContract.Proofs.Contract.Credentials
import ApiContract.Proofs.Schema.WrittenValues
import ApiContract.Proofs.Contract.WrittenParameters
import ApiContract.Proofs.Contract.MediaTypes
import ApiContract.Proofs.Binary64.Rounding
import ApiContract.Proofs.Binary64.Integers
import ApiContract.Proofs.Schema.IntegerRange
import ApiContract.Proofs.Binary64.Shortest
import ApiContract.Proofs.Binary64.ReadBack
import ApiContract.Proofs.Json.UniqueText
import ApiContract.Proofs.Schema.UniqueItems
import ApiContract.Proofs.Text.Offsets
import ApiContract.Proofs.Guard.PathStarts
import ApiContract.Route.Scan
import ApiContract.Proofs.Route.Scan
import ApiContract.Proofs.Binary64.Quotients
import ApiContract.Proofs.Schema.Multiples
import ApiContract.Proofs.Pattern.Matches
import ApiContract.Proofs.Pattern.Alternatives
import ApiContract.Proofs.Route.PatternText
import ApiContract.Proofs.Route.MatchedPaths

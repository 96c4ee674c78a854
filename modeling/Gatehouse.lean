import Gatehouse.Binary64
import Gatehouse.Binary64.Shortest
import Gatehouse.Check.Descriptor
import Gatehouse.Check.Outcome
import Gatehouse.Check.Violation
import Gatehouse.Command.Arguments
import Gatehouse.Command.Error
import Gatehouse.Command.Run
import Gatehouse.Command.Usage
import Gatehouse.Fields
import Gatehouse.Files
import Gatehouse.Http.Body
import Gatehouse.Http.Form
import Gatehouse.Http.Gateway
import Gatehouse.Http.Guard
import Gatehouse.Http.Message
import Gatehouse.Http.Mount
import Gatehouse.Http.Origins
import Gatehouse.Http.Problem
import Gatehouse.Http.Query
import Gatehouse.Http.Uri
import Gatehouse.Json.Basic
import Gatehouse.Json.Failure
import Gatehouse.Json.Layout
import Gatehouse.Json.Mismatch
import Gatehouse.Json.Numeral
import Gatehouse.Json.Printer
import Gatehouse.Json.Reader
import Gatehouse.Json.Record
import Gatehouse.Json.Skip
import Gatehouse.Json.StringLiteral
import Gatehouse.Log.Event
import Gatehouse.Log.Filter
import Gatehouse.Log.Level
import Gatehouse.Main
import Gatehouse.Pattern.Brackets
import Gatehouse.Pattern.Escape
import Gatehouse.Pattern.Group
import Gatehouse.Pattern.Mode
import Gatehouse.Rules.Document
import Gatehouse.Rules.Error
import Gatehouse.Rules.Listing
import Gatehouse.Rules.Parameter
import Gatehouse.Rules.Route
import Gatehouse.Rules.Table
import Gatehouse.Schema.Basic
import Gatehouse.Schema.Decode
import Gatehouse.Server.Address
import Gatehouse.Server.Config
import Gatehouse.Text.Alphabetic
import Gatehouse.Text.Ascii
import Gatehouse.Text.Blank
import Gatehouse.Text.Hex
import Gatehouse.Text.Numeric
import Gatehouse.Text.Quoted
import Gatehouse.Text.Unprintable
import Gatehouse.Text.Utf8
import Gatehouse.Proofs.Lists.Last
import Gatehouse.Proofs.Lists.Runs
import Gatehouse.Proofs.Lists.Cutting
import Gatehouse.Proofs.Check.FirstViolation
import Gatehouse.Proofs.Schema.WellFormed
import Gatehouse.Proofs.Schema.Positions
import Gatehouse.Proofs.Http.QueryGroups
import Gatehouse.Proofs.Http.QueryCheck
import Gatehouse.Proofs.Text.Unsigned
import Gatehouse.Proofs.Text.Trimming
import Gatehouse.Proofs.Json.IntegerTexts
import Gatehouse.Proofs.Binary64.WholeNumbers
import Gatehouse.Proofs.Json.IntegerLiterals
import Gatehouse.Proofs.Http.GuardSafety
import Gatehouse.Proofs.Rules.Insertions
import Gatehouse.Proofs.Rules.Loading
import Gatehouse.Proofs.Command.OfflineCheck
import Gatehouse.Proofs.Http.GatewayCheck
import Gatehouse.Proofs.Schema.Writing
import Gatehouse.Proofs.Check.Relaxing
import Gatehouse.Proofs.Http.BlankBodies
import Gatehouse.Proofs.Http.TargetQuery
import Gatehouse.Proofs.Rules.RoundTrip
import Gatehouse.Proofs.Rules.LoadFailure
import Gatehouse.Proofs.Http.Mounting
import Gatehouse.Proofs.Command.CheckStory
import Gatehouse.Proofs.Schema.Forms
import Gatehouse.Proofs.Rules.Forms
import Gatehouse.Proofs.Json.Printing
import Gatehouse.Proofs.Http.ProblemBodies
import Gatehouse.Proofs.Http.AllowedOrigins
import Gatehouse.Proofs.Http.ListedNames
import Gatehouse.Proofs.Json.Records
import Gatehouse.Proofs.Server.Precedence
import Gatehouse.Proofs.Server.Ports
import Gatehouse.Proofs.Command.Startup
import Gatehouse.Proofs.Http.UndeclaredRoutes
import Gatehouse.Proofs.Http.BodyLengths
import Gatehouse.Proofs.Schema.Reading
import Gatehouse.Proofs.Schema.Grammar
import Gatehouse.Proofs.Schema.Annotations
import Gatehouse.Proofs.Rules.InlineSchemas
import Gatehouse.Proofs.Schema.Edits
import Gatehouse.Proofs.Schema.Satisfiability
import Gatehouse.Proofs.Schema.Building
import Gatehouse.Proofs.Check.KeyOrder
import Gatehouse.Proofs.Check.QueryOrder
import Gatehouse.Proofs.Check.Dependence
import Gatehouse.Proofs.Check.ListedRoutes
import Gatehouse.Proofs.Http.QueryTexts

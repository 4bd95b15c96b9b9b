import PortableSearch.Time.Calendar
import PortableSearch.Time.Stamp
import PortableSearch.Value
import PortableSearch.Decimal.Shortest
import PortableSearch.Json.Write
import PortableSearch.Json.Read
import PortableSearch.Json.Bytes
import PortableSearch.Text.Utf8
import PortableSearch.Text.Wide
import PortableSearch.Text.Surrogate
import PortableSearch.Text.Classes
import PortableSearch.Text.Literal
import PortableSearch.Value.Display
import PortableSearch.Model.Check
import PortableSearch.Time.Loose.Token
import PortableSearch.Time.Loose.Fields
import PortableSearch.Time.Loose
import PortableSearch.Fault
import PortableSearch.Geo
import PortableSearch.Engine.Query
import PortableSearch.Engine.Read
import PortableSearch.Query
import PortableSearch.Query.Read
import PortableSearch.Engine.Compile
import PortableSearch.Aggregation
import PortableSearch.Aggregation.Read
import PortableSearch.Engine.Aggregations
import PortableSearch.Request
import PortableSearch.EnvFile
import PortableSearch.Settings
import PortableSearch.Searcher
import PortableSearch.Reply
import PortableSearch.Reply.Read
import PortableSearch.Scroll
import PortableSearch.Time.Iso
import PortableSearch.Time.Rfc3339
import PortableSearch.Zone.Data.Americas
import PortableSearch.Zone.Data.EuropeAfrica
import PortableSearch.Zone.Data.AsiaPacific
import PortableSearch.Zone.Data.Other
import PortableSearch.Zone.Rule
import PortableSearch.Zone.Table
import PortableSearch.Zone.Shift
import PortableSearch.Zone.Yearly
import PortableSearch.Zone.Yearly.Text
import PortableSearch.Zone.Catalog
import PortableSearch.Moment
import PortableSearch.Zone
import PortableSearch.DateMath
import PortableSearch.Proofs.QueryWire
import PortableSearch.Proofs.Outcome
import PortableSearch.Proofs.LastWins
import PortableSearch.Proofs.AggregationSection
import PortableSearch.Proofs.RequestFaults
import PortableSearch.Proofs.ScrollWalk
import PortableSearch.Proofs.WireReading
import PortableSearch.Proofs.RequestBody
import PortableSearch.Proofs.DistinctNames
import PortableSearch.Proofs.ReplyMembers
import PortableSearch.Proofs.FailedContinuation
import PortableSearch.Proofs.ExpressionForms
import PortableSearch.Proofs.CivilCalendar
import PortableSearch.Proofs.DateMathGrammar
import PortableSearch.Proofs.ExpressionFaults
import PortableSearch.Proofs.ZoneArithmetic
import PortableSearch.Proofs.RegularZones
import PortableSearch.Proofs.ExactSteps
import PortableSearch.Proofs.ConstantRounding
import PortableSearch.Proofs.RoundingBracket
import PortableSearch.Proofs.BucketShapes
import PortableSearch.Proofs.MetricValues

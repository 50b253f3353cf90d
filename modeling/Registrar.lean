import Registrar.CommandLine.Arguments
import Registrar.CommandLine.Startup
import Registrar.Dsn.Basic
import Registrar.Dsn.Connection
import Registrar.Exchange.Databases
import Registrar.Exchange.Faults
import Registrar.Exchange.Requests
import Registrar.Http.Server
import Registrar.Json.Reader
import Registrar.Json.Writer
import Registrar.Listing
import Registrar.Log.Routing
import Registrar.Main
import Registrar.Net.Address
import Registrar.Problem
import Registrar.Registry.Faulty
import Registrar.Registry.Service
import Registrar.Registry.Table
import Registrar.Resource.Storage
import Registrar.Resource.Wire
import Registrar.Schema.Migration
import Registrar.Settings.Environment
import Registrar.Settings.Load
import Registrar.Settings.Module
import Registrar.Sql.Meaning
import Registrar.Sql.Statement
import Registrar.Yaml.Writer
import Registrar.Proofs.PlaceOrder
import Registrar.Proofs.SortedRows
import Registrar.Proofs.Boundary
import Registrar.Proofs.PageWindow
import Registrar.Proofs.ForwardWalk
import Registrar.Proofs.ChangingStore
import Registrar.Proofs.ConditionTruth
import Registrar.Proofs.NullOrdering
import Registrar.Proofs.SelectRefinement
import Registrar.Proofs.Lowering
import Registrar.Proofs.SqliteSearch
import Registrar.Proofs.DayNumbers
import Registrar.Proofs.DecimalDigits
import Registrar.Proofs.TimestampText
import Registrar.Proofs.TimestampOrder
import Registrar.Proofs.ParsedQueries
import Registrar.Proofs.SqliteListing
import Registrar.Proofs.RecordChecks
import Registrar.Proofs.RecordStore
import Registrar.Proofs.RecordRequests
import Registrar.Proofs.RecordMap
import Registrar.Proofs.ConcurrentUpdates
import Registrar.Proofs.CursorTexts
import Registrar.Proofs.NextCursors
import Registrar.Proofs.AcceptedRequests
import Registrar.Proofs.BackwardWalk
import Registrar.Proofs.CursorSides
import Registrar.Proofs.SqliteWindow
import Registrar.Proofs.NeighbourPages
import Registrar.Proofs.HiddenPasswords
import Registrar.Proofs.LogOwners
import Registrar.Proofs.ConcurrentCreates
import Registrar.Proofs.UpdateSuccess
import Registrar.Proofs.StatementTexts
import Registrar.Proofs.WithheldFailures
import Registrar.Proofs.ColumnLengths
import Registrar.Proofs.HostAddresses
import Registrar.Proofs.CheckedSettings
import Registrar.Proofs.ReadBack
import Registrar.Proofs.FinalSigma
import Registrar.Proofs.ResumedMigrations
import Registrar.Proofs.PageSizes
import Registrar.Proofs.AbsoluteNames
import Registrar.Proofs.TranslatedPredicates
import Registrar.Proofs.EscapedTerms
import Registrar.Proofs.ScanOrders
import Registrar.Proofs.DeclaredCatalogs
import Registrar.Proofs.LogRoutes

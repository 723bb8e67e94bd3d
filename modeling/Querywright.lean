import Querywright.Gathering
import Querywright.Rehearsal
import Querywright.Session.Calling
import Querywright.Session.Making
import Querywright.Timestamp
import Querywright.Proofs.Outcome
import Querywright.Proofs.PieceOwnership
import Querywright.Proofs.StatementPieces
import Querywright.Proofs.StatementAssembly
import Querywright.Proofs.MatchedClauses
import Querywright.Proofs.MatchedPieces
import Querywright.Proofs.StatementAlignment
import Querywright.Proofs.TerminalScope
import Querywright.Proofs.TerminalCourse
import Querywright.Proofs.ArgumentShift
import Querywright.Proofs.BuilderRuns
import Querywright.Proofs.StatementBalance
import Querywright.Proofs.ValueIndependence
import Querywright.Proofs.PoolOperations
import Querywright.Proofs.CallerTraffic
import Querywright.Proofs.PoolUpkeep
import Querywright.Proofs.TrafficSteps
import Querywright.Proofs.OwnedConnections
import Querywright.Proofs.ConnectionOwnership
import Querywright.Proofs.TransactionBlocks
import Querywright.Proofs.TransactionSteps
import Querywright.Proofs.TransactionBracketing
import Querywright.Proofs.PoolCourses
import Querywright.Proofs.StaleConnections
import Querywright.Proofs.LostConnections
import Querywright.Proofs.CallsAsTurns
import Querywright.Proofs.RoundRobin
import Querywright.Proofs.TerminalLifecycle
import Querywright.Proofs.RenderingAlone
import Querywright.Proofs.SubqueryRefinement
import Querywright.Proofs.InterpolatedText
import Querywright.Proofs.TotalStatements
import Querywright.Proofs.PageWindows
import Querywright.Proofs.NamedDatabases
import Querywright.Proofs.StatementRouting
import Querywright.Proofs.TraceLog
import Querywright.Proofs.DeliveredValues
import Querywright.Proofs.KeptFields
import Querywright.Proofs.SelfReferences
import Querywright.Proofs.RefusedCalls
import Querywright.Proofs.LoadedRecords
import Querywright.Proofs.OperatorSpelling
import Querywright.Proofs.ConditionForms
import Querywright.Proofs.ShorthandForms
import Querywright.Proofs.AppliedOperators
import Querywright.Proofs.RowwiseLists
import Querywright.Proofs.AlignedRows
import Querywright.Proofs.InsertedIds
import Querywright.Proofs.JoinHistory
import Querywright.Proofs.JoinedStatements
import Querywright.Proofs.QuotedTokens
import Querywright.Proofs.StatementLayout
import Querywright.Proofs.WrittenIntervals
import Querywright.Proofs.UnboundWork
import Querywright.Proofs.FetchedRows
import Querywright.Proofs.BoundDestinations
import Querywright.Proofs.PoolOpenings
import Querywright.Proofs.PoolSize
import Querywright.Proofs.FailedDispatch
import Querywright.Proofs.TransactionCalls
import Querywright.Proofs.TransactionEndings
import Querywright.Proofs.BlockEndings
import Querywright.Proofs.DoubleRange
import Querywright.Proofs.CountedTotals
import Querywright.Proofs.AssembledLeaves
import Querywright.Proofs.ColumnOrder
import Querywright.Proofs.PercentEncoding
import Querywright.Proofs.FailedMaking
import Querywright.Proofs.MysqlAddresses
import Querywright.Proofs.LaidMappings

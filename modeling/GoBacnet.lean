import GoBacnet.Proofs.AlarmAcknowledgments
import GoBacnet.Proofs.BatchedRead
import GoBacnet.Proofs.BbmdForwarding
import GoBacnet.Proofs.CommandRuns
import GoBacnet.Proofs.ConstructedRoundTrip
import GoBacnet.Proofs.CovObjects
import GoBacnet.Proofs.CovQuiescence
import GoBacnet.Proofs.EventBinding
import GoBacnet.Proofs.EventInformation
import GoBacnet.Proofs.FileStore
import GoBacnet.Proofs.FileTransfer
import GoBacnet.Proofs.GapLaw
import GoBacnet.Proofs.ListProperties
import GoBacnet.Proofs.ListServiceRuns
import GoBacnet.Proofs.ObjectListByIndex
import GoBacnet.Proofs.ObjectRegistry
import GoBacnet.Proofs.ReadRangeItems
import GoBacnet.Proofs.ReassemblyRuns
import GoBacnet.Proofs.RegistryResolve
import GoBacnet.Proofs.ReplySender
import GoBacnet.Proofs.RequestSender
import GoBacnet.Proofs.RequesterMatching
import GoBacnet.Proofs.ResponseBudget
import GoBacnet.Proofs.RouteBound
import GoBacnet.Proofs.ScheduleEvaluation
import GoBacnet.Proofs.ScheduleRuns
import GoBacnet.Proofs.ServerExecution
import GoBacnet.Proofs.TagReencode
import GoBacnet.Proofs.TransactionManager
import GoBacnet.Proofs.TrendLogPaging
import GoBacnet.Proofs.TrendLogSequence
import GoBacnet.Proofs.TrendLogTimes

import Mzani.Balancer.CreateServer
import Mzani.Balancer.ServerCorrelation
import Mzani.Balancer.ServerDispatch
import Mzani.Balancer.ServerQuiescence
import Mzani.Balancer.ServerReports
import Mzani.Balancer.ServerRouting
import Mzani.Balancer.ServerShutdown
import Mzani.Balancer.ShutdownReport
import Mzani.Core.ChunkedGrammar
import Mzani.Core.HeadReadings
import Mzani.Core.HeaderLimit
import Mzani.Core.InterimResponses
import Mzani.Core.OneShotScan
import Mzani.Core.PoolSaturation
import Mzani.Core.RequestReading
import Mzani.Core.ResponseLimits
import Mzani.Core.StartLines
import Mzani.Main
import Mzani.State.Answers
import Mzani.State.AverageLatency
import Mzani.State.Cascade
import Mzani.State.Context
import Mzani.State.DroppedLogs
import Mzani.State.HeadRequests
import Mzani.State.Health
import Mzani.State.LoadShares
import Mzani.State.LogLines
import Mzani.State.LogSecrecy
import Mzani.State.ProbeRecording
import Mzani.State.RetryCalls
import Mzani.State.RetryRouting
import Mzani.State.RoundRobin
import Mzani.State.Selection
import Mzani.State.ServedBackend
import Mzani.State.TicketWrap
import Mzani.Utils.LoggedStatus

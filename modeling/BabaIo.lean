import BabaIo.Library.Runs
import BabaIo.EventMask
import BabaIo.ReportProgress
import BabaIo.ConnectCallback
import BabaIo.UserObservations
import BabaIo.ScopeLock
import BabaIo.RegistrarClose
import BabaIo.EventRecovery
import BabaIo.FileOwnership
import BabaIo.CancellableTask
import BabaIo.ServiceStop
import BabaIo.StrandQueue
import BabaIo.TaskThreads
import BabaIo.InterestMask
import BabaIo.ServerLoop
import BabaIo.DestroyInCallback
import BabaIo.MovedOperations
import BabaIo.RejectedAddress
import BabaIo.EndpointCopies
import BabaIo.TimerBackends
import BabaIo.RequestExchange
import BabaIo.TimerExpiry
import BabaIo.AcceptStream
import BabaIo.DeletionOrder
import BabaIo.WorkLeft
import BabaIo.FinalStop

import TaskMonitor.FrameStream
import TaskMonitor.SendFraming
import TaskMonitor.RequestCallbacks
import TaskMonitor.RoundTrip
import TaskMonitor.KillSafety
import TaskMonitor.Supervision
import TaskMonitor.TargetResolution
import TaskMonitor.PidLookup
import TaskMonitor.Reaping
import TaskMonitor.StoppedTasks
import TaskMonitor.StaleClients
import TaskMonitor.ClientList
import TaskMonitor.ConnectionObject
import TaskMonitor.HeartbeatSource
import TaskMonitor.Reconnect
import TaskMonitor.ClientLifecycle
import TaskMonitor.HeartbeatPeriod
import TaskMonitor.CallbackPairs
import TaskMonitor.FrameLengths
import TaskMonitor.TaskDetail
import TaskMonitor.RejectedRequests
import TaskMonitor.StartUp
import TaskMonitor.CreationFailures
import TaskMonitor.FrameCapacity
import TaskMonitor.ListingSize
import TaskMonitor.WriteDelivery
import TaskMonitor.CompleteFrames
import TaskMonitor.PayloadScan
import TaskMonitor.ActionResults
import TaskMonitor.ResponseChecks
import TaskMonitor.TaskListing
import TaskMonitor.Configuration
import TaskMonitor.RandomDelay
import TaskMonitor.ReadCallback
import TaskMonitor.ConfigLoader
import TaskMonitor.ServerRestart
import TaskMonitor.CommandLine
import TaskMonitor.RequestNodes
import TaskMonitor.Agreement
import TaskMonitor.Processes
import TaskMonitor.TaskMain
import TaskMonitor.Accepting
import TaskMonitor.Conversations
import TaskMonitor.QueriedDetails
import TaskMonitor.OwnRequests
import TaskMonitor.LibraryRequests
import TaskMonitor.Noninterference
import TaskMonitor.RestartPace

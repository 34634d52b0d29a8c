import SensorGateway.Library.Loop
import SensorGateway.Library.History
import SensorGateway.Library.StepSystem
import SensorGateway.Library.Heap
import SensorGateway.Library.Broadcast
import SensorGateway.Library.Lines
import SensorGateway.Library.Rounding
import SensorGateway.Library.CriticalSection
import SensorGateway.Library.Announce
import SensorGateway.Config
import SensorGateway.Sbuffer.Basic
import SensorGateway.Sbuffer.Refinement
import SensorGateway.Sbuffer.Runs
import SensorGateway.Sbuffer.Commute
import SensorGateway.Sbuffer.Status
import SensorGateway.Sbuffer.Lifetime
import SensorGateway.Sbuffer.Accesses
import SensorGateway.Dplist.Basic
import SensorGateway.Dplist.Refinement
import SensorGateway.Dplist.Runs
import SensorGateway.Dplist.Navigation
import SensorGateway.Dplist.Sorted
import SensorGateway.Dplist.Ownership
import SensorGateway.Log.Message
import SensorGateway.Log.Fifo
import SensorGateway.Log.Numbering
import SensorGateway.Log.Shutdown
import SensorGateway.Datamgr.Basic
import SensorGateway.Datamgr.Window
import SensorGateway.Datamgr.Alarms
import SensorGateway.Datamgr.Paths
import SensorGateway.Datamgr.LastModified
import SensorGateway.Datamgr.RingIndex
import SensorGateway.Datamgr.SensorMap
import SensorGateway.Datamgr.Lookup
import SensorGateway.Datamgr.Pointers
import SensorGateway.Connmgr.Receive
import SensorGateway.Connmgr.Segmentation
import SensorGateway.Connmgr.Truncation
import SensorGateway.Connmgr.Listen
import SensorGateway.Connmgr.Clients
import SensorGateway.Connmgr.Descriptors
import SensorGateway.Connmgr.Scan
import SensorGateway.Connmgr.Sessions
import SensorGateway.Connmgr.Timeouts
import SensorGateway.Connmgr.SelectSet
import SensorGateway.Connmgr.Streams
import SensorGateway.Connmgr.Sockets
import SensorGateway.Connmgr.Memory
import SensorGateway.Storage.Basic
import SensorGateway.Storage.Records
import SensorGateway.Storage.FileReaders
import SensorGateway.Storage.Database
import SensorGateway.Storage.DbSessions
import SensorGateway.Storage.Queries
import SensorGateway.Gateway.Basic
import SensorGateway.Gateway.Invariant
import SensorGateway.Gateway.Delivery
import SensorGateway.Gateway.Locking
import SensorGateway.Gateway.Unreachable
import SensorGateway.Gateway.Parent
import SensorGateway.Gateway.StorageManager
import SensorGateway.Gateway.Outcome
import SensorGateway.Gateway.Termination
import SensorGateway.Gateway.Network
import SensorGateway.Gateway.Events
import SensorGateway.Gateway.Processes

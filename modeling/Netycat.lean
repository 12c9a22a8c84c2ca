import Netycat.Lib.TransitionSystem
import Netycat.Lib.MinHeap
import Netycat.Corecat
import Netycat.Impl.Transfer
import Netycat.Impl.ReadWriteAll
import Netycat.Corecat.Endian
import Netycat.IP.IPAddress
import Netycat.Impl.Address
import Netycat.IP.IPResolver
import Netycat.Impl.Socket
import Netycat.Impl.AsyncSocket
import Netycat.Impl.Owner
import Netycat.Network.Endpoints
import Netycat.Executor.IOExecutor
import Netycat.Executor.System
import Netycat.Network.SocketLifetime
import Netycat.Executor.Transition
import Netycat.Executor.Count
import Netycat.Executor.Resolving
import Netycat.Executor.Timers
import Netycat.Lib.Ledger
import Netycat.Executor.Operations
import Netycat.Filesystem.Directory
import Netycat.Filesystem.Traversal
import Netycat.Impl.CachedInfo
import Netycat.Filesystem.PathParse
import Netycat.Filesystem.PathJoin
import Netycat.Filesystem.PathMutation
import Netycat.Filesystem.EntryNames
import Netycat.Filesystem.MappedFile
import Netycat.Filesystem.File
import Netycat.Impl.Progress
import Netycat.Network.FailedOpen
import Netycat.Executor.Deadlines
import Netycat.Executor.Throwing
import Netycat.IP.AddressOrder
import Netycat.Lib.Layout
import Netycat.Corecat.Formatter
import Netycat.IP.AddressText
import Netycat.Filesystem.CurrentDirectory
import Netycat.Executor.Timeout
import Netycat.Executor.WorkBalance
import Netycat.Network.Datagrams
import Netycat.Network.SharedError
import Netycat.Lib.Commuting
import Netycat.Lib.Processes
import Netycat.Impl.Chunks
import Netycat.Network.Conversation
import Netycat.Network.Echo
import Netycat.Executor.Quiescence
import Netycat.Network.DatagramExchange
import Netycat.Network.UDPEcho
import Netycat.Filesystem.SharedIterators
import Netycat.Filesystem.PathMeaning
import Netycat.Filesystem.TreeWalk
import Netycat.Network.CaptureSafety
import Netycat.Executor.Executing
import Netycat.Filesystem.Exploration
import Netycat.Filesystem.OpenFiles
import Netycat.Filesystem.MappedCopy
import Netycat.Executor.Transfers

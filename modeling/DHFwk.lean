import DHFwk.Table
import DHFwk.Runs
import DHFwk.Ledger
import DHFwk.Ring
import DHFwk.Parcel
import DHFwk.Basic
import DHFwk.Calls
import DHFwk.Status
import DHFwk.Gate
import DHFwk.SourceStatus
import DHFwk.RefCounts
import DHFwk.SourceRefs
import DHFwk.SourceHardware
import DHFwk.SourceInUse
import DHFwk.SinkRefs
import DHFwk.FailedCalls
import DHFwk.ComponentHandles
import DHFwk.ComponentLife
import DHFwk.HdfOperate
import DHFwk.HdfInUse
import DHFwk.HdfLibraries
import DHFwk.HdfConcurrent
import DHFwk.DeviceLife
import DHFwk.OnlineConvergence
import DHFwk.UnInitFlag
import DHFwk.TaskPipeline
import DHFwk.HardwareTasks
import DHFwk.Text
import DHFwk.CapabilityKey
import DHFwk.EnabledDevices
import DHFwk.SyncRequests
import DHFwk.PendingRequests
import DHFwk.Json
import DHFwk.CapabilityInfo
import DHFwk.CacheChange
import DHFwk.RemoteCaps
import DHFwk.CapsExchange
import DHFwk.SocketTable
import DHFwk.DBAdapter
import DHFwk.CacheWrites
import DHFwk.FilterTree
import DHFwk.AVTypes
import DHFwk.SyncManager
import DHFwk.ControlCenter
import DHFwk.SenderEngine
import DHFwk.EngineStarts
import DHFwk.ChannelAdapter
import DHFwk.CodecAccess
import DHFwk.FrameMeta
import DHFwk.AudioMeta
import DHFwk.AudioCoder
import DHFwk.AudioBuffers
import DHFwk.AudioThreads
import DHFwk.AudioTimes
import DHFwk.AVSyncMode
import DHFwk.OutputController
import DHFwk.DescriptorIpc
import DHFwk.DeviceRecords
import DHFwk.CapsAccess
import DHFwk.DeviceTasks
import DHFwk.OffLineDisable
import DHFwk.StartResults
import DHFwk.EnableParams
import DHFwk.Registrations
import DHFwk.EngineRelease
import DHFwk.CodecAbility
import DHFwk.OnlineTables
import DHFwk.IdleRelease
import DHFwk.CriticalFlag
import DHFwk.Recovery
import DHFwk.SyncSleep
import DHFwk.LittleEndian
import DHFwk.LastWrites
import DHFwk.ClockRing
import DHFwk.ClockHandover
import DHFwk.VersionLookup
import DHFwk.AudioGate
import DHFwk.MessageFields
import DHFwk.KeyedSet
import DHFwk.Publisher
import DHFwk.AttemptResults
import DHFwk.TimedRequest
import DHFwk.AuthRaces
import DHFwk.VersionRecords
import DHFwk.LoggedMemory
import DHFwk.MemoryBounds
import DHFwk.DescriptorCallback
import DHFwk.ClockWait
import DHFwk.BufferItems
import DHFwk.DelayQueue
import DHFwk.PrivacyPage
import DHFwk.TokenParams
import DHFwk.PeerClearing
import DHFwk.StatusListeners
import DHFwk.LowLatency
import DHFwk.LocalHardware
import DHFwk.InputRecords
import DHFwk.CheckedCopy
import DHFwk.BufferMemory
import DHFwk.Intervals
import DHFwk.IntervalStatistics
import DHFwk.Wire
import DHFwk.RemoteRequests
import DHFwk.RemoteCalls
import DHFwk.Relay
import DHFwk.VideoLink
import DHFwk.SyncGroup
import DHFwk.Follower
import DHFwk.Notices
import DHFwk.CacheFollows
import DHFwk.ListenerCalls
import DHFwk.PublishedMessages
import DHFwk.TreeCalls
import DHFwk.FilterFlow
import DHFwk.OpenHandles
import DHFwk.LoaderLibraries

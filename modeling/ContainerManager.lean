import ContainerManager.Lib.Transition
import ContainerManager.Lib.Loop
import ContainerManager.Lib.Exclusion
import ContainerManager.Lifecycle
import ContainerManager.RoleExclusion
import ContainerManager.Sessions
import ContainerManager.Refinement.Cyclic
import ContainerManager.Refinement.Events
import ContainerManager.Properties.Roles
import ContainerManager.Properties.Consistency
import ContainerManager.Properties.Sessions
import ContainerManager.Properties.Shutdown
import ContainerManager.Properties.QueuedRecovery
import ContainerManager.Properties.Requests
import ContainerManager.Properties.Retry
import ContainerManager.Parser.CJson
import ContainerManager.Parser.Container
import ContainerManager.Properties.GracePeriod
import ContainerManager.Properties.Incarnation
import ContainerManager.Lib.Channel
import ContainerManager.Operations.Trace
import ContainerManager.Operations.Exchange
import ContainerManager.Properties.Answers
import ContainerManager.Operations.Disks
import ContainerManager.Properties.Release
import ContainerManager.Properties.Sources
import ContainerManager.Properties.Acknowledge
import ContainerManager.Properties.Addressing
import ContainerManager.Properties.Responses
import ContainerManager.Properties.ChangeActive
import ContainerManager.Properties.Instances
import ContainerManager.Properties.Threads
import ContainerManager.Lib.Tokens
import ContainerManager.Plugin
import ContainerManager.Properties.BootOrder
import ContainerManager.Properties.Devices
import ContainerManager.Properties.CompleteConfig
import ContainerManager.Devices.Uevent
import ContainerManager.Lib.Search
import ContainerManager.Devices.Matching
import ContainerManager.Devices.EventInfo
import ContainerManager.Properties.RuleMatching
import ContainerManager.Properties.MissingDevtype
import ContainerManager.Properties.ExcludedFs
import ContainerManager.Parser.DynamicDevice
import ContainerManager.Properties.DynamicItems
import ContainerManager.Devices.Injection
import ContainerManager.Properties.InjectedUevent
import ContainerManager.Devices.Vxcan
import ContainerManager.Properties.PeerNames
import ContainerManager.Properties.AtomicDispatch
import ContainerManager.Properties.BusyDevice
import ContainerManager.Control.Netif
import ContainerManager.Properties.NetifAssignment
import ContainerManager.Lib.Counts
import ContainerManager.Control.MountBook
import ContainerManager.Refinement.GuestSteps
import ContainerManager.Control.MountMoves
import ContainerManager.Refinement.Mounts
import ContainerManager.Properties.MountBalance
import ContainerManager.Devices.Static
import ContainerManager.Lib.Script
import ContainerManager.Lxc.Calls
import ContainerManager.Lxc.Instance
import ContainerManager.Lxc.Outcomes
import ContainerManager.Properties.StaticDevices
import ContainerManager.Lxc.Rendering
import ContainerManager.Properties.CompleteItems
import ContainerManager.Properties.ConfigErrors
import ContainerManager.Properties.BaseEntries
import ContainerManager.Properties.IdMapping
import ContainerManager.Parser.Manager
import ContainerManager.Properties.ManagerConfig
import ContainerManager.Lib.DlList
import ContainerManager.Refinement.Delayed
import ContainerManager.Refinement.DelayedLists
import ContainerManager.Properties.DelayedMounts
import ContainerManager.Lib.Feed
import ContainerManager.Properties.InterfaceList
import ContainerManager.Lib.BlockDevice
import ContainerManager.Plugin.EraseMkfs
import ContainerManager.Properties.EraseDevice
import ContainerManager.Cmcontrol
import ContainerManager.Lib.JsonText
import ContainerManager.Properties.GuestList
import ContainerManager.Properties.GuestNodes
import ContainerManager.Lib.OpenFile
import ContainerManager.ProcUtil
import ContainerManager.Properties.CmdlineTokens
import ContainerManager.Properties.CmdlineRead
import ContainerManager.ConfigDir
import ContainerManager.Properties.ConfigPaths
import ContainerManager.Lib.FileTree
import ContainerManager.CmUtils
import ContainerManager.Properties.Directories
import ContainerManager.Devices.Dynamic
import ContainerManager.Lib.Plan
import ContainerManager.Mainloop
import ContainerManager.Properties.Mainloop
import ContainerManager.Properties.Teardown
import ContainerManager.Parser.Device
import ContainerManager.Parser.Memory
import ContainerManager.Properties.ParserMemory.Records
import ContainerManager.Properties.ParserMemory.Sections
import ContainerManager.Properties.ParserMemory.Dynamic
import ContainerManager.Properties.ParserMemory.Base
import ContainerManager.Properties.ParserMemory.Config
import ContainerManager.Properties.ParserMemory.File

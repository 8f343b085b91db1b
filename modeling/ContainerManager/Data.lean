import Mathlib.Data.Fintype.Basic
import ContainerManager.Mount

/-!
# Data model

The structures of `container.h` and `manager.h`. A guest is an index of the `containers` array, so a
pointer to a guest is a `Fin n`. Fields marked as history are not in the source: they record what
happened, nothing reads them.
-/

namespace ContainerManager

/-! ### Base config -/

inductive DiskMountType where
  | ro
  | rw
deriving DecidableEq, Repr

inductive DiskRedundancyType where
  | failover
  | ab
  | fsck
  | mkfs
deriving DecidableEq, Repr

inductive DeviceType where
  | block
  | hostRootfilesystem
deriving DecidableEq, Repr

/-- `container_baseconfig_rootfs_t`. -/
structure RootFs where
  path : Option String := none
  filesystem : Option String := none
  mode : DiskMountType := .ro
  option : Option String := none
  deviceType : DeviceType := .block
  rootfsDev : BlockDev := (none, none)
  isMounted : Bool := false
  errorCount : ℕ := 0
deriving DecidableEq, Repr

/-- `container_baseconfig_extradisk_t`; `mountFrom` and `mountTo` are the fields `from` and `to`. -/
structure ExtraDisk where
  mountFrom : String
  mountTo : String
  filesystem : Option String := none
  mode : DiskMountType := .ro
  option : Option String := none
  redundancy : DiskRedundancyType := .failover
  blockdev : String × Option String
  isMounted : Bool := false
  errorCount : ℕ := 0
deriving DecidableEq, Repr

/-- `container_baseconfig_lifecycle_t`. -/
structure Lifecycle where
  halt : Option String := none
  reboot : Option String := none
  timeout : ℤ := 0
deriving DecidableEq, Repr

/-- `container_baseconfig_capability_t`. -/
structure Capability where
  drop : Option String := none
  keep : Option String := none
deriving DecidableEq, Repr

/-- `container_baseconfig_tty_t`. -/
structure Tty where
  ttyMax : ℤ := 0
  ptyMax : ℤ := 0
deriving DecidableEq, Repr

/-- `container_baseconfig_idmap_t`. -/
structure IdMap where
  guestRootId : ℤ := 0
  hostStartId : ℤ := 0
  numOfId : ℤ := 0
deriving DecidableEq, Repr

/-- `container_baseconfig_idmaps_t`. -/
structure IdMaps where
  enabled : Bool := false
  uid : IdMap := {}
  gid : IdMap := {}
deriving DecidableEq, Repr

/-- `container_baseconfig_t`; `shmounts` is the field `extended.shmounts`. -/
structure BaseConfig where
  autoboot : Bool := false
  bootpriority : ℤ := 0
  rootfs : RootFs := {}
  extradiskList : List ExtraDisk := []
  shmounts : Option String := none
  lifecycle : Lifecycle := {}
  cap : Capability := {}
  tty : Tty := {}
  idmaps : IdMaps := {}
  envlist : List String := []
  abboot : ℤ := 0
  /-- history: the mount and unmount calls made for this guest's disks, oldest first. -/
  mountCalls : List MountCall := []
deriving DecidableEq, Repr

/-! ### Runtime status -/

/-- `CONTAINER_*`, the runtime status of a guest. -/
inductive ContainerStatus where
  | disable
  | notStarted
  | started
  | reboot
  | shutdown
  | dead
  | exit
  | runWorker
deriving DecidableEq, Repr

/-! ### File system and network interface config -/

inductive FsMountType where
  | filesystem
  | directory
  | delayed
deriving DecidableEq, Repr

/-- `container_fsmount_elem_t`. -/
structure FsMountElem where
  type : FsMountType
  mountFrom : String
  mountTo : String
  fstype : String
  option : String
deriving DecidableEq, Repr

/-- `container_delayed_mount_elem_t`, told apart by its place in memory. -/
structure DelayedMountElem where
  type : FsMountType
  mountFrom : String
  mountTo : String
  node : ℕ
deriving DecidableEq, Repr

/-- A call of `lxcutil_dynamic_mount_to_guest` for a delayed element: the incarnation and the status
of the guest at the call, and whether the mount succeeded. -/
structure DelayedMountCall where
  incarnation : ℕ
  status : ContainerStatus
  elem : DelayedMountElem
  result : Bool
deriving DecidableEq, Repr

/-- `container_delayed_mount_t`: the configured elements and the queue of those still to mount. -/
structure DelayedMount where
  initialList : List DelayedMountElem := []
  runtimeList : List DelayedMountElem := []
  /-- history: the mount calls made for this guest's delayed elements, oldest first. -/
  mountCalls : List DelayedMountCall := []
deriving DecidableEq, Repr

/-- `container_fsconfig_t`. -/
structure FsConfig where
  mountlist : List FsMountElem := []
  delayed : DelayedMount := {}
deriving DecidableEq, Repr

/-- `container_dynamic_netif_elem_t`. -/
structure DynamicNetifElem where
  ifname : String
  ifindex : ℤ := 0
  isAvailable : Bool := false
deriving DecidableEq, Repr

/-- `network_interface_info_t`, an element of the host's `nllist`. -/
structure NetworkInterfaceInfo where
  ifindex : ℤ
  ifname : String
deriving DecidableEq, Repr

/-! ### Workqueue -/

/-- `CONTAINER_WORKER_*`. -/
inductive WorkerStatus where
  | disable
  | inactive
  | scheduled
  | started
  | completed
deriving DecidableEq, Repr

/-- `struct s_cm_worker_object`: a loaded plugin with its instance and the arguments it was given.
`instanceId` numbers the instances of one workqueue. -/
structure WorkerObject where
  instanceId : ℕ
  module : String
  args : Option String
deriving DecidableEq, Repr

/-- `container_workqueue_t`. -/
structure Workqueue where
  object : Option WorkerObject := none
  status : WorkerStatus := .disable
  stateAfterExecute : ℤ := 0
  result : ℤ := 0
  /-- the worker thread is alive -/
  thread : Bool := false
  /-- history: how many plugin instances were created, and which were deleted. -/
  loaded : ℕ := 0
  deleted : List ℕ := []
deriving DecidableEq, Repr

/-! ### Guests -/

/-- `CM_SYSTEM_STATE_*`. -/
inductive SystemState where
  | run
  | shutdown
deriving DecidableEq, Repr

/-- A `struct lxc_container`, told apart by the incarnation it is created for. -/
structure LxcContainer where
  incarnation : ℕ
deriving DecidableEq, Repr

/-- `container_runtime_status_t`. A `sd_event_source *` is the number of the source. -/
structure RuntimeStatus where
  lxc : Option LxcContainer := none
  timeout : ℤ := 0
  status : ContainerStatus := .disable
  launchErrorCount : ℕ := 0
  pid : ℤ := 0
  pidfdSource : Option ℕ := none
deriving DecidableEq, Repr

/-- What happened to a guest. -/
inductive GuestEvent where
  /-- `container_start` was called at this status and returned `ret` -/
  | start (status : ContainerStatus) (ret : ℤ)
  /-- `container_request_shutdown` was called in these states and returned `ret` -/
  | shutdownRequest (sysState : SystemState) (status : ContainerStatus) (worker : WorkerStatus)
      (ret : ℤ)
  /-- `lxcutil_container_shutdown` was accepted at this time -/
  | stop (now : ℤ)
  /-- `container_exec_internal_event` force-killed the guest at this time -/
  | forcekill (now : ℤ)
  /-- a role switch disabled the guest -/
  | disabled
  /-- a role start or a role switch enabled the guest -/
  | enabled
  /-- the test command queued a worker -/
  | scheduled
deriving DecidableEq, Repr

/-- `container_config_t`; `dynamicNetiflist` is the dynamic part of its `netifconfig`. -/
structure ContainerConfig where
  name : String
  role : String
  baseconfig : BaseConfig := {}
  fsconfig : FsConfig := {}
  dynamicNetiflist : List DynamicNetifElem := []
  runtimeStat : RuntimeStatus := {}
  workqueue : Workqueue := {}
  /-- history: the number of successful launches. -/
  launches : ℕ := 0
  /-- history: the events of this guest, newest first. -/
  history : List GuestEvent := []
deriving DecidableEq, Repr

/-! ### Manager operations -/

/-- `MANAGER_MOUNT_TYPE_*`; `unknown` is the 0 that stands for any other text. -/
inductive ManagerMountType where
  | unknown
  | pre
  | post
  | delayed
deriving DecidableEq, Repr

/-- `MANAGER_WORKER_STATE_*`. -/
inductive ManagerWorkerState where
  | nop
  | queued
  | complete
  | canceled
deriving DecidableEq, Repr

/-- `container_manager_operation_mount_elem_t`; `mountTo` is the field `to`. -/
structure MountElem where
  type : ManagerMountType := .delayed
  mountTo : String
  filesystem : String
  mode : DiskMountType := .ro
  option : Option String := none
  redundancy : DiskRedundancyType := .failover
  blockdev : String × Option String
  index : ℕ
  isMounted : Bool := false
  isDispatched : Bool := false
  errorCount : ℕ := 0
  state : ManagerWorkerState := .nop
deriving DecidableEq, Repr

/-- `worker_response_t`: `operation` 0 is mount and 1 is unmount, `result` 0 is complete, 1 is
canceled and -1 is error. -/
structure WorkerResponse where
  index : ℕ
  operation : ℤ
  result : ℤ
deriving DecidableEq, Repr

/-- What the manager's worker thread does, as far as the rest of the world can see it. -/
inductive WorkerAction where
  /-- a call of one of the mount procedures for the element, with its return value -/
  | mount (index : ℕ) (ret : ℤ) (calls : List MountCall)
  /-- a call of `unmount_disk` for the element, with its return value -/
  | unmount (index : ℕ) (ret : ℤ) (calls : List MountCall)
  /-- a recovery child forked for the element -/
  | recover (index : ℕ) (redundancy : DiskRedundancyType)
  /-- a packet written to `worker_fd` -/
  | respond (wres : WorkerResponse)
  /-- `worker_fd` closed, the thread ends -/
  | close
deriving DecidableEq, Repr

/-- Which function dispatched a worker. -/
inductive OperationKind where
  | launch
  | terminate
deriving DecidableEq, Repr

/-- `container_manager_operation_storage_t`, with the host's end of the socket pair: the packets not
yet read, and whether the worker closed its end. `serial` numbers the dispatches. -/
structure OperationStorage where
  serial : ℕ
  kind : OperationKind
  packets : List WorkerResponse := []
  workerClosed : Bool := false
deriving DecidableEq, Repr

/-- A worker thread: what it has still to do, and the dispatch it belongs to. -/
structure WorkerThread where
  serial : ℕ
  kind : OperationKind
  todo : List WorkerAction
deriving DecidableEq, Repr

/-- `container_manager_operation_t`, with the worker threads it has started. -/
structure ManagerOperation where
  mountList : List MountElem := []
  storage : Option OperationStorage := none
  threads : List WorkerThread := []
  /-- history: the number of successful dispatches. -/
  dispatches : ℕ := 0
deriving DecidableEq, Repr

/-! ### The manager -/

/-- `container_manager_role_config_t`. The element `none` of the list is the terminator, whose `cc`
is `NULL`. -/
structure RoleConfig (n : ℕ) where
  name : String
  containerList : List (Option (Fin n)) := []
deriving DecidableEq, Repr

/-- The packets on the internal socket. The incarnation of a guest exit is history. -/
inductive Message where
  | netifUpdated
  | guestExit (containerNumber : ℤ) (incarnation : ℕ)
  | systemShutdown
  | timerTick
  | other (command : ℕ)
deriving DecidableEq, Repr

/-- A registered pidfd event source. The guest and the incarnation it watches are history: the
handler only sees the source. -/
structure PidfdSource (n : ℕ) where
  id : ℕ
  guest : Fin n
  incarnation : ℕ
deriving DecidableEq, Repr

/-- The part of the `sd_event` loop the manager adds pidfd sources to. -/
structure EventLoop (n : ℕ) where
  nextId : ℕ := 0
  sources : List (PidfdSource n) := []
deriving DecidableEq, Repr

/-- Why `container_exec_internal_event` called `container_mngsm_exit`. -/
inductive ExitReason where
  | complete
  | notRequired
  | failed
deriving DecidableEq, Repr

/-- What happened in the whole system. -/
inductive LogEntry (n : ℕ) where
  /-- `container_start` was called for the guest while the guests had these statuses -/
  | containerStart (guest : Fin n) (status : Fin n → ContainerStatus)
  /-- a worker thread did this -/
  | worker (kind : OperationKind) (action : WorkerAction)
  | exit (reason : ExitReason)

/-- `containers_t`, with the parts of `cmcfg`, `cms`, `ddm` and `event` that its functions use:
the role list and the manager operation, the internal socket (`comm`, oldest packet first), the
host's network interfaces and the event loop. -/
structure Containers (n : ℕ) where
  containers : Fin n → ContainerConfig
  sysState : SystemState := .run
  roleList : List (RoleConfig n) := []
  operation : ManagerOperation := {}
  nllist : List NetworkInterfaceInfo := []
  comm : List Message := []
  event : EventLoop n := {}
  /-- history: what happened, newest first. -/
  log : List (LogEntry n) := []

/-! ### Setters -/

/-- The guest takes part in its role: its status is not `CONTAINER_DISABLE`. -/
abbrev ContainerConfig.Enabled (cc : ContainerConfig) : Prop := cc.runtimeStat.status ≠ .disable

namespace ContainerConfig

def setStatus (cc : ContainerConfig) (status : ContainerStatus) : ContainerConfig :=
  { cc with runtimeStat := { cc.runtimeStat with status := status } }

def record (cc : ContainerConfig) (e : GuestEvent) : ContainerConfig :=
  { cc with history := e :: cc.history }

end ContainerConfig

namespace Containers

variable {n : ℕ}

/-- `*cs->containers[i] = cc`. -/
def setGuest (cs : Containers n) (i : Fin n) (cc : ContainerConfig) : Containers n :=
  { cs with containers := Function.update cs.containers i cc }

/-- Append a packet to the internal socket, when the write succeeds. -/
def send (cs : Containers n) (m : Message) (sent : Bool) : Containers n :=
  if sent then { cs with comm := cs.comm ++ [m] } else cs

def writeLog (cs : Containers n) (e : LogEntry n) : Containers n := { cs with log := e :: cs.log }

end Containers

end ContainerManager

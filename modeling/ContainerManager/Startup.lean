import ContainerManager.ConfigDir
import ContainerManager.Sessions
import ContainerManager.Lib.Ownership

/-!
# Resources of the process

`main` of `container-manager.c` with the setup and cleanup functions that it calls, as programs over
a ledger of the memory, descriptors and event sources of the process. The functions have the names
of the source; what they do apart from resources is in other modules. Of what the start of a guest
acquires only its monitor is here, and the config of a guest is one resource, made by its parser.
-/

namespace ContainerManager.Startup

open Ownership

/-- The kinds of resources, by the pointers that hold them. -/
inductive Kind where
  | event
  | managerConfig | guestConfig | containers | guestArray | role | roleName | roleElem
  | mngsm | procutil | primaryFd | secondaryFd | socketSource | timerSource
  | extif | serverFd | serverSource | sessionFd | sessionSource
  | controlInterface | deviceManager
  | dynamicUdev | udev | udevMonitor | udevSource
  | netifMonitor | netlinkSocket | netlinkSource | listingSocket | netifInfo
  | pidfd | pidfdSource
deriving DecidableEq, Repr

/-- A multiset of resources of the process. -/
abbrev Resources := Multiset (Resource Kind)

/-! ### Data -/

/-- An event source, and the descriptor that it owns. -/
structure EventSource where
  self : ℕ
  fd : Option ℕ := none

/-- `cm_external_interface_t`. -/
structure Extif where
  self : ℕ
  interfaceEvsource : Option EventSource := none
  interfaceSessionEvsource : Option EventSource := none

/-- `struct s_container_mngsm`. -/
structure Mngsm where
  self : ℕ
  prutl : Option ℕ := none
  socketSource : Option EventSource := none
  secondaryFd : Option ℕ := none
  timerSource : Option ℕ := none
  cmExtIf : Option Extif := none

/-- `struct s_dynamic_device_udev`. -/
structure DynamicUdev where
  self : ℕ
  pudev : Option ℕ
  pudevMonitor : Option ℕ
  libudevSource : Option ℕ

/-- `struct s_netifmonitor`. -/
structure Netifmon where
  self : ℕ
  nl : Option ℕ
  ifmonitorSource : Option ℕ

/-- `dynamic_device_manager_t`. -/
structure DeviceManager where
  self : ℕ
  ddu : Option DynamicUdev := none
  netifmon : Option Netifmon := none
  /-- the list of interfaces; its head is zeroed memory before `dl_list_init` -/
  nllist : Option (List (NetworkInterfaceInfo × ℕ)) := none

/-- `container_manager_role_config_t`. -/
structure Role where
  self : ℕ
  name : Option (String × ℕ)
  containerList : List ℕ

/-- The monitors of the guests, by their positions. -/
structure Monitors where
  /-- `runtime_stat.pidfd_source` of the guests that have one -/
  pidfdSource : List (ℕ × ℕ) := []
  /-- history: the sources whose pointer was set to another one -/
  overwritten : List ℕ := []
  /-- history: the descriptors, to which there is no pointer. -/
  pidfds : List ℕ := []

/-- The pointer of the guest is set to a new source. -/
def Monitors.watch (m : Monitors) (i source : ℕ) : Monitors :=
  { m with
    pidfdSource := (i, source) :: m.pidfdSource.filter fun p => p.1 ≠ i
    overwritten := (m.pidfdSource.filter fun p => p.1 = i).map Prod.snd ++ m.overwritten }

/-- `containers_t`. -/
structure Manager where
  self : ℕ
  containers : ℕ
  cmcfg : ℕ
  roleList : List Role := []
  guests : List ℕ
  /-- the workqueues of the guests, by their position -/
  workqueue : ℕ → Workqueue
  cms : Option Mngsm := none
  cci : Option ℕ := none
  ddm : Option DeviceManager := none
  monitors : Monitors := {}

/-- The workqueue of a guest changes. -/
def Manager.work (cs : Manager) (w : ℕ × Workqueue) : Manager :=
  { cs with workqueue := Function.update cs.workqueue w.1 w.2 }

/-- `sd_event_source_disable_unref`, which closes a descriptor that the source owns. -/
def disableUnref (source descriptor : Kind) : Option EventSource → Owning Kind Unit
  | none => pure ()
  | some s => do
    release source s.self
    releaseOpt descriptor s.fd

/-! ### Configs -/

/-- The allocations for one guest: that of its role by the parser, and those in
`bind_container_to_role_list`. -/
structure BindSys where
  ccRole : Bool
  /-- for the element in the entry of this position -/
  elem : ℕ → Bool
  role : Bool
  name : Bool
  terminator : Bool
  first : Bool

/-- A guest that boots automatically goes to the top, another one to the tail. -/
def Role.addGuest (c : Role) (autoboot : Bool) (elem : ℕ) : Role :=
  { c with
    containerList := if autoboot then elem :: c.containerList else c.containerList ++ [elem] }

/-- Add the guest to an entry, if it is that of its role. -/
def addToRole (sys : BindSys) (cc : ContainerConfig) (c : Role × ℕ) : Owning Kind Role :=
  if c.1.name.any (·.1 = cc.role) ∧ sys.elem c.2 then do
    let elem ← acquire .roleElem
    pure (c.1.addGuest cc.baseconfig.autoboot elem)
  else pure c.1

/-- Create an entry for the role of the guest. -/
def createRole (sys : BindSys) (cc : ContainerConfig) (roleList : List Role) :
    Owning Kind (List Role) :=
  if sys.role then do
    let self ← acquire .role
    let name ← acquireIf sys.name .roleName
    if sys.terminator then do
      let terminator ← acquire .roleElem
      let first ← acquireIf sys.first .roleElem
      let c : Role := ⟨self, name.map (cc.role, ·), [terminator]⟩
      pure (roleList ++ [(first.map (c.addGuest cc.baseconfig.autoboot)).getD c])
    else do
      releaseOpt .roleName name
      release .role self
      pure roleList
  else pure roleList

/-- `bind_container_to_role_list` for one guest. A role that is null is read by `strcmp` with the
name of an entry, or by `strdup` for a new one. -/
def bindContainer (sys : BindSys) (cc : ContainerConfig) (roleList : List Role) :
    Owning Kind (List Role) :=
  if ¬ sys.ccRole then
    if (roleList.any fun c => c.name.isSome) ∨ sys.role then deref none else pure roleList
  else if roleList.any fun c => c.name.any (·.1 = cc.role) then
    roleList.zipIdx.mapM (addToRole sys cc)
  else createRole sys cc roleList

/-- `role_list_cleanup`, from the tail. -/
def roleListCleanup (roleList : List Role) : Owning Kind Unit :=
  roleList.reverse.forM fun c => do
    c.containerList.reverse.forM (release .roleElem)
    releaseOpt .roleName (c.name.map (·.2))
    release .role c.self

/-- The answers to `create_container_configs`; `configdir` is the allocation of the path by the
parser. -/
structure ConfigsSys where
  config : ConfigSys
  configdir : Bool
  containers : Bool
  guestArray : Bool
  bind : ℕ → BindSys

/-- The error path of `create_container_configs`. There are no roles yet. -/
def createErrRet (cmcfg : ℕ) (guests : List ℕ) (containers : Option ℕ) :
    Owning Kind (Option Manager) := do
  guests.forM (release .guestConfig)
  releaseOpt .containers containers
  release .managerConfig cmcfg
  pure none

/-- `create_container_configs` after the scan of the directory. -/
def createContainers (sys : ConfigsSys) (cmcfg : ℕ) (scan : ConfigScan) :
    Owning Kind (Option Manager) := do
  let guests ← scan.ca.mapM fun _ => acquire .guestConfig
  if scan.ca.length = 0 ∨ ¬ sys.containers then createErrRet cmcfg guests none
  else do
    let self ← acquire .containers
    if ¬ sys.guestArray then createErrRet cmcfg guests (some self)
    else do
      let containers ← acquire .guestArray
      let roleList ← (sys.config.qsort scan.ca).zipIdx.foldlM
        (fun l g => bindContainer (sys.bind g.2) g.1 l) []
      pure (some {
        self := self, containers := containers, cmcfg := cmcfg, roleList := roleList,
        guests := guests,
        workqueue := fun i => (containerWorkqueueInitialize (sys.config.mutexInit i)).1 })

/-- `create_container_configs`. -/
def createContainerConfigs (sys : ConfigsSys) : Owning Kind (Option Manager) :=
  match sys.config.manager.bind fun json => (cmparserManagerCreateFromFile json).1 with
  | none => pure none
  | some cm => do
    let cmcfg ← acquire .managerConfig
    let confdir ← deref (if sys.configdir then some cm.configdir else none)
    match scanConfigDir sys.config (.ofString confdir) with
    | none => pure none
    | some (_, scan) => createContainers sys cmcfg scan

/-- `release_container_configs`. The config of a guest whose worker still runs is not released. -/
def releaseContainerConfigs (cs : Manager) : Owning Kind Unit := do
  roleListCleanup cs.roleList
  cs.guests.zipIdx.forM fun g =>
    if ( containerWorkqueueDeinitialize (cs.workqueue g.2)).2 ≠ -2 then release .guestConfig g.1
    else pure ()
  release .guestArray cs.containers
  release .managerConfig cs.cmcfg
  release .containers cs.self

/-! ### The state machine -/

/-- The answers to `container_mngsm_commsocket_setup`. -/
structure CommsocketSys where
  socketpair : Bool
  addIo : Bool
  setOwn : Bool

/-- `container_mngsm_commsocket_setup`. -/
def containerMngsmCommsocketSetup (sys : CommsocketSys) (cms : Mngsm) : Owning Kind (Mngsm × ℤ) :=
  if ¬ sys.socketpair then pure (cms, -1)
  else do
    let primary ← acquire .primaryFd
    let secondary ← acquire .secondaryFd
    if ¬ sys.addIo then do
      release .secondaryFd secondary
      release .primaryFd primary
      pure (cms, -1)
    else do
      let source ← acquire .socketSource
      if ¬ sys.setOwn then do
        disableUnref .socketSource .primaryFd (some ⟨source, none⟩)
        release .secondaryFd secondary
        release .primaryFd primary
        pure (cms, -1)
      else pure ({ cms with
        socketSource := some ⟨source, some primary⟩, secondaryFd := some secondary }, 0)

/-- `container_mngsm_commsocket_cleanup`. -/
def containerMngsmCommsocketCleanup (cms : Mngsm) : Owning Kind Unit := do
  disableUnref .socketSource .primaryFd cms.socketSource
  releaseOpt .secondaryFd cms.secondaryFd

/-- The answers to `container_mngsm_internal_timer_setup`. -/
structure TimerSys where
  addTime : Bool
  setEnabled : Bool

/-- `container_mngsm_internal_timer_setup`. -/
def containerMngsmInternalTimerSetup (sys : TimerSys) (cms : Mngsm) : Owning Kind (Mngsm × ℤ) :=
  if ¬ sys.addTime then pure (cms, -1)
  else do
    let source ← acquire .timerSource
    if ¬ sys.setEnabled then do
      release .timerSource source
      pure (cms, -1)
    else pure ({ cms with timerSource := some source }, 0)

/-- `container_mngsm_internal_timer_cleanup`. -/
def containerMngsmInternalTimerCleanup (cms : Mngsm) : Owning Kind Unit :=
  releaseOpt .timerSource cms.timerSource

/-- The answers to `container_mngsm_do_system`. -/
structure SystemSys where
  procutil : Bool
  cgroup : Bool

/-- `container_mngsm_do_system`. -/
def containerMngsmDoSystem (sys : SystemSys) (cms : Mngsm) : Owning Kind (Mngsm × ℤ) :=
  if ¬ sys.procutil then pure (cms, -1)
  else do
    let pu ← acquire .procutil
    pure ({ cms with prutl := some pu }, if sys.cgroup then 0 else -1)

/-- `container_mngsm_cleanup_system`. -/
def containerMngsmCleanupSystem (cms : Mngsm) : Owning Kind Unit :=
  releaseOpt .procutil cms.prutl

/-- The answers to `container_external_interface_setup`. -/
structure ExtifSys where
  malloc : Bool
  socket : Bool
  bind : Bool
  listen : Bool
  addIo : Bool
  setOwn : Bool

/-- `container_external_interface_setup`. -/
def containerExternalInterfaceSetup (sys : ExtifSys) (cms : Mngsm) : Owning Kind (Mngsm × ℤ) :=
  if ¬ sys.malloc then pure (cms, -1)
  else do
    let self ← acquire .extif
    if ¬ sys.socket then do
      release .extif self
      pure (cms, -1)
    else do
      let fd ← acquire .serverFd
      if ¬ (sys.bind ∧ sys.listen ∧ sys.addIo) then do
        release .extif self
        release .serverFd fd
        pure (cms, -1)
      else do
        let source ← acquire .serverSource
        if ¬ sys.setOwn then do
          disableUnref .serverSource .serverFd (some ⟨source, none⟩)
          release .extif self
          release .serverFd fd
          pure (cms, -1)
        else pure ({ cms with
          cmExtIf := some { self := self, interfaceEvsource := some ⟨source, some fd⟩ } }, 0)

/-- `container_external_interface_cleanup`. -/
def containerExternalInterfaceCleanup (cms : Mngsm) : Owning Kind Unit :=
  match cms.cmExtIf with
  | none => pure ()
  | some pextif => do
    disableUnref .sessionSource .sessionFd pextif.interfaceSessionEvsource
    disableUnref .serverSource .serverFd pextif.interfaceEvsource
    release .extif pextif.self

/-- What `container_mngsm_setup` and `container_mngsm_cleanup` do about `cms`. -/
def cleanupMngsm : Option Mngsm → Owning Kind Unit
  | none => pure ()
  | some cms => do
    containerExternalInterfaceCleanup cms
    containerMngsmInternalTimerCleanup cms
    containerMngsmCommsocketCleanup cms
    containerMngsmCleanupSystem cms
    release .mngsm cms.self

/-- The answers to `container_mngsm_setup`. -/
structure SetupSys where
  configs : ConfigsSys
  malloc : Bool
  system : SystemSys
  commsocket : CommsocketSys
  timer : TimerSys
  extif : ExtifSys

/-- The steps of `container_mngsm_setup`, each of which is done if the one before succeeded. -/
def setupMngsm (sys : SetupSys) (cms : Mngsm) : Owning Kind (Mngsm × ℤ) := do
  let r ← containerMngsmDoSystem sys.system cms
  if r.2 < 0 then pure r
  else do
    let r ← containerMngsmCommsocketSetup sys.commsocket r.1
    if r.2 < 0 then pure r
    else do
      let r ← containerMngsmInternalTimerSetup sys.timer r.1
      if r.2 < 0 then pure r else containerExternalInterfaceSetup sys.extif r.1

/-- `container_mngsm_setup`. -/
def containerMngsmSetup (sys : SetupSys) : Owning Kind (Option Manager) := do
  match ← createContainerConfigs sys.configs with
  | none => pure none
  | some cs =>
    if ¬ sys.malloc then do
      releaseContainerConfigs cs
      pure none
    else do
      let self ← acquire .mngsm
      let r ← setupMngsm sys { self := self }
      if r.2 < 0 then do
        cleanupMngsm (some r.1)
        releaseContainerConfigs cs
        pure none
      else pure (some { cs with cms := some r.1 })

/-- `container_mngsm_interface_get`, which is called once. -/
def containerMngsmInterfaceGet (malloc : Bool) (cs : Manager) : Owning Kind (Manager × ℤ) :=
  if ¬ malloc then pure (cs, -1)
  else do
    let cci ← acquire .controlInterface
    pure ({ cs with cci := some cci }, 0)

/-- `container_mngsm_cleanup`, with `container_mngsm_interface_free`. -/
def containerMngsmCleanup (cs : Manager) : Owning Kind Unit := do
  releaseOpt .controlInterface cs.cci
  cleanupMngsm cs.cms
  releaseContainerConfigs cs

/-! ### Devices -/

/-- The answers to `device_control_dynamic_udev_setup`. -/
structure UdevSys where
  malloc : Bool
  new : Bool
  monitor : Bool
  enable : Bool
  fd : Bool
  addIo : Bool

/-- `device_control_dynamic_udev_setup`. -/
def deviceControlDynamicUdevSetup (sys : UdevSys) (ddm : DeviceManager) :
    Owning Kind (DeviceManager × ℤ) :=
  if ¬ sys.malloc then pure ({ ddm with ddu := none }, -1)
  else do
    let self ← acquire .dynamicUdev
    if ¬ sys.new then do
      release .dynamicUdev self
      pure ({ ddm with ddu := none }, -1)
    else do
      let pudev ← acquire .udev
      if ¬ sys.monitor then do
        release .udev pudev
        release .dynamicUdev self
        pure ({ ddm with ddu := none }, -1)
      else do
        let pudevMonitor ← acquire .udevMonitor
        if ¬ (sys.enable ∧ sys.fd ∧ sys.addIo) then do
          release .udevMonitor pudevMonitor
          release .udev pudev
          release .dynamicUdev self
          pure ({ ddm with ddu := none }, -1)
        else do
          let libudevSource ← acquire .udevSource
          pure ({ ddm with
            ddu := some ⟨self, some pudev, some pudevMonitor, some libudevSource⟩ }, 0)

/-- `device_control_dynamic_udev_cleanup`. -/
def deviceControlDynamicUdevCleanup (ddm : DeviceManager) : Owning Kind Unit := do
  let ddu ← deref ddm.ddu
  releaseOpt .udevSource ddu.libudevSource
  releaseOpt .udevMonitor ddu.pudevMonitor
  releaseOpt .udev ddu.pudev
  release .dynamicUdev ddu.self

/-- The list of interfaces with the memory of its entries. -/
abbrev InterfaceList := List (NetworkInterfaceInfo × ℕ)

/-- Remove the entries of this interface. -/
def removeInterface (ifindex : ℤ) (nllist : InterfaceList) : Owning Kind InterfaceList := do
  (nllist.filter fun nfi => nfi.1.ifindex = ifindex).forM fun nfi => release .netifInfo nfi.2
  pure (nllist.filter fun nfi => nfi.1.ifindex ≠ ifindex)

/-- `data_cb`, apart from its notification. -/
def dataCb (nllist : InterfaceList) (m : LinkMessage × Bool) : Owning Kind InterfaceList :=
  match m.1.ifname with
  | none => pure nllist
  | some ifname =>
    if netIfBlacklist.any fun b => nameMatches b ifname then pure nllist
    else if ¬ m.2 then pure nllist
    else do
      let new ← acquire .netifInfo
      match m.1.type with
      | .newlink => do
        let nllist ← removeInterface m.1.ifindex nllist
        pure ((⟨m.1.ifindex, ifname⟩, new) :: nllist)
      | .dellink => do
        let nllist ← removeInterface m.1.ifindex nllist
        release .netifInfo new
        pure nllist
      | .other => do
        release .netifInfo new
        pure nllist

/-- The answers to `netifmonitor_listing_existif`: the messages it receives, each with the answer
to its allocation, and whether the last receive succeeded. -/
structure ListingSys where
  socket : Bool
  bind : Bool
  send : Bool
  messages : List (LinkMessage × Bool)
  received : Bool

/-- `netifmonitor_listing_existif`. -/
def netifmonitorListingExistif (sys : ListingSys) (nllist : InterfaceList) :
    Owning Kind (InterfaceList × ℤ) :=
  if ¬ sys.socket then pure (nllist, -1)
  else do
    let nl ← acquire .listingSocket
    if ¬ (sys.bind ∧ sys.send) then do
      release .listingSocket nl
      pure (nllist, -1)
    else do
      let nllist ← sys.messages.foldlM dataCb nllist
      release .listingSocket nl
      pure (nllist, if sys.received then 0 else -1)

/-- The answers to `netifmonitor_setup`. -/
structure NetifSys where
  malloc : Bool
  socket : Bool
  bind : Bool
  addIo : Bool
  listing : ListingSys

/-- `netifmonitor_setup`. When the listing fails, the event source is not released. -/
def netifmonitorSetup (sys : NetifSys) (ddm : DeviceManager) : Owning Kind (DeviceManager × ℤ) :=
  if ¬ sys.malloc then pure (ddm, -1)
  else do
    let self ← acquire .netifMonitor
    if ¬ sys.socket then do
      release .netifMonitor self
      pure (ddm, -1)
    else do
      let nl ← acquire .netlinkSocket
      if ¬ (sys.bind ∧ sys.addIo) then do
        release .netlinkSocket nl
        release .netifMonitor self
        pure (ddm, -1)
      else do
        let ifmonitorSource ← acquire .netlinkSource
        let r ← netifmonitorListingExistif sys.listing []
        if r.2 < 0 then do
          release .netlinkSocket nl
          release .netifMonitor self
          pure ({ ddm with nllist := some r.1, netifmon := none }, -1)
        else
          pure ({ ddm with
            nllist := some r.1, netifmon := some ⟨self, some nl, some ifmonitorSource⟩ }, 0)

/-- `netifmonitor_cleanup`. -/
def netifmonitorCleanup (ddm : DeviceManager) : Owning Kind Unit := do
  let nllist ← deref ddm.nllist
  nllist.forM fun nfi => release .netifInfo nfi.2
  let netifmon ← deref ddm.netifmon
  releaseOpt .netlinkSource netifmon.ifmonitorSource
  releaseOpt .netlinkSocket netifmon.nl
  release .netifMonitor netifmon.self

/-- `devc_device_manager_cleanup`. -/
def devcDeviceManagerCleanup (cs : Manager) : Owning Kind Manager :=
  match cs.ddm with
  | none => pure cs
  | some ddm => do
    netifmonitorCleanup ddm
    deviceControlDynamicUdevCleanup ddm
    release .deviceManager ddm.self
    pure { cs with ddm := none }

/-- The answers to `devc_device_manager_setup`. -/
structure DevicesSys where
  malloc : Bool
  udev : UdevSys
  netif : NetifSys

/-- `devc_device_manager_setup`. -/
def devcDeviceManagerSetup (sys : DevicesSys) (cs : Manager) : Owning Kind (Manager × ℤ) :=
  if ¬ sys.malloc then pure (cs, -1)
  else do
    let self ← acquire .deviceManager
    let r ← deviceControlDynamicUdevSetup sys.udev { self := self }
    if r.2 < 0 then do
      let cs ← devcDeviceManagerCleanup { cs with ddm := some r.1 }
      pure (cs, -1)
    else do
      let r ← netifmonitorSetup sys.netif r.1
      if r.2 < 0 then do
        let cs ← devcDeviceManagerCleanup { cs with ddm := some r.1 }
        pure (cs, -1)
      else pure ({ cs with ddm := some r.1 }, 0)

/-! ### Monitors -/

/-- `container_monitor_addguest` for a guest that was started. Nothing closes the descriptor: the
event source does not own it. -/
def containerMonitorAddguest (cs : Manager) (start : ℕ × MonitorSys) : Owning Kind Manager :=
  if start.2.initPidfd < 0 then pure cs
  else do
    let pidfd ← acquire .pidfd
    let monitors := { cs.monitors with pidfds := pidfd :: cs.monitors.pidfds }
    if start.2.addIo < 0 then pure { cs with monitors := monitors }
    else do
      let source ← acquire .pidfdSource
      pure { cs with monitors := monitors.watch start.1 source }

/-- `container_monitor_pidfd_handler` for the source that the guest points to. -/
def containerMonitorPidfdHandler (cs : Manager) (i : ℕ) (sent : Bool) : Owning Kind Manager :=
  if ¬ sent then pure cs
  else do
    (cs.monitors.pidfdSource.filter fun p => p.1 = i).forM fun p => release .pidfdSource p.2
    pure { cs with monitors := { cs.monitors with
      pidfdSource := cs.monitors.pidfdSource.filter fun p => p.1 ≠ i } }

/-! ### The event loop -/

/-- An event that changes what the process owns. -/
inductive LoopEvent where
  /-- `EPOLLHUP` or `EPOLLERR` at the internal socket -/
  | commsocketError
  /-- `EPOLLHUP` or `EPOLLERR` at the udev monitor -/
  | udevError
  /-- `EPOLLHUP` or `EPOLLERR` at the netlink socket -/
  | netlinkError
  | link (m : LinkMessage) (malloc : Bool)
  | incoming (sys : ExtifWorld.IncomingSys)
  | session
  /-- the cyclic event or a worker thread changes the workqueue of a guest -/
  | worker (i : ℕ) (wq : Workqueue)
  /-- the cyclic event started the guest -/
  | start (i : ℕ) (sys : MonitorSys)
  /-- the pidfd of the guest is readable -/
  | pidfd (i : ℕ) (sent : Bool)

/-- The process in its event loop. A source that its own handler unreferenced is not dispatched any
more, but the pointer to it stays. -/
structure LoopState where
  cs : Manager
  commsocketLost : Bool := false
  udevLost : Bool := false
  netlinkLost : Bool := false

/-- `container_external_interface_incoming_handler`. -/
def containerExternalInterfaceIncomingHandler (sys : ExtifWorld.IncomingSys) (pextif : Extif) :
    Owning Kind Extif :=
  if sys.error then do
    disableUnref .serverSource .serverFd pextif.interfaceEvsource
    pure { pextif with interfaceEvsource := none }
  else if ¬ sys.accept then pure pextif
  else do
    let fd ← acquire .sessionFd
    -- external interface is one session only
    if pextif.interfaceSessionEvsource.isSome ∨ ¬ sys.addIo then do
      release .sessionFd fd
      pure pextif
    else do
      let source ← acquire .sessionSource
      if ¬ sys.setOwn then do
        disableUnref .sessionSource .sessionFd (some ⟨source, none⟩)
        release .sessionFd fd
        pure { pextif with interfaceSessionEvsource := none }
      else pure { pextif with interfaceSessionEvsource := some ⟨source, some fd⟩ }

/-- `container_external_interface_sessions_handler`. -/
def containerExternalInterfaceSessionsHandler (pextif : Extif) : Owning Kind Extif := do
  disableUnref .sessionSource .sessionFd pextif.interfaceSessionEvsource
  pure { pextif with interfaceSessionEvsource := none }

/-- A handler of the external interface. -/
def LoopState.onExtif (s : LoopState) (handler : Extif → Owning Kind Extif) :
    Owning Kind LoopState :=
  match s.cs.cms with
  | none => pure s
  | some cms =>
    match cms.cmExtIf with
    | none => pure s
    | some pextif => do
      let pextif ← handler pextif
      pure { s with cs := { s.cs with cms := some { cms with cmExtIf := some pextif } } }

/-- The handler of an event, if its source is still there. -/
def LoopState.dispatch (s : LoopState) : LoopEvent → Owning Kind LoopState
  | .commsocketError =>
    if s.commsocketLost then pure s
    else do
      disableUnref .socketSource .primaryFd (s.cs.cms.bind Mngsm.socketSource)
      pure { s with commsocketLost := true }
  | .udevError =>
    if s.udevLost then pure s
    else do
      releaseOpt .udevSource ((s.cs.ddm.bind DeviceManager.ddu).bind DynamicUdev.libudevSource)
      pure { s with udevLost := true }
  | .netlinkError =>
    if s.netlinkLost then pure s
    else do
      releaseOpt .netlinkSource
        ((s.cs.ddm.bind DeviceManager.netifmon).bind Netifmon.ifmonitorSource)
      pure { s with netlinkLost := true }
  | .link m malloc =>
    match s.cs.ddm with
    | none => pure s
    | some ddm =>
      if s.netlinkLost then pure s
      else do
        let nllist ← dataCb (ddm.nllist.getD []) (m, malloc)
        pure { s with cs := { s.cs with ddm := some { ddm with nllist := some nllist } } }
  | .incoming sys => s.onExtif fun pextif =>
    if pextif.interfaceEvsource.isNone then pure pextif
    else containerExternalInterfaceIncomingHandler sys pextif
  | .session => s.onExtif containerExternalInterfaceSessionsHandler
  | .worker i wq => pure { s with cs := s.cs.work (i, wq) }
  | .start i sys => do
    let cs ← containerMonitorAddguest s.cs (i, sys)
    pure { s with cs := cs }
  | .pidfd i sent => do
    let cs ← containerMonitorPidfdHandler s.cs i sent
    pure { s with cs := cs }

/-! ### The process -/

/-- What `main` meets. -/
structure MainSys where
  eventDefault : Bool
  setup : SetupSys
  interface : Bool
  devices : DevicesSys
  earlyDevice : Bool
  signal : Bool
  watchdog : Bool
  start : Bool
  /-- what the start of the guests leaves of their workqueues -/
  started : List (ℕ × Workqueue)
  /-- the guests that run after it -/
  monitored : List (ℕ × MonitorSys)
  delayed : Bool
  events : List LoopEvent
  loop : ℤ

/-- What `main` does about `cs` at its end. -/
def cleanupManager : Option Manager → Owning Kind Unit
  | none => pure ()
  | some cs => do
    let cs ← devcDeviceManagerCleanup cs
    containerMngsmCleanup cs

/-- The end of `main`. -/
def finish (event : ℕ) (cs : Option Manager) (result : ℤ) : Owning Kind ℤ := do
  cleanupManager cs
  release .event event
  pure result

/-- `main` from the start of the guests on. -/
def startAndLoop (sys : MainSys) (event : ℕ) (cs : Manager) : Owning Kind ℤ := do
  let cs ← sys.monitored.foldlM containerMonitorAddguest (sys.started.foldl Manager.work cs)
  if ¬ (sys.start ∧ sys.delayed) then finish event (some cs) (-1)
  else do
    let s ← sys.events.foldlM LoopState.dispatch { cs := cs }
    finish event (some s.cs) (min sys.loop 0)

/-- `main`. -/
def main (sys : MainSys) : Owning Kind ℤ :=
  if ¬ sys.eventDefault then pure 0
  else do
    let event ← acquire .event
    match ← containerMngsmSetup sys.setup with
    | none => finish event none (-1)
    | some cs => do
      let r ← containerMngsmInterfaceGet sys.interface cs
      if r.2 < 0 then finish event (some r.1) (-1)
      else do
        let r ← devcDeviceManagerSetup sys.devices r.1
        if r.2 < 0 ∨ ¬ (sys.earlyDevice ∧ sys.signal ∧ sys.watchdog) then
          finish event (some r.1) (-1)
        else startAndLoop sys event r.1

end ContainerManager.Startup

import ContainerManager.Workqueue

/-!
# Starting and cleaning up a guest

The functions of `container-control-exec.c` and `lxc-util.c` that work on a single guest around its
start: the mounts, the queueing of a disk recovery, the lxc instance, and the cleanup. The results
of the system calls, of liblxc and of the plugins are inputs.
-/

namespace ContainerManager

/-! ### The lxc instance -/

/-- `lxcutil_release_instance`. -/
def lxcutilReleaseInstance (cc : ContainerConfig) : ContainerConfig :=
  { cc with runtimeStat := { cc.runtimeStat with lxc := none, pid := -1 } }

/-- `lxcutil_create_instance`, given the result of setting the container up: the instance is kept on
success, and any instance is released on failure. -/
def lxcutilCreateInstance (created : Bool) (cc : ContainerConfig) : ContainerConfig × ℤ :=
  if created then
    ({ cc with runtimeStat := { cc.runtimeStat with lxc := some ⟨cc.launches + 1⟩, pid := -1 } }, 0)
  else (lxcutilReleaseInstance cc, -1)

/-- `lxcutil_get_init_pid`, given what `lxc->init_pid` returns. -/
def lxcutilGetInitPid (initPid : ℤ) (cc : ContainerConfig) : ContainerConfig × ℤ :=
  match cc.runtimeStat.lxc with
  | none => (cc, -1)
  | some _ =>
    if cc.runtimeStat.pid ≤ 0 then
      if 0 < initPid then
        ({ cc with runtimeStat := { cc.runtimeStat with pid := initPid } }, initPid)
      else (cc, initPid)
    else (cc, cc.runtimeStat.pid)

/-- `lxcutil_container_forcekill`: looks the pid up and sends `SIGKILL` to it. -/
def lxcutilContainerForcekill (initPid : ℤ) (cc : ContainerConfig) : ContainerConfig :=
  (lxcutilGetInitPid initPid cc).1

/-- `lxcutil_container_shutdown`, given what `lxc->shutdown` answers. -/
def lxcutilContainerShutdown (shutdown : Bool) (cc : ContainerConfig) : ℤ :=
  match cc.runtimeStat.lxc with
  | none => -1
  | some _ => if shutdown then 0 else -1

/-! ### Mounts -/

/-- The mount flags of the root file system on a block device. -/
def rootfsMntflag : DiskMountType → List MountFlag
  | .rw => [.dirsync, .noatime, .nodev, .synchronous]
  | .ro => [.noatime, .rdonly]

/-- The mount flags of an extra disk, of a guest or of the manager. -/
def extradiskMntflag : DiskMountType → List MountFlag
  | .rw => [.dirsync, .noatime, .nodev, .noexec, .synchronous]
  | .ro => [.noatime, .rdonly]

/-- `container_start_preprocess_base_do_mount_rootfs`. -/
def containerStartPreprocessBaseDoMountRootfs (sys : MountSys) (cbr : RootFs) (side : ℤ) :
    ℤ × List MountCall :=
  let r : ℤ × List MountCall := match cbr.deviceType with
    | .block => mountDiskAb (fun _ => sys) cbr.rootfsDev
        ⟨cbr.path, cbr.filesystem, rootfsMntflag cbr.mode, cbr.option⟩ side
    | .hostRootfilesystem => mountDiskBind sys cbr.rootfsDev.1 cbr.path (cbr.mode = .ro)
  (if r.1 < 0 then -1 else 0, r.2)

/-- The mount of one extra disk, by its redundancy. -/
def mountExtradisk (sys : ℕ → MountSys) (exdisk : ExtraDisk) (abboot : ℤ) : ℤ × List MountCall :=
  let devs : BlockDev := (some exdisk.blockdev.1, exdisk.blockdev.2)
  let args : MountArgs :=
    ⟨some exdisk.mountFrom, exdisk.filesystem, extradiskMntflag exdisk.mode, exdisk.option⟩
  match exdisk.redundancy with
  | .ab => mountDiskAb sys devs args abboot
  | .failover => mountDiskFailover sys devs args
  | .fsck | .mkfs => mountDiskOnce sys devs args

/-- The extra disk loop of `container_start_preprocess_base`. It stops at the first mandatory disk
that cannot be mounted; a failover disk is optional. `sys` gives the results by disk and device. -/
def containerStartPreprocessExtradisk (abboot : ℤ) (sys : ℕ → ℕ → MountSys) :
    List ExtraDisk → List ExtraDisk × ℤ × List MountCall
  | [] => ([], 0, [])
  | exdisk :: rest =>
    let next := containerStartPreprocessExtradisk abboot (fun k => sys (k + 1)) rest
    if exdisk.isMounted then (exdisk :: next.1, next.2)
    else
      let r := mountExtradisk (sys 0) exdisk abboot
      if 0 ≤ r.1 then
        ({ exdisk with isMounted := true, errorCount := 0 } :: next.1, next.2.1, r.2 ++ next.2.2)
      else
        let failed := { exdisk with errorCount := exdisk.errorCount + 1 }
        if exdisk.redundancy = .failover then (failed :: next.1, next.2.1, r.2 ++ next.2.2)
        else (failed :: rest, -1, r.2)

/-- The results of the mount calls of one start. -/
structure StartMountSys where
  rootfs : MountSys
  extradisk : ℕ → ℕ → MountSys

/-- `container_start_preprocess_base`. -/
def containerStartPreprocessBase (sys : StartMountSys) (bc : BaseConfig) : BaseConfig × ℤ :=
  let extradisk (bc : BaseConfig) : BaseConfig × ℤ :=
    let e := containerStartPreprocessExtradisk bc.abboot sys.extradisk bc.extradiskList
    ({ bc with extradiskList := e.1, mountCalls := bc.mountCalls ++ e.2.2 }, e.2.1)
  if bc.rootfs.isMounted then extradisk bc
  else
    let r := containerStartPreprocessBaseDoMountRootfs sys.rootfs bc.rootfs bc.abboot
    let calls := bc.mountCalls ++ r.2
    if r.1 < 0 then
      ({ bc with
        rootfs := { bc.rootfs with errorCount := bc.rootfs.errorCount + 1 }
        mountCalls := calls }, -1)
    else
      extradisk { bc with
        rootfs := { bc.rootfs with isMounted := true, errorCount := 0 }
        mountCalls := calls }

/-! ### Recovery -/

/-- The worker key of a redundancy type, for the types that have a recovery. -/
def recoveryKey : DiskRedundancyType → Option String
  | .fsck => some "fsck"
  | .mkfs => some "mkfs"
  | _ => none

/-- The option string of a disk's recovery. -/
def recoveryOption (exdisk : ExtraDisk) : String := "device=" ++ exdisk.blockdev.1

/-- The option string fits `char option_str[1024]`. -/
def recoveryOptionFits (exdisk : ExtraDisk) : Bool := (recoveryOption exdisk).utf8ByteSize < 1023

/-- The loop of `container_start_preprocess_base_recovery`: queues the recovery of the first failed
disk that takes one. `sys` gives the answers of the plugin by disk. -/
def containerStartPreprocessRecovery (sys : ℕ → PluginSys) (wq : Workqueue) :
    List ExtraDisk → Workqueue × ℤ
  | [] => (wq, 0)
  | exdisk :: rest =>
    if ¬ exdisk.isMounted ∧ 0 < exdisk.errorCount then
      if ¬ recoveryOptionFits exdisk then (wq, -1)
      else
        match recoveryKey exdisk.redundancy with
        | none => containerStartPreprocessRecovery (fun k => sys (k + 1)) wq rest
        | some key =>
          let r := containerWorkqueueSchedule (sys 0) wq key (recoveryOption exdisk) 1
          if r.2 = 0 then (r.1, 1)
          else containerStartPreprocessRecovery (fun k => sys (k + 1)) r.1 rest
    else containerStartPreprocessRecovery (fun k => sys (k + 1)) wq rest

/-- `container_start_preprocess_base_recovery`. -/
def containerStartPreprocessBaseRecovery (sys : ℕ → PluginSys) (cc : ContainerConfig) :
    ContainerConfig × ℤ :=
  let r := containerStartPreprocessRecovery sys cc.workqueue cc.baseconfig.extradiskList
  ({ cc with workqueue := r.1 }, r.2)

/-! ### Cleanup -/

/-- Unmounting one extra disk in `container_cleanup_preprocess_base`. -/
def cleanupExtradisk (sys : UnmountSys) (timeoutTime : ℤ) (retryMax : ℕ) (exdisk : ExtraDisk) :
    ExtraDisk × List MountCall :=
  if exdisk.isMounted then
    ({ exdisk with isMounted := false, errorCount := 0 },
      (unmountDisk sys (some exdisk.mountFrom) timeoutTime retryMax).2)
  else (exdisk, [])

/-- The results of the unmount calls of one cleanup, and the clock at its start. -/
structure CleanupSys where
  now : ℤ
  extradisk : ℕ → UnmountSys
  rootfs : UnmountSys

/-- `container_cleanup_preprocess_base`. -/
def containerCleanupPreprocessBase (sys : CleanupSys) (bc : BaseConfig) (timeout : ℤ) :
    BaseConfig :=
  let timeoutLocal := if timeout < 0 then 0 else timeout
  let timeoutTime := sys.now + timeoutLocal
  let retryMax := (timeoutLocal / 50 + 1).toNat
  let disks := bc.extradiskList.mapIdx fun k exdisk =>
    cleanupExtradisk (sys.extradisk k) timeoutTime retryMax exdisk
  let bc' := { bc with
    extradiskList := disks.map Prod.fst
    mountCalls := bc.mountCalls ++ disks.flatMap Prod.snd }
  if bc.rootfs.isMounted then
    { bc' with
      rootfs := { bc.rootfs with isMounted := false, errorCount := 0 }
      mountCalls := bc'.mountCalls ++
        (unmountDisk sys.rootfs bc.rootfs.path timeoutTime retryMax).2 }
  else bc'

/-- `container_netif_remove_element`. -/
def containerNetifRemoveElement (cc : ContainerConfig) : ContainerConfig :=
  { cc with dynamicNetiflist := cc.dynamicNetiflist.map fun cdne => { cdne with ifindex := 0 } }

/-- `container_terminate`. -/
def containerTerminate (cc : ContainerConfig) : ContainerConfig :=
  containerNetifRemoveElement (lxcutilReleaseInstance cc)

/-- `container_setup_delayed_operation`: every configured element is queued. -/
def containerSetupDelayedOperation (cc : ContainerConfig) : ContainerConfig × ℤ :=
  ({ cc with fsconfig := { cc.fsconfig with
      delayed := { cc.fsconfig.delayed with runtimeList := cc.fsconfig.delayed.initialList } } }, 0)

/-- `container_cleanup_delayed_operation`. -/
def containerCleanupDelayedOperation (cc : ContainerConfig) : ContainerConfig :=
  { cc with fsconfig := { cc.fsconfig with
      delayed := { cc.fsconfig.delayed with runtimeList := [] } } }

/-- `container_cleanup`. -/
def containerCleanup (sys : CleanupSys) (cc : ContainerConfig) (timeout : ℤ) : ContainerConfig :=
  let cc' := containerCleanupDelayedOperation (containerTerminate cc)
  { cc' with baseconfig := containerCleanupPreprocessBase sys cc'.baseconfig timeout }

/-- What finding the source of a delayed element and mounting it into the guest give. -/
structure DelayedSys where
  nodeCheck : ℕ → Bool
  mount : ℕ → Bool

/-- The mount calls of one pass over the queue: one for each element of the delayed type whose
source exists. -/
def delayedMountCalls (sys : DelayedSys) (cc : ContainerConfig) : List DelayedMountCall :=
  cc.fsconfig.delayed.runtimeList.zipIdx.filterMap fun e =>
    if e.1.type = .delayed ∧ sys.nodeCheck e.2 then
      some ⟨cc.launches, cc.runtimeStat.status, e.1, cc.runtimeStat.lxc.isSome ∧ sys.mount e.2⟩
    else none

/-- An element stays queued: only an element of the delayed type whose source exists and whose mount
succeeds leaves the queue, and an element of another type always does. -/
def delayedElemStays (sys : DelayedSys) (lxc : Option LxcContainer) (k : ℕ)
    (dmelem : DelayedMountElem) : Bool :=
  dmelem.type = .delayed ∧ ¬ (sys.nodeCheck k ∧ lxc.isSome ∧ sys.mount k)

/-- `container_do_delayed_operation`. -/
def containerDoDelayedOperation (sys : DelayedSys) (cc : ContainerConfig) : ContainerConfig × ℤ :=
  if cc.runtimeStat.status ≠ .started then (cc, -2)
  else
    let stays := (cc.fsconfig.delayed.runtimeList.zipIdx.filter fun e =>
      delayedElemStays sys cc.runtimeStat.lxc e.2 e.1).map Prod.fst
    ({ cc with fsconfig := { cc.fsconfig with
        delayed := { cc.fsconfig.delayed with
          runtimeList := stays
          mountCalls := cc.fsconfig.delayed.mountCalls ++ delayedMountCalls sys cc } } }, 0)

/-! ### Launch and start -/

/-- What one `container_start` meets: the mounts, the plugins of a recovery, the creation of the lxc
instance and its `start`. -/
structure StartSys where
  mount : StartMountSys
  plugin : ℕ → PluginSys
  create : Bool
  start : Bool

/-- `container_launch`. -/
def containerLaunch (sys : StartSys) (cc : ContainerConfig) : ContainerConfig × ℤ :=
  let c := lxcutilCreateInstance sys.create cc
  if c.2 < 0 then (c.1.setStatus .dead, -1)
  else if ¬ sys.start then ((lxcutilReleaseInstance c.1).setStatus .dead, -2)
  else ({ c.1.setStatus .started with launches := cc.launches + 1 }, 0)

/-- The body of `container_start`. -/
def containerStartBody (sys : StartSys) (cc : ContainerConfig) : ContainerConfig × ℤ :=
  if cc.runtimeStat.status = .disable then (cc, -2)
  else
    let p := containerStartPreprocessBase sys.mount cc.baseconfig
    let cc := { cc with baseconfig := p.1 }
    if p.2 < 0 then ((containerStartPreprocessBaseRecovery sys.plugin cc).1, -1)
    else
      let d := containerSetupDelayedOperation cc
      if d.2 < 0 then (d.1, -1)
      else
        let l := containerLaunch sys d.1
        if l.2 < 0 then
          let dead := l.1.setStatus .dead
          if l.2 = -2 then
            ({ dead with runtimeStat := { dead.runtimeStat with
                launchErrorCount := dead.runtimeStat.launchErrorCount + 1 } }, -1)
          else (dead, -1)
        else
          let started := l.1.setStatus .started
          ({ started with runtimeStat := { started.runtimeStat with launchErrorCount := 0 } }, 0)

/-- `container_start`. -/
def containerStart (sys : StartSys) (cc : ContainerConfig) : ContainerConfig × ℤ :=
  let r := containerStartBody sys cc
  (r.1.record (.start cc.runtimeStat.status r.2), r.2)

end ContainerManager

import ContainerManager.Control.StartProperties

/-!
# Event handlers of a guest

The parts of `container-control-exec.c` that handle one event for one guest: its exit, a shutdown or
reboot request, a network interface update, and the timeouts of the cyclic event.
-/

namespace ContainerManager

/-- `container_timeout_set`. -/
def containerTimeoutSet (now : ℤ) (cc : ContainerConfig) : ContainerConfig :=
  { cc with runtimeStat := { cc.runtimeStat with
      timeout := (if now < 0 then 0 else now) + cc.baseconfig.lifecycle.timeout } }

/-! ### Guest exit -/

/-- The status table of `container_exited`; -1 marks an undefined state. -/
def exitedStatus : SystemState → ContainerStatus → ContainerStatus × ℤ
  | .run, .notStarted => (.notStarted, 0)
  | .run, .started => (.dead, 0)
  | .run, .reboot => (.dead, 0)
  | .run, .shutdown => (.notStarted, 0)
  | .run, .dead => (.dead, 0)
  | .run, .exit => (.exit, -1)
  | .run, .runWorker => (.runWorker, 0)
  | .run, .disable => (.disable, -1)
  | .shutdown, .notStarted => (.exit, 0)
  | .shutdown, .started => (.exit, 0)
  | .shutdown, .reboot => (.exit, 0)
  | .shutdown, .shutdown => (.exit, 0)
  | .shutdown, .dead => (.exit, 0)
  | .shutdown, .exit => (.exit, 0)
  | .shutdown, .runWorker => (.exit, 0)
  | .shutdown, .disable => (.disable, -1)

/-- `container_exited`, for the guest the event names. -/
def containerExitedGuest (sysState : SystemState) (cc : ContainerConfig) : ContainerConfig × ℤ :=
  let s := exitedStatus sysState cc.runtimeStat.status
  (containerTerminate (cc.setStatus s.1), s.2)

/-! ### Requests -/

/-- What one request meets: the answer of `lxc->shutdown`, the pid `lxc->init_pid` returns, the
clock, and the answer of the worker plugin's `cancel`. -/
structure RequestSys where
  shutdown : Bool
  initPid : ℤ
  now : ℤ
  cancel : ℤ
deriving DecidableEq, Repr

/-- Ask a running guest to stop. When the request fails the guest is killed and gets the status
`failed`, else it has the time of its grace period and gets the status `accepted`. -/
def requestStop (sys : RequestSys) (cc : ContainerConfig) (failed accepted : ContainerStatus) :
    ContainerConfig :=
  if lxcutilContainerShutdown sys.shutdown cc < 0 then
    (containerTerminate (lxcutilContainerForcekill sys.initPid cc)).setStatus failed
  else
    ((containerTimeoutSet sys.now cc).setStatus accepted).record (.stop sys.now)

/-- The body of `container_request_shutdown`. -/
def containerRequestShutdownBody (sys : RequestSys) (cc : ContainerConfig) :
    SystemState → ContainerConfig × ℤ
  | .run =>
    match cc.runtimeStat.status with
    | .notStarted => (cc, 0)
    | .started => (requestStop sys cc .notStarted .shutdown, 0)
    | .reboot => (cc, 0)
    | .shutdown => (cc, 0)
    | .dead => (cc.setStatus .notStarted, 0)
    | .exit => (cc, -1)
    | .runWorker => (cc, 0)
    | .disable => (cc, 0)
  | .shutdown =>
    match cc.runtimeStat.status with
    | .notStarted => (cc.setStatus .exit, 0)
    | .started => (requestStop sys cc .exit .shutdown, 0)
    | .reboot => (cc.setStatus .shutdown, 0)
    | .shutdown => (cc, 0)
    | .dead => (cc.setStatus .exit, 0)
    | .exit => (cc, 0)
    -- the worker is asked to cancel, its queue is left as it is
    | .runWorker => (containerTimeoutSet sys.now cc, 0)
    | .disable => (cc, 0)

/-- `container_request_shutdown`. -/
def containerRequestShutdown (sys : RequestSys) (cc : ContainerConfig) (sysState : SystemState) :
    ContainerConfig × ℤ :=
  let r := containerRequestShutdownBody sys cc sysState
  (r.1.record (.shutdownRequest sysState cc.runtimeStat.status cc.workqueue.status r.2), r.2)

/-- `container_request_reboot`. -/
def containerRequestReboot (sys : RequestSys) (cc : ContainerConfig) :
    SystemState → ContainerConfig × ℤ
  | .run =>
    match cc.runtimeStat.status with
    | .notStarted => (cc, 0)
    | .started => (requestStop sys cc .dead .reboot, 0)
    | .reboot => (cc, 0)
    | .shutdown => (cc, 0)
    | .dead => (cc, 0)
    | .exit => (cc, -1)
    | .runWorker => (cc, 0)
    | .disable => (cc, 0)
  | .shutdown =>
    match cc.runtimeStat.status with
    | .notStarted => (cc.setStatus .exit, 0)
    | .started => (requestStop sys cc .exit .shutdown, 0)
    | .reboot => (cc, 0)
    | .shutdown => (cc, 0)
    | .dead => (cc.setStatus .exit, 0)
    | .exit => (cc, 0)
    | .runWorker => (containerTimeoutSet sys.now cc, 0)
    | .disable => (cc, 0)

/-! ### Network interfaces -/

/-- One inner pass of `container_netif_update_guest`; `attach` is the answer of
`lxcutil_dynamic_networkif_add_to_guest`. -/
def netifVisit (attach : Bool) (nii : NetworkInterfaceInfo) (cdne : DynamicNetifElem) :
    DynamicNetifElem :=
  if cdne.ifindex = 0 ∧ nii.ifname = cdne.ifname then
    if attach then { cdne with ifindex := nii.ifindex, isAvailable := true }
    else { cdne with ifindex := 0, isAvailable := false }
  else if cdne.ifindex = nii.ifindex then { cdne with isAvailable := true }
  else cdne

/-- `container_netif_update_guest`. `attach` gives the answers of `lxc->attach_interface` by host
interface and element. -/
def containerNetifUpdateGuest (attach : ℕ → ℕ → Bool) (nllist : List NetworkInterfaceInfo)
    (cc : ContainerConfig) : ContainerConfig × ℤ :=
  if cc.runtimeStat.status ≠ .started then (cc, 0)
  else
    let cleaned := cc.dynamicNetiflist.map fun cdne => { cdne with isAvailable := false }
    let checked := nllist.zipIdx.foldl (fun l nii =>
      if nii.1.ifindex ≤ 0 then l
      else l.mapIdx fun k cdne =>
        netifVisit (cc.runtimeStat.lxc.isSome ∧ attach nii.2 k) nii.1 cdne) cleaned
    let removed := checked.map fun cdne =>
      if ¬ cdne.isAvailable ∧ cdne.ifindex ≠ 0 then { cdne with ifindex := 0 } else cdne
    ({ cc with dynamicNetiflist := removed }, 0)

/-! ### The cyclic event -/

/-- A guest that is going down has run out of its grace period. -/
def timedOut (now : ℤ) (cc : ContainerConfig) : Prop :=
  (cc.runtimeStat.status = .shutdown ∨ cc.runtimeStat.status = .reboot) ∧
    cc.runtimeStat.timeout < now

instance (now : ℤ) (cc : ContainerConfig) : Decidable (timedOut now cc) :=
  inferInstanceAs (Decidable (_ ∧ _))

/-- The force kill after a timeout; the guest gets the status `status`. -/
def timeoutKill (initPid now : ℤ) (cc : ContainerConfig) (status : ContainerStatus) :
    ContainerConfig :=
  ((containerTerminate (lxcutilContainerForcekill initPid cc)).setStatus status).record
    (.forcekill now)

/-- One pass of the timeout loop of `container_exec_internal_event` in the run state. -/
def execRunTimeoutGuest (initPid now : ℤ) (cc : ContainerConfig) : ContainerConfig :=
  if timedOut now cc then
    timeoutKill initPid now cc (if cc.runtimeStat.status = .reboot then .dead else .notStarted)
  else cc

/-- One pass of the timeout loop of `container_exec_internal_event` in the shutdown state. -/
def execShutdownTimeoutGuest (initPid now : ℤ) (cc : ContainerConfig) : ContainerConfig :=
  if timedOut now cc then timeoutKill initPid now cc .exit
  else if cc.runtimeStat.status = .runWorker ∧ cc.runtimeStat.timeout < now then cc.setStatus .exit
  else cc

/-- One pass of the exit check of `container_exec_internal_event` in the shutdown state: a completed
worker is cleaned up, a running one is asked to cancel. -/
def execShutdownCheckGuest (delete : ℤ) (cc : ContainerConfig) : ContainerConfig :=
  if cc.runtimeStat.status = .runWorker then
    let w := containerWorkqueueCleanup delete cc.workqueue
    if w.2.1 = 0 then { cc with workqueue := w.1 }.setStatus .exit
    else { cc with workqueue := w.1 }
  else cc

/-- The guest is counted by the exit check: it was exited or disabled before the pass. -/
def execShutdownCounted (cc : ContainerConfig) : Bool :=
  cc.runtimeStat.status = .exit ∨ cc.runtimeStat.status = .disable

/-- What running the queued worker of a guest meets: the cleanup before it, the thread creation, the
plugin's `delete` after a failure. -/
structure RunWorkerSys where
  cleanup : CleanupSys
  pthreadCreate : ℤ
  cancel : ℤ
  delete : ℤ

/-- The status a guest gets after its worker, by `after_execute`. -/
def statusAfterExecute (afterExecute : ℤ) : ContainerStatus :=
  if afterExecute = 1 then .dead else .notStarted

/-- The branch of `container_exec_internal_event` for a guest that is not started and is the active
guest of its role: the guest is cleaned up, and a scheduled worker is run. -/
def execRunWorkerGuest (sys : RunWorkerSys) (cc : ContainerConfig) : ContainerConfig :=
  let cc := containerCleanup sys.cleanup cc 200
  if containerWorkqueueGetStatus cc.workqueue = .scheduled then
    let r := containerWorkqueueRun sys.pthreadCreate cc.workqueue
    let cc := { cc with workqueue := r.1 }
    if r.2 < 0 then
      if r.2 = -2 ∨ r.2 = -3 then
        if containerWorkqueueCancel sys.cancel cc.workqueue ≤ 0 then
          let w := containerWorkqueueRemove sys.delete cc.workqueue
          { cc with workqueue := w.1 }.setStatus (statusAfterExecute w.2.2)
        else cc
      else cc
    else cc.setStatus .runWorker
  else cc

/-- The branch of `container_exec_internal_event` for a guest whose worker runs. -/
def execFinishWorkerGuest (delete : ℤ) (cc : ContainerConfig) : ContainerConfig :=
  if containerWorkqueueGetStatus cc.workqueue = .completed then
    let w := containerWorkqueueCleanup delete cc.workqueue
    if w.2.1 = 0 then { cc with workqueue := w.1 }.setStatus (statusAfterExecute w.2.2)
    else { cc with workqueue := w.1 }
  else cc

/-- A role switch disables the guest: it is cleaned up without internal retry. -/
def execDisableGuest (sys : CleanupSys) (cc : ContainerConfig) : ContainerConfig :=
  containerCleanup sys ((cc.setStatus .disable).record .disabled) 0

/-- `CONTAINER_NOT_STARTED` is written to the active guest before its start. -/
def enableGuest (cc : ContainerConfig) : ContainerConfig :=
  (cc.setStatus .notStarted).record .enabled

end ContainerManager

import ContainerManager.Config
import ContainerManager.Control.Events
import ContainerManager.Operations.Host

/-!
# The manager's state machine

The parts of `container-control-exec.c`, `container-control.c` and `container-control-monitor.c`
that work on the whole manager: the start of the guests, the cyclic event and the handlers of the
internal messages.
-/

namespace ContainerManager

variable {n : ℕ}

/-- The loop over all guests whose pass works on its own guest only. -/
def Containers.forEachGuest (cs : Containers n) (f : Fin n → ContainerConfig → ContainerConfig) :
    Containers n :=
  Loop.forEach (fun cs i => cs.setGuest i (f i (cs.containers i))) cs

/-! ### Monitor -/

/-- What adding a monitor meets: `lxc->init_pidfd` and `sd_event_add_io`. -/
structure MonitorSys where
  initPidfd : ℤ
  addIo : ℤ
deriving DecidableEq, Repr

/-- `container_monitor_addguest`. -/
def containerMonitorAddguest (sys : MonitorSys) (cs : Containers n) (i : Fin n) :
    Containers n × ℤ :=
  let cc := cs.containers i
  match cc.runtimeStat.lxc with
  | none => (cs, -1)
  | some lxc =>
    if sys.initPidfd < 0 then (cs, -2)
    else if sys.addIo < 0 then (cs, -1)
    else
      let source : PidfdSource n := ⟨cs.event.nextId, i, lxc.incarnation⟩
      let cc' := { cc with runtimeStat := { cc.runtimeStat with pidfdSource := some source.id } }
      ({ cs.setGuest i cc' with
        event := ⟨cs.event.nextId + 1, source :: cs.event.sources⟩ }, 0)

/-- The loop of `container_monitor_pidfd_handler`: every guest that points to the source reports its
exit, and a source whose report was sent is disarmed and forgotten. -/
def containerMonitorPidfdHandler (sent : Bool) (source : PidfdSource n) (cs : Containers n) :
    Containers n :=
  Loop.forEach (fun cs i =>
    let cc := cs.containers i
    if cc.runtimeStat.pidfdSource = some source.id then
      if sent then
        let cc' := { cc with runtimeStat := { cc.runtimeStat with pidfdSource := none } }
        { (cs.send (.guestExit i source.incarnation) true).setGuest i cc' with
          event := { cs.event with
            sources := cs.event.sources.filter fun s => s.id ≠ source.id } }
      else cs
    else cs) cs

/-! ### Start -/

/-- What the visit of one guest in the run state meets. -/
structure VisitSys where
  start : StartSys
  monitor : MonitorSys
  notify : Bool
  disable : CleanupSys
  worker : RunWorkerSys
  finish : ℤ

/-- A call of `container_start` for a guest. -/
def Containers.callStart (cs : Containers n) (sys : StartSys) (i : Fin n) : Containers n × ℤ :=
  let r := containerStart sys (cs.containers i)
  let entry : LogEntry n := .containerStart i fun j => (cs.containers j).runtimeStat.status
  ((cs.writeLog entry).setGuest i r.1, r.2)

/-- A start, and a monitor for the guest when it runs; it runs without monitor when that fails. -/
def startGuest (sys : VisitSys) (cs : Containers n) (i : Fin n) : Containers n × ℤ :=
  let r := cs.callStart sys.start i
  if r.2 = 0 then ((containerMonitorAddguest sys.monitor r.1 i).1, 0) else r

/-- `container_start_by_role`. -/
def containerStartByRole (sys : VisitSys) (cs : Containers n) (role : String) :
    Containers n × ℤ :=
  match containerGetActiveGuestByRole cs.roleList role with
  | none => (cs, -2)
  | some i =>
    let r := startGuest sys (cs.setGuest i (enableGuest (cs.containers i))) i
    (r.1, if r.2 = 0 then 0 else -1)

/-- `container_mngsm_start`, given what each role's start meets and whether the notification is
sent. The tick timer is not part of the state. -/
def containerMngsmStart (sys : ℕ → VisitSys) (notify : Bool) (cs : Containers n) : Containers n :=
  (cs.roleList.zipIdx.foldl (fun s c => (containerStartByRole (sys c.2) s c.1.name).1) cs).send
    .netifUpdated notify

/-! ### The cyclic event in the run state -/

/-- A start from the cyclic event, followed by a device update notification. -/
def startAndNotify (sys : VisitSys) (cs : Containers n) (i : Fin n) : Containers n :=
  let r := startGuest sys cs i
  if r.2 = 0 then r.1.send .netifUpdated sys.notify else r.1

/-- A role switch: the guest is disabled, and the active guest of its role enabled and started. -/
def execSwitch (sys : VisitSys) (cs : Containers n) (i active : Fin n) : Containers n :=
  let cs := cs.setGuest i (execDisableGuest sys.disable (cs.containers i))
  let cs := cs.setGuest active (enableGuest (cs.containers active))
  startAndNotify sys cs active

/-- One pass of the first loop of `container_exec_internal_event` in the run state. -/
def execRunVisit (sys : VisitSys) (cs : Containers n) (i : Fin n) : Containers n :=
  let cc := cs.containers i
  match cc.runtimeStat.status with
  | .dead => startAndNotify sys cs i
  | .notStarted =>
    match containerGetActiveGuestByRole cs.roleList cc.role with
    | none => cs
    | some active =>
      if i ≠ active then execSwitch sys cs i active
      else cs.setGuest i (execRunWorkerGuest sys.worker cc)
  | .runWorker => cs.setGuest i (execFinishWorkerGuest sys.finish cc)
  | _ => cs

/-- The first loop of `container_exec_internal_event` in the run state. -/
def execRunVisits (visit : Fin n → VisitSys) (cs : Containers n) : Containers n :=
  Loop.forEach (fun cs i => execRunVisit (visit i) cs i) cs

/-- What one cyclic event meets: the clock at its start, and by guest the visits, the pids, the
delayed mounts and the plugins' `delete`; the dispatch of the terminate worker and the poll. -/
structure ExecSys (n : ℕ) where
  now : ℤ
  visit : Fin n → VisitSys
  initPid : Fin n → ℤ
  delayed : Fin n → DelayedSys
  delete : Fin n → ℤ
  dispatch : DispatchSys
  read : ReadSys

/-- `container_mngsm_do_cyclic_operation`. -/
def containerMngsmDoCyclicOperation (read : ReadSys) (cs : Containers n) : Containers n × ℤ :=
  let r := managerOperationDelayedPoll read cs.operation
  ({ cs with operation := r.1 }, r.2)

/-- `container_exec_internal_event` in the run state. -/
def execInternalEventRun (sys : ExecSys n) (cs : Containers n) : Containers n :=
  let cs := execRunVisits sys.visit cs
  let cs := cs.forEachGuest fun i => execRunTimeoutGuest (sys.initPid i) sys.now
  let cs := cs.forEachGuest fun i cc => (containerDoDelayedOperation (sys.delayed i) cc).1
  (containerMngsmDoCyclicOperation sys.read cs).1

/-! ### The cyclic event in the shutdown state -/

/-- `container_mngsm_exec_delayed_operation`: role 0 is startup and 1 is terminate. -/
def containerMngsmExecDelayedOperation (sys : DispatchSys) (cs : Containers n) (role : ℤ) :
    Containers n × ℤ :=
  if role = 0 ∨ role = 1 then
    let r := if role = 0 then managerOperationDelayedLaunch sys cs.operation
      else managerOperationDelayedTerminate sys cs.operation
    ({ cs with operation := r.1 }, if r.2 = 0 ∨ r.2 = 1 ∨ r.2 = -1 then r.2 else -3)
  else (cs, -3)

/-- `container_mngsm_exit`. -/
def containerMngsmExit (cs : Containers n) (reason : ExitReason) : Containers n :=
  cs.writeLog (.exit reason)

/-- The manager's terminate operation, once all guests are exited. -/
def execTerminateOperation (dispatch : DispatchSys) (read : ReadSys) (cs : Containers n) :
    Containers n :=
  let r := containerMngsmExecDelayedOperation dispatch cs 1
  if r.2 = -1 then
    let p := containerMngsmDoCyclicOperation read r.1
    if p.2 = 1 then containerMngsmExit p.1 .complete else p.1
  else if r.2 = 1 then containerMngsmExit r.1 .notRequired
  else if r.2 = 0 then r.1
  else containerMngsmExit r.1 .failed

/-- Every guest is exited or disabled: `exit_count == num`. -/
def Containers.AllExited (cs : Containers n) : Prop :=
  ∀ i, execShutdownCounted (cs.containers i) = true

instance (cs : Containers n) : Decidable cs.AllExited := inferInstanceAs (Decidable (∀ _, _))

/-- `container_exec_internal_event` in the shutdown state. -/
def execInternalEventShutdown (sys : ExecSys n) (cs : Containers n) : Containers n :=
  let checked := cs.forEachGuest fun i => execShutdownCheckGuest (sys.delete i)
  if cs.AllExited then execTerminateOperation sys.dispatch sys.read checked
  else checked.forEachGuest fun i => execShutdownTimeoutGuest (sys.initPid i) sys.now

/-- `container_exec_internal_event`. -/
def containerExecInternalEvent (sys : ExecSys n) (cs : Containers n) : Containers n :=
  match cs.sysState with
  | .run => execInternalEventRun sys cs
  | .shutdown => execInternalEventShutdown sys cs

/-! ### Messages -/

/-- `container_netif_updated`. -/
def containerNetifUpdated (attach : Fin n → ℕ → ℕ → Bool) (cs : Containers n) : Containers n :=
  cs.forEachGuest fun i cc => (containerNetifUpdateGuest (attach i) cs.nllist cc).1

/-- `container_exited`. -/
def containerExited (cs : Containers n) (containerNumber : ℤ) : Containers n × ℤ :=
  if h : 0 ≤ containerNumber ∧ containerNumber < n then
    let i : Fin n := ⟨containerNumber.toNat, by omega⟩
    let r := containerExitedGuest cs.sysState (cs.containers i)
    (cs.setGuest i r.1, r.2)
  else (cs, -1)

/-- `container_manager_shutdown`; -1 when the request to some guest failed. -/
def containerManagerShutdown (sys : Fin n → RequestSys) (cs : Containers n) : Containers n × ℤ :=
  let cs := { cs with sysState := .shutdown }
  (cs.forEachGuest fun i cc => (containerRequestShutdown (sys i) cc .shutdown).1,
    if ∃ i, (containerRequestShutdown (sys i) (cs.containers i) .shutdown).2 < 0 then -1 else 0)

/-- What handling one message meets. -/
structure MessageSys (n : ℕ) where
  attach : Fin n → ℕ → ℕ → Bool
  request : Fin n → RequestSys
  exec : ExecSys n

/-- The part of `container_mngsm_state_machine` that handles the message. The tick timer is not part
of the state. -/
def handleMessage (sys : MessageSys n) (cs : Containers n) : Message → Containers n
  | .netifUpdated => containerNetifUpdated sys.attach cs
  | .guestExit containerNumber _ => (containerExited cs containerNumber).1
  | .systemShutdown => (containerManagerShutdown sys.request cs).1
  | .timerTick => cs
  | .other _ => cs

/-- `container_mngsm_state_machine`: the message is handled, then the cyclic event runs. -/
def containerMngsmStateMachine (sys : MessageSys n) (cs : Containers n) (m : Message) :
    Containers n :=
  containerExecInternalEvent sys.exec (handleMessage sys cs m)

/-- `container_mngsm_commsocket_handler`: the oldest packet of the internal socket is handled. -/
def containerMngsmCommsocketHandler (sys : MessageSys n) (cs : Containers n) : Containers n :=
  match cs.comm with
  | [] => cs
  | m :: rest => containerMngsmStateMachine sys { cs with comm := rest } m

/-! ### Termination -/

/-- `container_mngsm_terminate`: every guest is cleaned up. -/
def containerMngsmTerminate (sys : Fin n → CleanupSys) (cs : Containers n) : Containers n :=
  cs.forEachGuest fun i cc => containerCleanup (sys i) cc 500

end ContainerManager

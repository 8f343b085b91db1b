import ContainerManager.Operations.Worker

/-!
# Dispatching and polling the manager's worker

The host side of `container-manager-operations.c`: the dispatch of a worker for the disks to mount
after the launch or to unmount at the end, and the poll of its answers. The two dispatch functions
differ in the elements they select.
-/

namespace ContainerManager

/-! ### Dispatch -/

/-- The copy of an element that is handed to the worker. -/
def MountElem.workerCopy (cmomElem : MountElem) : MountElem :=
  { cmomElem with isDispatched := false, state := .queued }

/-- The loop that marks the selected elements dispatched and copies them, by the results of the
allocations. Without a copy for every selected element there is no list. -/
def dispatchElems (select : MountElem → Bool) (malloc : ℕ → Bool) :
    List MountElem → List MountElem × Option (List MountElem)
  | [] => ([], some [])
  | cmomElem :: rest =>
    if select cmomElem then
      if malloc 0 then
        let next := dispatchElems select (fun k => malloc (k + 1)) rest
        ({ cmomElem with isDispatched := true } :: next.1,
          next.2.map fun elems => cmomElem.workerCopy :: elems)
      else (cmomElem :: rest, none)
    else
      let next := dispatchElems select malloc rest
      (cmomElem :: next.1, next.2)

/-- What a dispatch meets: the allocations, `socketpair`, `pthread_create`, and what the thread will
meet. -/
structure DispatchSys where
  mallocStorage : Bool
  mallocWorker : Bool
  socketpair : Bool
  mallocElem : ℕ → Bool
  pthreadCreate : ℤ
  worker : WorkerSys

/-- The common body of the two dispatch functions. A thread exists when `pthread_create` returned 0;
the code takes every non-negative value for success. -/
def managerOperationDispatch (kind : OperationKind) (select : MountElem → Bool) (sys : DispatchSys)
    (cmo : ManagerOperation) : ManagerOperation × ℤ :=
  if cmo.storage.isSome then (cmo, -1)
  else if ¬ (sys.mallocStorage ∧ sys.mallocWorker ∧ sys.socketpair) then (cmo, -2)
  else
    let d := dispatchElems select sys.mallocElem cmo.mountList
    let cmo := { cmo with mountList := d.1 }
    match d.2 with
    | none => (cmo, -3)
    | some [] => (cmo, 1)
    | some elems =>
      if sys.pthreadCreate < 0 then (cmo, -3)
      else
        let thread : WorkerThread :=
          ⟨cmo.dispatches, kind, containerManagerWorkerThread sys.worker elems⟩
        ({ cmo with
          storage := some { serial := cmo.dispatches, kind := kind }
          threads := if sys.pthreadCreate = 0 then cmo.threads ++ [thread] else cmo.threads
          dispatches := cmo.dispatches + 1 }, 0)

/-- An element `manager_operation_delayed_launch` dispatches: it is not mounted. -/
def launchSelects (cmomElem : MountElem) : Bool :=
  ¬ cmomElem.isMounted ∧ cmomElem.state ≠ .canceled

/-- An element `manager_operation_delayed_terminate` dispatches: it is mounted. -/
def terminateSelects (cmomElem : MountElem) : Bool :=
  cmomElem.isMounted ∧ cmomElem.state ≠ .canceled

/-- The elements a dispatch function selects. -/
def OperationKind.selects : OperationKind → MountElem → Bool
  | .launch => launchSelects
  | .terminate => terminateSelects

/-- `manager_operation_delayed_launch`. -/
def managerOperationDelayedLaunch (sys : DispatchSys) (cmo : ManagerOperation) :
    ManagerOperation × ℤ :=
  managerOperationDispatch .launch launchSelects sys cmo

/-- `manager_operation_delayed_terminate`. -/
def managerOperationDelayedTerminate (sys : DispatchSys) (cmo : ManagerOperation) :
    ManagerOperation × ℤ :=
  managerOperationDispatch .terminate terminateSelects sys cmo

/-! ### Poll -/

/-- How the `read` of the host's end goes: as the socket allows, interrupted, or failed. -/
inductive ReadSys where
  | normal
  | eintr
  | error
deriving DecidableEq, Repr

/-- What a response does to the elements of its index. -/
def MountElem.receive (wres : WorkerResponse) (cmomElem : MountElem) : MountElem :=
  if cmomElem.index = wres.index then
    if wres.operation = 0 then
      if wres.result = 0 then { cmomElem with isMounted := true, isDispatched := false }
      else if wres.result = 1 then { cmomElem with isMounted := false, isDispatched := false }
      else { cmomElem with errorCount := cmomElem.errorCount + 1, isDispatched := false }
    else if wres.operation = 1 then { cmomElem with isMounted := false, isDispatched := false }
    else cmomElem
  else cmomElem

/-- The test for the end of all worker operations. -/
def managerOperationAsses (cmo : ManagerOperation) : ManagerOperation × ℤ :=
  if cmo.mountList ≠ [] ∧ cmo.mountList.all fun cmomElem => ¬ cmomElem.isDispatched then
    ({ cmo with storage := none }, 1)
  else (cmo, 0)

/-- The packet a `read` gives: the oldest one, or the zeroed buffer at the end of file. -/
def readPacket (storage : OperationStorage) : Option (WorkerResponse × List WorkerResponse) :=
  match storage.packets with
  | wres :: packets => some (wres, packets)
  | [] => if storage.workerClosed then some (⟨0, 0, 0⟩, []) else none

/-- `manager_operation_delayed_poll`. -/
def managerOperationDelayedPoll (read : ReadSys) (cmo : ManagerOperation) :
    ManagerOperation × ℤ :=
  match cmo.storage with
  | none => (cmo, -1)
  | some storage =>
    match read with
    | .error => (cmo, -3)
    | .eintr => managerOperationAsses cmo
    | .normal =>
      match readPacket storage with
      | none => managerOperationAsses cmo
      | some (wres, packets) =>
        managerOperationAsses { cmo with
          mountList := cmo.mountList.map (MountElem.receive wres)
          storage := some { storage with packets := packets } }

/-! ### The thread's steps -/

/-- What an action of a thread does to the socket, when the host still holds the other end. -/
def WorkerThread.perform (thread : WorkerThread) (action : WorkerAction)
    (storage : OperationStorage) : OperationStorage :=
  if storage.serial = thread.serial then
    match action with
    | .respond wres => { storage with packets := storage.packets ++ [wres] }
    | .close => { storage with workerClosed := true }
    | _ => storage
  else storage

/-- The thread at this place of the thread list takes its next action. -/
def managerWorkerStep (k : ℕ) (cmo : ManagerOperation) :
    ManagerOperation × Option (OperationKind × WorkerAction) :=
  match cmo.threads[k]? with
  | none => (cmo, none)
  | some thread =>
    match thread.todo with
    | [] => (cmo, none)
    | action :: todo =>
      ({ cmo with
        threads := cmo.threads.set k { thread with todo := todo }
        storage := cmo.storage.map (thread.perform action) }, some (thread.kind, action))

end ContainerManager

import ContainerManager.Control.Start

/-!
# The manager's worker thread

The worker side of `container-manager-operations.c`. The thread is the list of the actions it takes,
given the results of all the system calls it makes.
-/

namespace ContainerManager

/-- What the `poll` of `manager_worker_exec` reports. -/
inductive PollResult where
  /-- the child process was exited -/
  | childExit
  /-- the host's end is readable: a request of this index and kind, or nothing could be read -/
  | control (wreq : Option (ℕ × ℤ))
  | timeout
  | intr
  | error
deriving DecidableEq, Repr

/-- What the worker thread meets, by the index of the element: the results of the first and of the
retaken mount, of the unmount with the clock before it, of `fork`, and of the polls until the child
is no longer waited for. When the polls run out, the thread still waits. -/
structure WorkerSys where
  first : ℕ → ℕ → MountSys
  retake : ℕ → ℕ → MountSys
  unmount : ℕ → UnmountSys
  now : ℕ → ℤ
  fork : ℕ → Bool
  poll : ℕ → List PollResult

/-! ### The mount pass -/

/-- One pass of `manager_mount_operation` over one element: whether the element is kept in the list,
and what is done. `mount` gives the results of the mount in this pass. -/
def managerMountElem (sys : WorkerSys) (mount : ℕ → ℕ → MountSys) (isRetake : Bool)
    (celem : MountElem) : Bool × List WorkerAction :=
  if celem.isMounted then
    let r := unmountDisk (sys.unmount celem.index) (some celem.mountTo)
      (sys.now celem.index + 1000) (1000 / 50 + 1)
    (false, [.unmount celem.index r.1 r.2,
      .respond ⟨celem.index, 1, if r.1 < 0 then -1 else 0⟩])
  else
    let devs : BlockDev := (some celem.blockdev.1, celem.blockdev.2)
    let args : MountArgs :=
      ⟨some celem.mountTo, some celem.filesystem, extradiskMntflag celem.mode, celem.option⟩
    match celem.redundancy with
    | .failover =>
      let r := mountDiskFailover (mount celem.index) devs args
      (false, [.mount celem.index r.1 r.2,
        .respond ⟨celem.index, 0, if r.1 < 0 then -1 else 0⟩])
    | .fsck | .mkfs =>
      let r := mountDiskOnce (mount celem.index) devs args
      if r.1 ≠ -1 ∧ isRetake = false then
        (false, [.mount celem.index r.1 r.2,
          .respond ⟨celem.index, 0, if r.1 < 0 then -1 else 0⟩])
      else (true, [.mount celem.index r.1 r.2])
    -- A/B and others are not supported
    | .ab => (false, [.respond ⟨celem.index, 0, -1⟩])

/-- `manager_mount_operation`: the elements kept in the list, the return value, and what is done. -/
def managerMountOperation (sys : WorkerSys) (mount : ℕ → ℕ → MountSys) (isRetake : Bool) :
    List MountElem → List MountElem × ℤ × List WorkerAction
  | [] => ([], 0, [])
  | celem :: rest =>
    let e := managerMountElem sys mount isRetake celem
    let next := managerMountOperation sys mount isRetake rest
    if e.1 then (celem :: next.1, -1, e.2 ++ next.2.2)
    else (next.1, next.2.1, e.2 ++ next.2.2)

/-! ### The recovery -/

/-- The element takes the state canceled when its index was canceled. -/
def MountElem.cancelIf (canceled : List ℕ) (celem : MountElem) : MountElem :=
  if celem.index ∈ canceled then { celem with state := .canceled } else celem

/-- The test of `manager_worker_set_and_test_cancel`: every element is complete or canceled. -/
def allCompleted (elems : List MountElem) : Bool :=
  elems.all fun celem => celem.state = .complete ∨ celem.state = .canceled

/-- The poll loop of `manager_worker_exec`: nothing while the child is still waited for, else the
index canceled by a request, if any. `completed` is the result of the cancel test. -/
def managerWorkerPoll (completed : Bool) : List PollResult → Option (Option ℕ)
  | [] => none
  | .childExit :: _ => some none
  | .control wreq :: _ =>
    match wreq with
    | some (index, request) => if request = 1 then some (some index) else some none
    | none => some none
  | .timeout :: polls => if completed then some none else managerWorkerPoll completed polls
  | .intr :: polls => managerWorkerPoll completed polls
  | .error :: _ => some none

/-- The loop of `manager_worker_exec`. `visited` are the elements before the current one and
`canceled` the indexes canceled so far. It gives nothing while a child is still waited for. -/
def managerWorkerExecLoop (sys : WorkerSys) (canceled : List ℕ) (visited : List MountElem) :
    List MountElem → Option (List MountElem) × List WorkerAction
  | [] => (some visited, [])
  | celem :: rest =>
    let celem := celem.cancelIf canceled
    if celem.state ≠ .queued then managerWorkerExecLoop sys canceled (visited ++ [celem]) rest
    else if ¬ sys.fork celem.index then
      managerWorkerExecLoop sys canceled (visited ++ [{ celem with state := .canceled }]) rest
    else
      let child := WorkerAction.recover celem.index celem.redundancy
      let completed :=
        allCompleted (visited ++ celem :: rest.map (MountElem.cancelIf canceled))
      match managerWorkerPoll completed (sys.poll celem.index) with
      | none => (none, [child])
      | some wreq =>
        let canceled := wreq.toList ++ canceled
        let acts := child :: wreq.toList.map fun index => .respond ⟨index, 0, 1⟩
        let celem := celem.cancelIf canceled
        let celem := if celem.state ≠ .canceled then { celem with state := .complete } else celem
        let visited := visited.map (MountElem.cancelIf canceled) ++ [celem]
        let waiting := rest.map (MountElem.cancelIf canceled)
        if allCompleted (visited ++ waiting) then (some (visited ++ waiting), acts)
        else
          let next := managerWorkerExecLoop sys canceled visited rest
          (next.1, acts ++ next.2)

/-- `manager_worker_exec`: the recovery of every element, then the canceled ones are removed. -/
def managerWorkerExec (sys : WorkerSys) (elems : List MountElem) :
    Option (List MountElem) × List WorkerAction :=
  let r := managerWorkerExecLoop sys [] [] elems
  (r.1.map fun elems => elems.filter fun celem => celem.state ≠ .canceled, r.2)

/-! ### The thread -/

/-- `container_manager_worker_thread`: the mount pass, and when an element is left the recovery and
the retaken mount pass. -/
def containerManagerWorkerThread (sys : WorkerSys) (elems : List MountElem) : List WorkerAction :=
  let p := managerMountOperation sys sys.first false elems
  if p.2.1 = -1 then
    let e := managerWorkerExec sys p.1
    match e.1 with
    | none => p.2.2 ++ e.2
    | some elems =>
      p.2.2 ++ e.2 ++ (managerMountOperation sys sys.retake true elems).2.2 ++ [.close]
  else p.2.2 ++ [.close]

end ContainerManager

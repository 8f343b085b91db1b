import ContainerManager.Data

/-!
# Per container workqueue

The functions of `container-workqueue.c`. What the plugin library and `pthread_create` answer is an
input. Each function is followed by what it does to the queue's status.
-/

namespace ContainerManager

/-- `g_worker_operation`: the plugin file of each worker key. -/
def workerOperation : List (String × String) :=
  [("fsck", "cm-worker-fsck.so"), ("erase", "cm-worker-erase-mkfs.so"),
    ("mkfs", "cm-worker-mkfs.so")]

/-- How scheduling a worker goes outside the manager: whether the plugin can be loaded with a new
instance, and what the instance's `set_args` returns. -/
structure PluginSys where
  load : Bool
  setArgs : ℤ
deriving DecidableEq, Repr

/-- `container_workqueue_get_plugin`. -/
def containerWorkqueueGetPlugin (key : String) : Option String :=
  (workerOperation.find? fun op => op.1 = key).map Prod.snd

/-- `container_workqueue_load_plugin`. -/
def containerWorkqueueLoadPlugin (load : Bool) (wq : Workqueue) (key : String) : Workqueue × ℤ :=
  match containerWorkqueueGetPlugin key with
  | none => (wq, -1)
  | some module =>
    if load then
      ({ wq with object := some ⟨wq.loaded, module, none⟩, loaded := wq.loaded + 1 }, 0)
    else (wq, -1)

/-- `container_workqueue_set_args`. -/
def containerWorkqueueSetArgs (setArgs : ℤ) (wq : Workqueue) (args : String) : Workqueue × ℤ :=
  match wq.object with
  | none => (wq, -1)
  | some obj =>
    if setArgs = 0 then ({ wq with object := some { obj with args := some args } }, 0)
    else (wq, setArgs)

/-- `container_workqueue_unload_plugin`. -/
def containerWorkqueueUnloadPlugin (delete : ℤ) (wq : Workqueue) : Workqueue × ℤ :=
  match wq.object with
  | none => (wq, -1)
  | some obj =>
    if delete < 0 then (wq, -1)
    else ({ wq with object := none, deleted := obj.instanceId :: wq.deleted }, 0)

/-- `container_workqueue_cleanup`. The last component is `*after_execute`, 0 when it is not written,
as its callers initialise it. -/
def containerWorkqueueCleanup (delete : ℤ) (wq : Workqueue) : Workqueue × ℤ × ℤ :=
  match wq.status with
  | .started => (wq, -1, 0)
  | .completed =>
    let after := if wq.stateAfterExecute = 1 then 1 else 0
    let wq' := { wq with status := .inactive, stateAfterExecute := 0 }
    ((containerWorkqueueUnloadPlugin delete wq').1, 0, after)
  | _ => (wq, -3, 0)

/-- `container_workqueue_exec`. -/
def containerWorkqueueExec (exec : ℤ) (wq : Workqueue) : ℤ :=
  match wq.object with
  | none => -1
  | some _ => exec

/-- `container_workqueue_thread`: the end of the worker thread. -/
def containerWorkqueueThread (exec : ℤ) (wq : Workqueue) : Workqueue :=
  { wq with result := containerWorkqueueExec exec wq, status := .completed, thread := false }

/-- `container_workqueue_run`. A thread exists when `pthread_create` returned 0; the code takes
every non-negative value for success. -/
def containerWorkqueueRun (pthreadCreate : ℤ) (wq : Workqueue) : Workqueue × ℤ :=
  if wq.status ≠ .scheduled then (wq, -1)
  else if pthreadCreate < 0 then ({ wq with status := .scheduled }, -3)
  else ({ wq with status := .started, thread := pthreadCreate = 0 }, 0)

/-- `container_workqueue_cancel`; `cancel` is what the instance's `cancel` returns. -/
def containerWorkqueueCancel (cancel : ℤ) (wq : Workqueue) : ℤ :=
  match wq.status with
  | .disable | .inactive => -1
  | .scheduled => 0
  | .started | .completed =>
    match wq.object with
    | none => -2
    | some _ => if cancel = 0 then 1 else -2

/-- `container_workqueue_remove`. The last component is `*after_execute`, 0 when it is not written,
as its callers initialise it. -/
def containerWorkqueueRemove (delete : ℤ) (wq : Workqueue) : Workqueue × ℤ × ℤ :=
  match wq.status with
  | .started | .completed => (wq, -1, 0)
  | status =>
    let wq' := { wq with
      status := if status ≠ .disable then .inactive else .disable
      stateAfterExecute := 0
      result := 0 }
    ((containerWorkqueueUnloadPlugin delete wq').1, 0, wq.stateAfterExecute)

/-- `container_workqueue_schedule`. -/
def containerWorkqueueSchedule (sys : PluginSys) (wq : Workqueue) (key args : String)
    (launchAfterEnd : ℤ) : Workqueue × ℤ :=
  if wq.status ≠ .inactive then (wq, -1)
  else
    let l := containerWorkqueueLoadPlugin sys.load wq key
    if l.2 < 0 then (l.1, -3)
    else
      let a := containerWorkqueueSetArgs sys.setArgs l.1 args
      if a.2 = 0 then
        ({ a.1 with status := .scheduled, stateAfterExecute := launchAfterEnd, result := 0 }, 0)
      else (a.1, -2)

/-- `container_workqueue_get_status`. -/
def containerWorkqueueGetStatus (wq : Workqueue) : WorkerStatus := wq.status

/-- `container_workqueue_initialize`. It returns -1 in every case. -/
def containerWorkqueueInitialize (mutexInit : ℤ) : Workqueue × ℤ :=
  if mutexInit < 0 then ({ status := .disable }, -1) else ({ status := .inactive }, -1)

/-- `container_workqueue_deinitialize`. A workqueue whose thread runs stays as it is. -/
def containerWorkqueueDeinitialize (wq : Workqueue) : Workqueue × ℤ :=
  if wq.status = .started then (wq, -2)
  else ({ wq with status := .disable, stateAfterExecute := 0 }, 0)

/-! ### What each function does to the status -/

section Status

variable {wq : Workqueue}

@[simp] lemma containerWorkqueueUnloadPlugin_status (delete : ℤ) :
    (containerWorkqueueUnloadPlugin delete wq).1.status = wq.status := by
  simp only [containerWorkqueueUnloadPlugin]
  split
  · rfl
  · split_ifs <;> rfl

@[simp] lemma containerWorkqueueUnloadPlugin_stateAfterExecute (delete : ℤ) :
    (containerWorkqueueUnloadPlugin delete wq).1.stateAfterExecute = wq.stateAfterExecute := by
  simp only [containerWorkqueueUnloadPlugin]
  split
  · rfl
  · split_ifs <;> rfl

@[simp] lemma containerWorkqueueUnloadPlugin_thread (delete : ℤ) :
    (containerWorkqueueUnloadPlugin delete wq).1.thread = wq.thread := by
  simp only [containerWorkqueueUnloadPlugin]
  split
  · rfl
  · split_ifs <;> rfl

@[simp] lemma containerWorkqueueCleanup_thread (delete : ℤ) :
    (containerWorkqueueCleanup delete wq).1.thread = wq.thread := by
  simp only [containerWorkqueueCleanup]
  split <;> simp

@[simp] lemma containerWorkqueueRemove_thread (delete : ℤ) :
    (containerWorkqueueRemove delete wq).1.thread = wq.thread := by
  simp only [containerWorkqueueRemove]
  split <;> simp

@[simp] lemma containerWorkqueueSchedule_thread (sys : PluginSys) (key args : String) (l : ℤ) :
    (containerWorkqueueSchedule sys wq key args l).1.thread = wq.thread := by
  by_cases hs : wq.status = .inactive
  · cases hp : containerWorkqueueGetPlugin key with
    | none => simp [containerWorkqueueSchedule, containerWorkqueueLoadPlugin, hs, hp]
    | some module =>
      cases hl : sys.load <;> by_cases ha : sys.setArgs = 0 <;>
        simp [containerWorkqueueSchedule, containerWorkqueueLoadPlugin, containerWorkqueueSetArgs,
          hs, hp, hl, ha]
  · simp [containerWorkqueueSchedule, hs]

lemma containerWorkqueueCleanup_completed (delete : ℤ) (h : wq.status = .completed) :
    (containerWorkqueueCleanup delete wq).1.status = .inactive ∧
      (containerWorkqueueCleanup delete wq).1.stateAfterExecute = 0 ∧
      (containerWorkqueueCleanup delete wq).2 =
        (0, if wq.stateAfterExecute = 1 then 1 else 0) := by
  simp [containerWorkqueueCleanup, h]

lemma containerWorkqueueCleanup_of_ne (delete : ℤ) (h : wq.status ≠ .completed) :
    (containerWorkqueueCleanup delete wq).1 = wq ∧
      (containerWorkqueueCleanup delete wq).2.1 ≠ 0 := by
  simp only [containerWorkqueueCleanup]
  split
  · exact ⟨rfl, by simp⟩
  · contradiction
  · exact ⟨rfl, by simp⟩

/-- Running a scheduled worker starts it, or leaves it scheduled when no thread can be created. -/
lemma containerWorkqueueRun_scheduled (pthreadCreate : ℤ) (h : wq.status = .scheduled) :
    (containerWorkqueueRun pthreadCreate wq).2 = 0 ∧
        (containerWorkqueueRun pthreadCreate wq).1.status = .started ∧
        (containerWorkqueueRun pthreadCreate wq).1.stateAfterExecute = wq.stateAfterExecute ∨
      (containerWorkqueueRun pthreadCreate wq).2 = -3 ∧
        (containerWorkqueueRun pthreadCreate wq).1 = wq := by
  obtain ⟨object, status, after, result, thread, loaded, deleted⟩ := wq
  obtain rfl : status = .scheduled := h
  by_cases hp : pthreadCreate < 0
  · right
    simp [containerWorkqueueRun, hp]
  · left
    simp [containerWorkqueueRun, hp]

lemma containerWorkqueueCancel_scheduled (cancel : ℤ) (h : wq.status = .scheduled) :
    containerWorkqueueCancel cancel wq = 0 := by
  simp [containerWorkqueueCancel, h]

lemma containerWorkqueueRemove_scheduled (delete : ℤ) (h : wq.status = .scheduled) :
    (containerWorkqueueRemove delete wq).1.status = .inactive ∧
      (containerWorkqueueRemove delete wq).1.stateAfterExecute = 0 ∧
      (containerWorkqueueRemove delete wq).2 = (0, wq.stateAfterExecute) := by
  simp [containerWorkqueueRemove, h]

/-- Scheduling a worker succeeds and queues it, or fails and leaves the status as it was. -/
lemma containerWorkqueueSchedule_cases (wq : Workqueue) (sys : PluginSys) (key args : String)
    (l : ℤ) :
    (containerWorkqueueSchedule sys wq key args l).2 = 0 ∧ wq.status = .inactive ∧
        (containerWorkqueueSchedule sys wq key args l).1.status = .scheduled ∧
        (containerWorkqueueSchedule sys wq key args l).1.stateAfterExecute = l ∨
      (containerWorkqueueSchedule sys wq key args l).2 ≠ 0 ∧
        (containerWorkqueueSchedule sys wq key args l).1.status = wq.status ∧
        (containerWorkqueueSchedule sys wq key args l).1.stateAfterExecute =
          wq.stateAfterExecute := by
  by_cases hs : wq.status = .inactive
  · cases hp : containerWorkqueueGetPlugin key with
    | none => simp [containerWorkqueueSchedule, containerWorkqueueLoadPlugin, hs, hp]
    | some module =>
      cases hl : sys.load <;> by_cases ha : sys.setArgs = 0 <;>
        simp [containerWorkqueueSchedule, containerWorkqueueLoadPlugin, containerWorkqueueSetArgs,
          hs, hp, hl, ha]
  · right
    simp [containerWorkqueueSchedule, hs]

/-- A worker with a known key is queued on an inactive queue when its plugin loads and takes the
arguments. -/
lemma containerWorkqueueSchedule_eq_zero {sys : PluginSys} {key module : String} (args : String)
    (l : ℤ) (hs : wq.status = .inactive) (hk : containerWorkqueueGetPlugin key = some module)
    (hload : sys.load = true) (hset : sys.setArgs = 0) :
    (containerWorkqueueSchedule sys wq key args l).2 = 0 := by
  simp [containerWorkqueueSchedule, containerWorkqueueLoadPlugin, containerWorkqueueSetArgs,
    hs, hk, hload, hset]

end Status

end ContainerManager

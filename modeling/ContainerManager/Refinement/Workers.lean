import ContainerManager.Refinement.GuestSteps

/-!
# The workqueues under the handlers

A guest's workqueue is only touched by the functions of the workqueue. So what they keep, every step
of a guest keeps, and it holds of every guest's workqueue in every run whose created threads meet a
condition.
-/

namespace ContainerManager

open Containers

variable {n : ℕ}

/-! ### One guest -/

section Guest

variable {cc : ContainerConfig}

@[simp] lemma lxcutilContainerForcekill_workqueue (initPid : ℤ) :
    (lxcutilContainerForcekill initPid cc).workqueue = cc.workqueue := by
  rw [lxcutilContainerForcekill_frame]

@[simp] lemma timeoutKill_workqueue (initPid now : ℤ) (status : ContainerStatus) :
    (timeoutKill initPid now cc status).workqueue = cc.workqueue := by
  rw [timeoutKill, lxcutilContainerForcekill_frame]
  rfl

@[simp] lemma execRunTimeoutGuest_workqueue (initPid now : ℤ) :
    (execRunTimeoutGuest initPid now cc).workqueue = cc.workqueue := by
  simp only [execRunTimeoutGuest]
  split_ifs <;> simp

@[simp] lemma execShutdownTimeoutGuest_workqueue (initPid now : ℤ) :
    (execShutdownTimeoutGuest initPid now cc).workqueue = cc.workqueue := by
  simp only [execShutdownTimeoutGuest]
  split_ifs
  · exact timeoutKill_workqueue _ _ _
  · rfl
  · rfl

@[simp] lemma containerDoDelayedOperation_workqueue (sys : DelayedSys) :
    (containerDoDelayedOperation sys cc).1.workqueue = cc.workqueue := by
  simp only [containerDoDelayedOperation]
  split_ifs <;> rfl

@[simp] lemma containerNetifUpdateGuest_workqueue (attach : ℕ → ℕ → Bool)
    (nllist : List NetworkInterfaceInfo) :
    (containerNetifUpdateGuest attach nllist cc).1.workqueue = cc.workqueue := by
  simp only [containerNetifUpdateGuest]
  split_ifs <;> rfl

@[simp] lemma requestStop_workqueue (sys : RequestSys) (failed accepted : ContainerStatus) :
    (requestStop sys cc failed accepted).workqueue = cc.workqueue := by
  simp only [requestStop]
  split_ifs
  · rw [lxcutilContainerForcekill_frame]
    rfl
  · rfl

@[simp] lemma containerRequestShutdown_workqueue (sys : RequestSys) (s : SystemState) :
    (containerRequestShutdown sys cc s).1.workqueue = cc.workqueue := by
  have hbody : (containerRequestShutdownBody sys cc s).1.workqueue = cc.workqueue := by
    cases s <;> unfold containerRequestShutdownBody <;> dsimp only <;> split <;>
      first | exact requestStop_workqueue _ _ _ | rfl
  exact hbody

@[simp] lemma containerRequestReboot_workqueue (sys : RequestSys) (s : SystemState) :
    (containerRequestReboot sys cc s).1.workqueue = cc.workqueue := by
  cases s <;> unfold containerRequestReboot <;> dsimp only <;> split <;>
    first | exact requestStop_workqueue _ _ _ | rfl

end Guest

/-! ### What the functions of the workqueue keep -/

/-- The functions of the workqueue keep the property, when a thread is created with a result that
meets the condition. -/
structure QueueInvariant (P : ℤ → Prop) (W : Workqueue → Prop) : Prop where
  initial : ∀ mutexInit, W (containerWorkqueueInitialize mutexInit).1
  schedule : ∀ wq sys key args l, W wq → W (containerWorkqueueSchedule sys wq key args l).1
  run : ∀ wq pthreadCreate, P pthreadCreate → W wq → W (containerWorkqueueRun pthreadCreate wq).1
  thread : ∀ wq exec, wq.thread = true → W wq → W (containerWorkqueueThread exec wq)
  cleanup : ∀ wq delete, W wq → W (containerWorkqueueCleanup delete wq).1
  remove : ∀ wq delete, W wq → W (containerWorkqueueRemove delete wq).1

/-- The property holds of every guest's workqueue. -/
def Containers.Queues (W : Workqueue → Prop) (cs : Containers n) : Prop :=
  ∀ i, W (cs.containers i).workqueue

section Queues

variable {P : ℤ → Prop} {W : Workqueue → Prop}

namespace QueueInvariant

lemma recovery (hW : QueueInvariant P W) {wq : Workqueue} (h : W wq) (sys : ℕ → PluginSys)
    (l : List ExtraDisk) : W (containerStartPreprocessRecovery sys wq l).1 := by
  induction l generalizing sys wq with
  | nil => exact h
  | cons d l ih =>
    rw [containerStartPreprocessRecovery]
    split_ifs
    · split
      · exact ih h _
      · dsimp only
        split_ifs
        · exact hW.schedule _ _ _ _ _ h
        · exact ih (hW.schedule _ _ _ _ _ h) _
    · exact h
    · exact ih h _

lemma start (hW : QueueInvariant P W) {cc : ContainerConfig} (h : W cc.workqueue)
    (sys : StartSys) : W (containerStart sys cc).1.workqueue := by
  by_cases hen : cc.Enabled
  · have o := containerStart_outcome sys cc hen
    generalize containerStart sys cc = r at o ⊢
    cases o with
    | mountFailed bc hneg hbc => exact hW.recovery h _ _
    | launchFailed cc' hm hbc hs hl hp ht hw => rwa [hw]
    | launched cc' hm hbc hs hl hp ht hw => rwa [hw]
  · simp only [containerStart, containerStartBody]
    rw [if_pos (not_not.mp hen)]
    exact h

lemma runWorker (hW : QueueInvariant P W) {cc : ContainerConfig} (h : W cc.workqueue)
    {sys : RunWorkerSys} (hp : cc.workqueue.status = .scheduled → P sys.pthreadCreate) :
    W (execRunWorkerGuest sys cc).workqueue := by
  simp only [execRunWorkerGuest]
  split_ifs with hs
  · have hrun := hW.run _ _ (hp hs) h
    exact hW.remove _ _ hrun
  · exact hW.run _ _ (hp ‹_›) h
  · exact hW.run _ _ (hp ‹_›) h
  · exact hW.run _ _ (hp ‹_›) h
  · exact h

lemma finishWorker (hW : QueueInvariant P W) {cc : ContainerConfig} (h : W cc.workqueue)
    (delete : ℤ) : W (execFinishWorkerGuest delete cc).workqueue := by
  simp only [execFinishWorkerGuest]
  split_ifs
  · exact hW.cleanup _ _ h
  · exact hW.cleanup _ _ h
  · exact h

lemma shutdownCheck (hW : QueueInvariant P W) {cc : ContainerConfig} (h : W cc.workqueue)
    (delete : ℤ) : W (execShutdownCheckGuest delete cc).workqueue := by
  simp only [execShutdownCheckGuest]
  split_ifs
  · exact hW.cleanup _ _ h
  · exact hW.cleanup _ _ h
  · exact h

lemma guestStep (hW : QueueInvariant P W) {cc cc' : ContainerConfig} (h : GuestStep P cc cc')
    (hw : W cc.workqueue) : W cc'.workqueue := by
  cases h with
  | start sys => exact hW.start hw sys
  | runWorker sys _ hp => exact hW.runWorker hw hp
  | finishWorker delete => exact hW.finishWorker hw delete
  | shutdownCheck delete => exact hW.shutdownCheck hw delete
  | workerDone exec =>
    simp only [guestWorkerDone]
    split_ifs with ht
    · exact hW.thread _ _ ht hw
    · exact hw
  | schedule sys key =>
    simp only [testScheduleGuest]
    split_ifs <;> exact hW.schedule _ _ _ _ _ hw
  | monitor source => exact hw
  | disable sys => exact hw
  | enable => exact hw
  | exited s => exact hw
  | netif attach nllist => rwa [containerNetifUpdateGuest_workqueue]
  | delayed sys => rwa [containerDoDelayedOperation_workqueue]
  | shutdownRequest sys s => rwa [containerRequestShutdown_workqueue]
  | rebootRequest sys s => rwa [containerRequestReboot_workqueue]
  | forcekill initPid => rwa [lxcutilContainerForcekill_workqueue]
  | runTimeout initPid now => rwa [execRunTimeoutGuest_workqueue]
  | shutdownTimeout initPid now => rwa [execShutdownTimeoutGuest_workqueue]

/-! ### All guests -/

/-- The property holds of every guest's workqueue in every state of a run whose created threads meet
the condition. -/
theorem queues_run (hW : QueueInvariant P W) {cs₀ cs : Containers n} (h₀ : Initial cs₀)
    {sys : ℕ → VisitSys} {notify : Bool} (hb : Booted sys notify cs₀ cs) {as : List (Action n)}
    (hp : Transition.Guarded step (StepCreates P) cs as) :
    (Transition.run step cs as).Queues W := by
  intro i
  apply Transition.reflTransGen_invariant (I := fun cc : ContainerConfig => W cc.workqueue)
    (fun _ _ hs hw => hW.guestStep hs hw) (Steps.run hb hp i)
  obtain ⟨mutexInit, hw⟩ := (h₀.guests i).workqueue
  rw [hw]
  exact hW.initial mutexInit

end QueueInvariant

end Queues

end ContainerManager

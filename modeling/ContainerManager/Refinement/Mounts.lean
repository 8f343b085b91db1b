import ContainerManager.Control.MountMoves
import ContainerManager.Refinement.GuestSteps

/-!
# The book of a guest in a run

Only a start and a cleanup make mount calls, so the book of every guest moves by steps of its mount
points.
-/

namespace ContainerManager

open Containers

variable {n : ℕ}

/-! ### The functions without mount calls -/

section

variable (cc : ContainerConfig)

@[simp] lemma lxcutilContainerForcekill_baseconfig (initPid : ℤ) :
    (lxcutilContainerForcekill initPid cc).baseconfig = cc.baseconfig := by
  rw [lxcutilContainerForcekill_frame]

@[simp] lemma timeoutKill_baseconfig (initPid now : ℤ) (status : ContainerStatus) :
    (timeoutKill initPid now cc status).baseconfig = cc.baseconfig := by
  rw [timeoutKill, lxcutilContainerForcekill_frame]
  rfl

@[simp] lemma execRunTimeoutGuest_baseconfig (initPid now : ℤ) :
    (execRunTimeoutGuest initPid now cc).baseconfig = cc.baseconfig := by
  simp only [execRunTimeoutGuest]
  split_ifs <;> simp

@[simp] lemma execShutdownTimeoutGuest_baseconfig (initPid now : ℤ) :
    (execShutdownTimeoutGuest initPid now cc).baseconfig = cc.baseconfig := by
  simp only [execShutdownTimeoutGuest]
  split_ifs
  · simp
  · rfl
  · rfl

@[simp] lemma execShutdownCheckGuest_baseconfig (delete : ℤ) :
    (execShutdownCheckGuest delete cc).baseconfig = cc.baseconfig := by
  simp only [execShutdownCheckGuest]
  split_ifs <;> rfl

@[simp] lemma execFinishWorkerGuest_baseconfig (delete : ℤ) :
    (execFinishWorkerGuest delete cc).baseconfig = cc.baseconfig := by
  simp only [execFinishWorkerGuest]
  split_ifs <;> rfl

@[simp] lemma guestWorkerDone_baseconfig (exec : ℤ) :
    (guestWorkerDone exec cc).baseconfig = cc.baseconfig := by
  simp only [guestWorkerDone]
  split_ifs <;> rfl

@[simp] lemma containerDoDelayedOperation_baseconfig (sys : DelayedSys) :
    (containerDoDelayedOperation sys cc).1.baseconfig = cc.baseconfig := by
  simp only [containerDoDelayedOperation]
  split_ifs <;> rfl

@[simp] lemma containerNetifUpdateGuest_baseconfig (attach : ℕ → ℕ → Bool)
    (nllist : List NetworkInterfaceInfo) :
    (containerNetifUpdateGuest attach nllist cc).1.baseconfig = cc.baseconfig := by
  simp only [containerNetifUpdateGuest]
  split_ifs <;> rfl

@[simp] lemma testScheduleGuest_baseconfig (sys : PluginSys) (key : String) :
    (testScheduleGuest sys key cc).1.baseconfig = cc.baseconfig := by
  simp only [testScheduleGuest]
  split_ifs <;> rfl

@[simp] lemma requestStop_baseconfig (sys : RequestSys) (failed accepted : ContainerStatus) :
    (requestStop sys cc failed accepted).baseconfig = cc.baseconfig := by
  simp only [requestStop]
  split_ifs
  · rw [lxcutilContainerForcekill_frame]
    rfl
  · rfl

@[simp] lemma containerRequestShutdown_baseconfig (sys : RequestSys) (s : SystemState) :
    (containerRequestShutdown sys cc s).1.baseconfig = cc.baseconfig := by
  show (containerRequestShutdownBody sys cc s).1.baseconfig = cc.baseconfig
  cases s <;> unfold containerRequestShutdownBody <;> dsimp only <;> split <;> first
    | exact requestStop_baseconfig _ _ _ _
    | rfl

@[simp] lemma containerRequestReboot_baseconfig (sys : RequestSys) (s : SystemState) :
    (containerRequestReboot sys cc s).1.baseconfig = cc.baseconfig := by
  cases s <;> unfold containerRequestReboot <;> dsimp only <;> split <;> first
    | exact requestStop_baseconfig _ _ _ _
    | rfl

end

/-! ### The functions with mount calls -/

lemma containerStart_book (sys : StartSys) (cc : ContainerConfig) :
    MountBook.Steps cc.baseconfig.mountBook (containerStart sys cc).1.baseconfig.mountBook := by
  by_cases hen : cc.Enabled
  · have hmounts := containerStartPreprocessBase_steps sys.mount cc.baseconfig
    have o := containerStart_outcome sys cc hen
    generalize containerStart sys cc = r at o ⊢
    cases o with
    | mountFailed bc hneg hbc =>
      rw [← hbc] at hmounts
      exact hmounts
    | launchFailed cc' hm hbc =>
      rw [← hbc] at hmounts
      exact hmounts
    | launched cc' hm hbc =>
      rw [← hbc] at hmounts
      exact hmounts
  · simp only [containerStart, containerStartBody]
    rw [if_pos (not_not.mp hen)]
    exact .refl

lemma execRunWorkerGuest_book (sys : RunWorkerSys) (cc : ContainerConfig) :
    MountBook.Steps cc.baseconfig.mountBook (execRunWorkerGuest sys cc).baseconfig.mountBook := by
  have hcleanup : (execRunWorkerGuest sys cc).baseconfig =
      containerCleanupPreprocessBase sys.cleanup cc.baseconfig 200 := by
    simp only [execRunWorkerGuest]
    split_ifs <;> rfl
  rw [hcleanup]
  exact containerCleanupPreprocessBase_steps _ _ _

lemma execDisableGuest_book (sys : CleanupSys) (cc : ContainerConfig) :
    MountBook.Steps cc.baseconfig.mountBook (execDisableGuest sys cc).baseconfig.mountBook :=
  containerCleanupPreprocessBase_steps sys cc.baseconfig 0

lemma GuestStep.book {P : ℤ → Prop} {cc cc' : ContainerConfig} (h : GuestStep P cc cc') :
    MountBook.Steps cc.baseconfig.mountBook cc'.baseconfig.mountBook := by
  cases h with
  | start sys => exact containerStart_book sys cc
  | runWorker sys => exact execRunWorkerGuest_book sys cc
  | disable sys => exact execDisableGuest_book sys cc
  | monitor source => exact .refl
  | enable => exact .refl
  | exited s => exact .refl
  | finishWorker delete => rw [execFinishWorkerGuest_baseconfig]
  | workerDone exec => rw [guestWorkerDone_baseconfig]
  | netif attach nllist => rw [containerNetifUpdateGuest_baseconfig]
  | delayed sys => rw [containerDoDelayedOperation_baseconfig]
  | shutdownRequest sys s => rw [containerRequestShutdown_baseconfig]
  | rebootRequest sys s => rw [containerRequestReboot_baseconfig]
  | forcekill initPid => rw [lxcutilContainerForcekill_baseconfig]
  | runTimeout initPid now => rw [execRunTimeoutGuest_baseconfig]
  | shutdownTimeout initPid now => rw [execShutdownTimeoutGuest_baseconfig]
  | shutdownCheck delete => rw [execShutdownCheckGuest_baseconfig]
  | schedule sys key => rw [testScheduleGuest_baseconfig]

/-- In a reachable state the book of every guest is that of its configuration after moves of its
mount points. -/
lemma ReachableFrom.book {cs₀ cs : Containers n} (h : ReachableFrom cs₀ cs) (i : Fin n) :
    MountBook.Steps (cs₀.containers i).baseconfig.mountBook
      (cs.containers i).baseconfig.mountBook :=
  Relation.ReflTransGen.lift' (fun cc : ContainerConfig => cc.baseconfig.mountBook)
    (fun _ _ hstep => GuestStep.book hstep) _ _ (h.steps i)

end ContainerManager

import ContainerManager.Control.Recovery
import ContainerManager.Lifecycle

/-!
# The code refines the life of a guest

Every function of the source that works on one guest moves its view by a move of the abstract
machine.
-/

namespace ContainerManager

variable {R : Prop}

@[simp] lemma ContainerConfig.view_status (s : SystemState) (cc : ContainerConfig) :
    (cc.view s).status = cc.runtimeStat.status := rfl

@[simp] lemma ContainerConfig.view_role (s : SystemState) (cc : ContainerConfig) :
    (cc.view s).role = cc.role := rfl

/-! ### Start -/

lemma containerStart_move (sys : StartSys) (cc : ContainerConfig) (h : (cc.view .run).Startable)
    (hR : R → cc.runtimeStat.status = .notStarted → StartRecovers sys cc) :
    LifeMove R (cc.view .run) ((containerStart sys cc).1.view .run) := by
  have hen : cc.Enabled := by
    rcases h with ⟨-, h | ⟨h, -⟩⟩ <;> simp_all [ContainerConfig.Enabled]
  have o := containerStart_outcome sys cc hen
  generalize containerStart sys cc = r at o ⊢
  cases o with
  | mountFailed bc hneg hbc =>
    subst hbc
    let bc := (containerStartPreprocessBase sys.mount cc.baseconfig).1
    let wq := (containerStartPreprocessRecovery sys.plugin cc.workqueue bc.extradiskList).1
    let hist := .start cc.runtimeStat.status (-1) :: cc.history
    have e : ({ cc with
          baseconfig := bc
          workqueue := wq
          history := hist } : ContainerConfig).view .run =
        { cc.view .run with
          base := bc
          worker := wq.status
          after := wq.stateAfterExecute
          history := hist } := by
      simp [ContainerConfig.view, wq]
    rw [e]
    refine .mountFailed h _ _ _ (containerStartPreprocessBase_lifecycle _ _) ?_ ?_
    · rcases containerStartPreprocessRecovery_cases sys.plugin cc.workqueue bc.extradiskList with
        ⟨hin, hs, ha⟩ | ⟨hs, ha⟩
      · exact Or.inr ⟨hin, hs, ha⟩
      · exact Or.inl ⟨hs, ha⟩
    · exact fun hr hst => (hR hr hst).scheduled hneg
  | launchFailed cc' hm hbc hs hl hp ht hw hn hname hrole hh =>
    have e : cc'.view .run = { cc.view .run with
        status := .dead
        lxc := none
        base := cc'.baseconfig
        history := .start cc.runtimeStat.status (-1) :: cc.history } := by
      simp [ContainerConfig.view, hs, hl, ht, hw, hname, hrole, hh]
    rw [e]
    exact .launchFailed h _ (by simp [hbc, ContainerConfig.view])
  | launched cc' hm hbc hs hl hp ht hw hn hname hrole hh =>
    have e : cc'.view .run = { cc.view .run with
        status := .started
        lxc := some ⟨cc.launches + 1⟩
        base := cc'.baseconfig
        history := .start cc.runtimeStat.status 0 :: cc.history } := by
      simp [ContainerConfig.view, hs, hl, ht, hw, hname, hrole, hh]
    rw [e]
    exact .launched h _ _ (by simp [hbc, ContainerConfig.view]) hm

/-! ### Workers -/

@[simp] lemma containerCleanup_workqueue (sys : CleanupSys) (cc : ContainerConfig) (t : ℤ) :
    (containerCleanup sys cc t).workqueue = cc.workqueue := rfl

/-- A cleanup releases the instance and unmounts the disks. -/
lemma containerCleanup_view (s : SystemState) (sys : CleanupSys) (cc : ContainerConfig) (t : ℤ) :
    (containerCleanup sys cc t).view s = { cc.view s with
      lxc := none, base := (containerCleanup sys cc t).baseconfig } := rfl

lemma containerCleanup_lifecycle (sys : CleanupSys) (cc : ContainerConfig) (t : ℤ) :
    (containerCleanup sys cc t).baseconfig.lifecycle = cc.baseconfig.lifecycle := by
  simp [containerCleanup, containerCleanupDelayedOperation, containerTerminate,
    containerNetifRemoveElement, lxcutilReleaseInstance]

lemma execRunWorkerGuest_move (sys : RunWorkerSys) (cc : ContainerConfig)
    (h : cc.runtimeStat.status = .notStarted) :
    LifeMove R (cc.view .run) ((execRunWorkerGuest sys cc).view .run) := by
  have hb := containerCleanup_lifecycle sys.cleanup cc 200
  have hu := containerCleanup_unmounted sys.cleanup cc 200
  by_cases hw : cc.workqueue.status = .scheduled
  · rcases containerWorkqueueRun_scheduled sys.pthreadCreate hw with ⟨h0, hs, ha⟩ | ⟨h3, hwq⟩
    · have e : (execRunWorkerGuest sys cc).view .run = { cc.view .run with
          status := .runWorker
          lxc := none
          base := (containerCleanup sys.cleanup cc 200).baseconfig
          worker := .started
          thread := (containerWorkqueueRun sys.pthreadCreate cc.workqueue).1.thread } := by
        simp [execRunWorkerGuest, containerWorkqueueGetStatus, hw, h0, ContainerConfig.view,
          ContainerConfig.setStatus, hs, ha, containerCleanup_workqueue]
        exact ⟨rfl, rfl, rfl⟩
      rw [e]
      exact .workerStarted rfl h hw _ hb hu _
    · obtain ⟨hrs, hr0, hra⟩ := containerWorkqueueRemove_scheduled sys.delete hw
      have e : (execRunWorkerGuest sys cc).view .run = { cc.view .run with
          status := statusAfterExecute cc.workqueue.stateAfterExecute
          lxc := none
          base := (containerCleanup sys.cleanup cc 200).baseconfig
          worker := .inactive
          after := 0 } := by
        simp [execRunWorkerGuest, containerWorkqueueGetStatus, hw, h3, hwq,
          containerWorkqueueCancel_scheduled sys.cancel hw, ContainerConfig.view,
          ContainerConfig.setStatus, hrs, hr0, hra, containerCleanup_workqueue]
        exact ⟨rfl, rfl, rfl⟩
      rw [e]
      exact .workerRemoved rfl h hw _ hb hu
  · have e : execRunWorkerGuest sys cc = containerCleanup sys.cleanup cc 200 := by
      simp [execRunWorkerGuest, containerWorkqueueGetStatus, hw]
    rw [e, containerCleanup_view]
    exact .cleaned rfl h hw _ hb hu

lemma execFinishWorkerGuest_move (delete : ℤ) (cc : ContainerConfig)
    (h : cc.runtimeStat.status = .runWorker) :
    LifeMove R (cc.view .run) ((execFinishWorkerGuest delete cc).view .run) := by
  by_cases hw : cc.workqueue.status = .completed
  · obtain ⟨hs, ha, hr⟩ := containerWorkqueueCleanup_completed delete hw
    have e : (execFinishWorkerGuest delete cc).view .run = { cc.view .run with
        status := statusAfterExecute (if cc.workqueue.stateAfterExecute = 1 then 1 else 0)
        worker := .inactive
        after := 0 } := by
      simp [execFinishWorkerGuest, containerWorkqueueGetStatus, hw, hr, hs, ha,
        ContainerConfig.view, ContainerConfig.setStatus]
    rw [e]
    exact .workerFinished rfl h hw
  · have e : execFinishWorkerGuest delete cc = cc := by
      simp [execFinishWorkerGuest, containerWorkqueueGetStatus, hw]
    rw [e]
    exact .idle

lemma execShutdownCheckGuest_move (delete : ℤ) (cc : ContainerConfig) :
    LifeMove R (cc.view .shutdown) ((execShutdownCheckGuest delete cc).view .shutdown) := by
  by_cases h : cc.runtimeStat.status = .runWorker
  · by_cases hw : cc.workqueue.status = .completed
    · obtain ⟨hs, ha, hr⟩ := containerWorkqueueCleanup_completed delete hw
      have e : (execShutdownCheckGuest delete cc).view .shutdown = { cc.view .shutdown with
          status := .exit, worker := .inactive, after := 0 } := by
        simp [execShutdownCheckGuest, h, hr, hs, ha, ContainerConfig.view,
          ContainerConfig.setStatus]
      rw [e]
      exact .workerExited rfl h hw
    · obtain ⟨hwq, hne⟩ := containerWorkqueueCleanup_of_ne delete hw
      have e : execShutdownCheckGuest delete cc = cc := by
        simp [execShutdownCheckGuest, h, hne, hwq]
      rw [e]
      exact .idle
  · have e : execShutdownCheckGuest delete cc = cc := by
      simp [execShutdownCheckGuest, h]
    rw [e]
    exact .idle

lemma guestWorkerDone_move (s : SystemState) (exec : ℤ) (cc : ContainerConfig) :
    LifeMove R (cc.view s) ((guestWorkerDone exec cc).view s) := by
  by_cases ht : cc.workqueue.thread = true
  · have e : (guestWorkerDone exec cc).view s =
        { cc.view s with worker := .completed, thread := false } := by
      simp [guestWorkerDone, ht, ContainerConfig.view, containerWorkqueueThread]
    rw [e]
    exact .workerCompleted ht
  · have e : guestWorkerDone exec cc = cc := by simp [guestWorkerDone, ht]
    rw [e]
    exact .idle

lemma testScheduleGuest_move (s : SystemState) (sys : PluginSys) (key : String)
    (cc : ContainerConfig) : LifeMove R (cc.view s) ((testScheduleGuest sys key cc).1.view s) := by
  rcases containerWorkqueueSchedule_cases cc.workqueue sys key cstrOptionDevice 1 with
    ⟨h0, hin, hs, ha⟩ | ⟨h0, hs, ha⟩
  · have e : (testScheduleGuest sys key cc).1.view s = { cc.view s with
        worker := .scheduled, after := 1, history := .scheduled :: cc.history } := by
      simp [testScheduleGuest, h0, ContainerConfig.view, ContainerConfig.record, hs, ha]
    rw [e]
    exact .scheduled hin
  · have e : (testScheduleGuest sys key cc).1.view s = cc.view s := by
      simp [testScheduleGuest, h0, ContainerConfig.view, hs, ha]
    rw [e]
    exact .idle

/-! ### Timeouts -/

lemma lxcutilContainerForcekill_frame (initPid : ℤ) (cc : ContainerConfig) :
    lxcutilContainerForcekill initPid cc = { cc with runtimeStat := { cc.runtimeStat with
      pid := (lxcutilContainerForcekill initPid cc).runtimeStat.pid } } := by
  simp only [lxcutilContainerForcekill, lxcutilGetInitPid]
  split
  · rfl
  · split_ifs <;> rfl

lemma lxcutilContainerForcekill_view (s : SystemState) (initPid : ℤ) (cc : ContainerConfig) :
    (lxcutilContainerForcekill initPid cc).view s = cc.view s := by
  rw [lxcutilContainerForcekill_frame]
  rfl

lemma timeoutKill_view (s : SystemState) (initPid now : ℤ) (cc : ContainerConfig)
    (status : ContainerStatus) :
    (timeoutKill initPid now cc status).view s = { cc.view s with
      status := status, lxc := none, history := .forcekill now :: cc.history } := by
  rw [timeoutKill, lxcutilContainerForcekill_frame]
  rfl

lemma execRunTimeoutGuest_move (initPid now : ℤ) (cc : ContainerConfig) :
    LifeMove R (cc.view .run) ((execRunTimeoutGuest initPid now cc).view .run) := by
  by_cases h : timedOut now cc
  · rw [execRunTimeoutGuest, if_pos h, timeoutKill_view]
    exact .killed now rfl h
  · rw [execRunTimeoutGuest, if_neg h]
    exact .idle

lemma execShutdownTimeoutGuest_move (initPid now : ℤ) (cc : ContainerConfig) :
    LifeMove R (cc.view .shutdown)
      ((execShutdownTimeoutGuest initPid now cc).view .shutdown) := by
  simp only [execShutdownTimeoutGuest]
  split_ifs with h hw
  · rw [timeoutKill_view]
    exact .killedAtShutdown now rfl h
  · exact .workerTimeout now rfl hw.1 hw.2
  · exact .idle

/-! ### Events -/

lemma containerExitedGuest_move (s : SystemState) (cc : ContainerConfig) :
    LifeMove R (cc.view s) ((containerExitedGuest s cc).1.view s) :=
  .exited

lemma containerNetifUpdateGuest_view (s : SystemState) (attach : ℕ → ℕ → Bool)
    (nllist : List NetworkInterfaceInfo) (cc : ContainerConfig) :
    (containerNetifUpdateGuest attach nllist cc).1.view s = cc.view s := by
  simp only [containerNetifUpdateGuest]
  split_ifs <;> rfl

lemma containerDoDelayedOperation_view (s : SystemState) (sys : DelayedSys)
    (cc : ContainerConfig) : (containerDoDelayedOperation sys cc).1.view s = cc.view s := by
  simp only [containerDoDelayedOperation]
  split_ifs <;> rfl

/-- Asking a started guest to stop: it is killed when the request fails. -/
lemma requestStop_effect (kind : RequestKind) (s s' : SystemState) (sys : RequestSys)
    (cc : ContainerConfig) (h : cc.runtimeStat.status = .started) :
    RequestEffect kind s (cc.view s')
      ((requestStop sys cc (kind.failedStatus s) (kind.acceptedStatus s)).view s) := by
  simp only [requestStop]
  split_ifs with hshut
  · have e : ((containerTerminate (lxcutilContainerForcekill sys.initPid cc)).setStatus
        (kind.failedStatus s)).view s =
          { cc.view s' with sys := s, status := kind.failedStatus s, lxc := none } := by
      rw [lxcutilContainerForcekill_frame]
      rfl
    rw [e]
    exact .failed h
  · have hl : cc.runtimeStat.lxc ≠ none := by
      intro hl
      simp [lxcutilContainerShutdown, hl] at hshut
    exact .accepted sys.now h hl

/-- A request that only sets a status that it may set. -/
lemma setStatus_effect {kind : RequestKind} {s s' : SystemState} {cc : ContainerConfig}
    {status : ContainerStatus} (h : cc.runtimeStat.status ≠ .started)
    (hs : kind.idleStatus s cc.runtimeStat.status = status) :
    RequestEffect kind s (cc.view s') ((cc.setStatus status).view s) := by
  subst hs
  exact .idle h

lemma containerRequestShutdownBody_effect (sys : RequestSys) (cc : ContainerConfig)
    (s s' : SystemState) :
    RequestEffect .shutdown s (cc.view s') ((containerRequestShutdownBody sys cc s).1.view s) := by
  have stop := requestStop_effect .shutdown s s' sys cc
  cases s <;> unfold containerRequestShutdownBody <;> dsimp only <;> split <;>
    rename_i h <;> first
    | exact stop h
    | exact .worker sys.now h rfl
    | exact setStatus_effect (by simp [h]) (by simp [h, RequestKind.idleStatus])

lemma containerRequestReboot_effect (sys : RequestSys) (cc : ContainerConfig)
    (s : SystemState) :
    RequestEffect .reboot s (cc.view s) ((containerRequestReboot sys cc s).1.view s) := by
  have stop := requestStop_effect .reboot s s sys cc
  cases s <;> unfold containerRequestReboot <;> dsimp only <;> split <;>
    rename_i h <;> first
    | exact stop h
    | exact .worker sys.now h rfl
    | exact setStatus_effect (by simp [h]) (by simp [h, RequestKind.idleStatus])

lemma containerRequestShutdown_move (sys : RequestSys) (cc : ContainerConfig)
    (s s' : SystemState) (hs : s = s' ∨ s = .shutdown) :
    LifeMove R (cc.view s') ((containerRequestShutdown sys cc s).1.view s) :=
  .requestShutdown s hs _ (containerRequestShutdownBody_effect sys cc s s') _

lemma containerRequestReboot_move (sys : RequestSys) (cc : ContainerConfig) (s : SystemState) :
    LifeMove R (cc.view s) ((containerRequestReboot sys cc s).1.view s) :=
  .requestReboot _ (containerRequestReboot_effect sys cc s)

/-! ### Role switches -/

lemma execDisableGuest_view (s : SystemState) (sys : CleanupSys) (cc : ContainerConfig) :
    (execDisableGuest sys cc).view s =
      (cc.view s).disabled (execDisableGuest sys cc).baseconfig := rfl

lemma execDisableGuest_lifecycle (sys : CleanupSys) (cc : ContainerConfig) :
    (execDisableGuest sys cc).baseconfig.lifecycle = cc.baseconfig.lifecycle :=
  containerCleanup_lifecycle sys ((cc.setStatus .disable).record .disabled) 0

lemma execDisableGuest_unmounted (sys : CleanupSys) (cc : ContainerConfig) :
    (execDisableGuest sys cc).baseconfig.Unmounted :=
  containerCleanup_unmounted _ _ _

@[simp] lemma enableGuest_view (s : SystemState) (cc : ContainerConfig) :
    (enableGuest cc).view s = (cc.view s).enabled := rfl

lemma enableGuest_startable (cc : ContainerConfig) : ((enableGuest cc).view .run).Startable :=
  ⟨rfl, Or.inr ⟨rfl, rfl⟩⟩

end ContainerManager

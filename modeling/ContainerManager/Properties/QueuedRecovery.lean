import ContainerManager.Properties.Consistency

/-!
# Queued recoveries

A recovery that a failed start queued is run by the next cyclic event when the guest is not started.
A dead guest is started again instead: as long as its disk cannot be mounted, the start fails and
the recovery that would repair the disk stays queued.
-/

namespace ContainerManager

open Containers

variable {n : ℕ}

/-! ### A start that meets the failing disk -/

/-- The mandatory disk `k` cannot be mounted, so the extra disk loop fails. -/
lemma containerStartPreprocessExtradisk_fails {abboot : ℤ} {sys : ℕ → ℕ → MountSys}
    {l : List ExtraDisk} {k : ℕ} {d : ExtraDisk} (hd : l[k]? = some d)
    (hf : d.Fails abboot (sys k)) (hm : d.redundancy ≠ .failover) :
    (containerStartPreprocessExtradisk abboot sys l).2.1 = -1 := by
  induction l generalizing sys k with
  | nil => simp at hd
  | cons e l ih =>
    cases k with
    | zero =>
      obtain rfl : e = d := by simpa using hd
      simp [containerStartPreprocessExtradisk, hf.1, not_le.mpr hf.2, hm]
    | succ k =>
      have next : (containerStartPreprocessExtradisk abboot (fun j => sys (j + 1)) l).2.1 = -1 :=
        ih (by simpa using hd) hf
      by_cases hmo : e.isMounted
      · simpa [containerStartPreprocessExtradisk, hmo] using next
      · by_cases hr : 0 ≤ (mountExtradisk (sys 0) e abboot).1
        · simpa [containerStartPreprocessExtradisk, hmo, hr] using next
        · by_cases hfo : e.redundancy = .failover
          · simpa [containerStartPreprocessExtradisk, hmo, hr, hfo] using next
          · simp [containerStartPreprocessExtradisk, hmo, hr, hfo]

lemma containerStartPreprocessBase_fails {sys : StartMountSys} {bc : BaseConfig} {k : ℕ}
    {d : ExtraDisk} (hd : bc.extradiskList[k]? = some d)
    (hf : d.Fails bc.abboot (sys.extradisk k)) (hm : d.redundancy ≠ .failover) :
    (containerStartPreprocessBase sys bc).2 = -1 := by
  have hloop := containerStartPreprocessExtradisk_fails hd hf hm
  simp only [containerStartPreprocessBase]
  split_ifs
  · exact hloop
  · rfl
  · exact hloop

/-- The start of a guest with a failing disk changes neither its status nor a queued worker. -/
lemma containerStart_of_fails (sys : StartSys) {cc : ContainerConfig} (hen : cc.Enabled) {k : ℕ}
    {d : ExtraDisk} (hd : cc.baseconfig.extradiskList[k]? = some d)
    (hf : d.Fails cc.baseconfig.abboot (sys.mount.extradisk k)) (hm : d.redundancy ≠ .failover)
    (hw : cc.workqueue.status ≠ .inactive) :
    (containerStart sys cc).1.runtimeStat = cc.runtimeStat ∧
      (containerStart sys cc).1.workqueue = cc.workqueue := by
  have hneg := containerStartPreprocessBase_fails hd hf hm
  simp [containerStart, containerStartBody, hen, hneg, containerStartPreprocessBaseRecovery,
    containerStartPreprocessRecovery_of_ne sys.plugin cc.workqueue hw, ContainerConfig.record]

/-! ### The cyclic event -/

/-- The workqueue is what the first loop of the run state leaves. -/
lemma execInternalEventRun_workqueue (sys : ExecSys n) (cs : Containers n) (i : Fin n) :
    ((execInternalEventRun sys cs).containers i).workqueue =
      ((execRunVisits sys.visit cs).containers i).workqueue := by
  have htimeout : ∀ initPid now (cc : ContainerConfig),
      (execRunTimeoutGuest initPid now cc).workqueue = cc.workqueue := by
    intro initPid now cc
    simp only [execRunTimeoutGuest, timeoutKill]
    rw [lxcutilContainerForcekill_frame]
    split_ifs <;> rfl
  have hdelayed : ∀ dsys (cc : ContainerConfig),
      (containerDoDelayedOperation dsys cc).1.workqueue = cc.workqueue := by
    intro dsys cc
    simp only [containerDoDelayedOperation]
    split_ifs <;> rfl
  rw [execInternalEventRun_containers, hdelayed, htimeout]

/-- In the run state, a failed start queued the recovery of the disk `k` of an active guest that has
no instance, and the recovery was not run yet. -/
structure RecoveryQueued (cs : Containers n) (i : Fin n) (k : ℕ) (d : ExtraDisk) : Prop where
  run : cs.sysState = .run
  active : cs.Active i
  down : (cs.containers i).runtimeStat.status = .dead ∨
    (cs.containers i).runtimeStat.status = .notStarted
  disk : (cs.containers i).baseconfig.extradiskList[k]? = some d
  key : d.redundancy = .fsck ∨ d.redundancy = .mkfs
  scheduled : (cs.containers i).workqueue.status = .scheduled
  object : ∃ key module id, recoveryKey d.redundancy = some key ∧
    containerWorkqueueGetPlugin key = some module ∧
    (cs.containers i).workqueue.object = some ⟨id, module, some (recoveryOption d)⟩

/-- A start of the dead guest fails, and leaves the recovery queued. -/
lemma RecoveryQueued.dead_visit {cs : Containers n} {i : Fin n} {k : ℕ} {d : ExtraDisk}
    (h : RecoveryQueued cs i k d) (hd : (cs.containers i).runtimeStat.status = .dead)
    {visit : VisitSys}
    (hf : d.Fails (cs.containers i).baseconfig.abboot (visit.start.mount.extradisk k))
    {s : Containers n} (hi : s.containers i = cs.containers i) :
    ((execRunVisit visit s i).containers i).runtimeStat.status = .dead ∧
      ((execRunVisit visit s i).containers i).workqueue.status = .scheduled := by
  have hen : (cs.containers i).Enabled := by simp [ContainerConfig.Enabled, hd]
  have hm : d.redundancy ≠ .failover := by
    rcases h.key with e | e <;> simp [e]
  obtain ⟨hrs, hwq⟩ := containerStart_of_fails visit.start hen h.disk hf hm (by simp [h.scheduled])
  have e : execRunVisit visit s i = startAndNotify visit s i := by
    simp [execRunVisit, hi, hd]
  have hv : (startAndNotify visit s i).views i =
      (containerStart visit.start (cs.containers i)).1.view s.sysState := by
    rw [startAndNotify_views, startGuest_views, Function.update_self, hi]
  have hst : ((startAndNotify visit s i).views i).status = .dead := by
    rw [hv]
    simp [hrs, hd]
  have hwo : ((startAndNotify visit s i).views i).worker = .scheduled := by
    rw [hv]
    simp [ContainerConfig.view, hwq, h.scheduled]
  rw [e]
  exact ⟨hst, hwo⟩

/-- The visit of the not started guest runs the recovery, or removes it. -/
lemma RecoveryQueued.notStarted_visit {cs : Containers n} {i : Fin n} {k : ℕ} {d : ExtraDisk}
    (h : RecoveryQueued cs i k d) (hn : (cs.containers i).runtimeStat.status = .notStarted)
    (visit : VisitSys) {s : Containers n} (hl : s.roleList = cs.roleList)
    (hi : s.containers i = cs.containers i) :
    ((execRunVisit visit s i).containers i).Enabled ∧
      (((execRunVisit visit s i).containers i).workqueue.status = .started ∨
        ((execRunVisit visit s i).containers i).workqueue.status = .inactive) := by
  have ha : containerGetActiveGuestByRole s.roleList (cs.containers i).role = some i := by
    rw [hl]
    exact h.active
  have e : (execRunVisit visit s i).containers i =
      execRunWorkerGuest visit.worker (cs.containers i) := by
    simp [execRunVisit, hi, hn, ha]
  have hm := execRunWorkerGuest_move (R := False) visit.worker (cs.containers i) hn
  rw [e]
  constructor
  · intro hdis
    simpa [hn] using hm.status_disable.mp hdis
  · rcases containerWorkqueueRun_scheduled visit.worker.pthreadCreate h.scheduled with
      ⟨h0, hs, -⟩ | ⟨h3, hwq⟩
    · left
      simp [execRunWorkerGuest, containerWorkqueueGetStatus, h.scheduled, h0,
        ContainerConfig.setStatus, hs]
    · right
      obtain ⟨hrs, hr0, -⟩ := containerWorkqueueRemove_scheduled visit.worker.delete h.scheduled
      simp [execRunWorkerGuest, containerWorkqueueGetStatus, h.scheduled, h3, hwq,
        containerWorkqueueCancel_scheduled visit.worker.cancel h.scheduled,
        ContainerConfig.setStatus, hrs]

theorem recovery_run_iff {cs : Containers n} (hcs : Reachable cs) {i : Fin n} {k : ℕ}
    {d : ExtraDisk} (h : RecoveryQueued cs i k d) {sys : ExecSys n}
    (hf : d.Fails (cs.containers i).baseconfig.abboot ((sys.visit i).start.mount.extradisk k)) :
    (((containerExecInternalEvent sys cs).containers i).workqueue.status = .started ∨
        ((containerExecInternalEvent sys cs).containers i).workqueue.status = .inactive) ↔
      (cs.containers i).runtimeStat.status = .notStarted := by
  have hex := hcs.roleExclusion
  have hexec : containerExecInternalEvent sys cs = execInternalEventRun sys cs := by
    simp [containerExecInternalEvent, h.run]
  rw [hexec, execInternalEventRun_workqueue]
  rcases h.down with hd | hn
  · have hen : (cs.containers i).Enabled := by simp [ContainerConfig.Enabled, hd]
    have hq := execRunVisits_at sys.visit hex h.run hen
      (Q := fun cc => cc.runtimeStat.status = .dead ∧ cc.workqueue.status = .scheduled)
      (fun cc hq => by simp [ContainerConfig.Enabled, hq.1])
      (fun s _ _ hi => h.dead_visit hd hf hi)
    simp [hq.2, hd]
  · have hen : (cs.containers i).Enabled := by simp [ContainerConfig.Enabled, hn]
    have hq := execRunVisits_at sys.visit hex h.run hen
      (Q := fun cc => cc.Enabled ∧ (cc.workqueue.status = .started ∨
        cc.workqueue.status = .inactive))
      (fun cc hq => hq.1) (fun s _ hl hi => h.notStarted_visit hn (sys.visit i) hl hi)
    exact ⟨fun _ => hn, fun _ => hq.2⟩

/-- The disk of the guest after its mount failed. -/
def failedDisk (errorCount : ℕ) : ExtraDisk := { fsckDisk with errorCount := errorCount }

/-- A cyclic event in which no start can mount an extra disk. -/
def execDiskFails : ExecSys 1 := { execOk 0 with visit := fun _ => visitDiskFails }

lemma failedDisk_fails (errorCount : ℕ) :
    (failedDisk errorCount).Fails 0 ((execDiskFails.visit 0).start.mount.extradisk 0) := by
  refine ⟨rfl, ?_⟩
  show (mountExtradisk (visitDiskFails.start.mount.extradisk 0) fsckDisk 0).1 < 0
  decide

/-- The recovery that was queued at the start of the guest is run. -/
theorem recovery_run_iff_cluster :
    ((containerExecInternalEvent execDiskFails clusterBooted).containers 0).workqueue.status =
        .started ∨
      ((containerExecInternalEvent execDiskFails clusterBooted).containers 0).workqueue.status =
        .inactive := by
  have h : RecoveryQueued clusterBooted 0 0 (failedDisk 1) :=
    ⟨by decide, by unfold Active; decide, by decide, by decide, by decide, by decide,
      "fsck", "cm-worker-fsck.so", 0, by decide, by decide, by decide⟩
  have hf : (failedDisk 1).Fails (clusterBooted.containers 0).baseconfig.abboot
      ((execDiskFails.visit 0).start.mount.extradisk 0) := failedDisk_fails 1
  exact (recovery_run_iff clusterBooted_reachable h hf).mpr (by decide)

/-- The recovery is run, and the disk cannot be mounted afterwards either. -/
def clusterDead : Containers 1 :=
  Transition.run step clusterBooted
    [.message .timerTick (messageOk 0), .guestWorker 0 0, .message .timerTick (messageOk 0),
      .message .timerTick { messageOk 0 with exec := execDiskFails }]

/-- A second recovery is queued, but the dead guest is only started again. -/
theorem clusterDead_not_recovered :
    Reachable clusterDead ∧ RecoveryQueued clusterDead 0 0 (failedDisk 2) ∧
      (failedDisk 2).Fails 0 ((execDiskFails.visit 0).start.mount.extradisk 0) ∧
      ((containerExecInternalEvent execDiskFails clusterDead).containers 0).workqueue.status =
        .scheduled := by
  refine ⟨clusterBooted_reachable.run _, ?_, failedDisk_fails 2, by decide⟩
  exact ⟨by decide, by unfold Active; decide, by decide, by decide, by decide, by decide,
    "fsck", "cm-worker-fsck.so", 1, by decide, by decide, by decide⟩

end ContainerManager

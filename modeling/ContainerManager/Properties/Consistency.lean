import ContainerManager.Refinement.Boot

/-!
# Runtime consistency

The status of a guest, its instance, its disks and its workqueue agree in every reachable state. The
four facts are proved together: that no start happens beside a running worker follows from the last
one, and the last one needs to know that a worker's thread ends a started worker.
-/

namespace ContainerManager

open Containers

variable {n : ℕ}

/-- The statuses of a guest that has an instance. -/
def ContainerStatus.Up (status : ContainerStatus) : Prop :=
  status = .started ∨ status = .reboot ∨ status = .shutdown

/-- A worker was queued and not yet cleaned up. -/
def WorkerStatus.Pending (worker : WorkerStatus) : Prop :=
  worker = .scheduled ∨ worker = .started ∨ worker = .completed

/-! ### Statuses -/

lemma RequestKind.idleStatus_up (kind : RequestKind) (s : SystemState) {status : ContainerStatus}
    (h : status ≠ .started) : (kind.idleStatus s status).Up ↔ status.Up := by
  cases kind <;> cases s <;> cases status <;>
    simp_all [RequestKind.idleStatus, ContainerStatus.Up]

lemma RequestKind.idleStatus_runWorker (kind : RequestKind) (s : SystemState)
    (status : ContainerStatus) : kind.idleStatus s status = .runWorker ↔ status = .runWorker := by
  cases kind <;> cases s <;> cases status <;> simp [RequestKind.idleStatus]

lemma statusAfterExecute_not_up (after : ℤ) : ¬ (statusAfterExecute after).Up := by
  rcases statusAfterExecute_cases after with ⟨h, -⟩ | ⟨h, -⟩ <;> simp [h, ContainerStatus.Up]

lemma statusAfterExecute_ne_runWorker (after : ℤ) : statusAfterExecute after ≠ .runWorker := by
  rcases statusAfterExecute_cases after with ⟨h, -⟩ | ⟨h, -⟩ <;> simp [h]

lemma exitedStatus_not_up (s : SystemState) (status : ContainerStatus) :
    ¬ (exitedStatus s status).1.Up := by
  cases s <;> cases status <;> simp [exitedStatus, ContainerStatus.Up]

lemma exitedStatus_run_runWorker (status : ContainerStatus) :
    (exitedStatus .run status).1 = .runWorker ↔ status = .runWorker := by
  cases status <;> simp [exitedStatus]

/-! ### The invariant -/

namespace GuestView

/-- The status, the instance, the disks and the workqueue agree. -/
structure Consistent (v : GuestView) : Prop where
  lxc : v.lxc ≠ none ↔ v.status.Up
  mounted : v.status.Up → v.base.MandatoryMounted
  unmounted : v.worker = .started → v.lxc = none ∧ v.base.Unmounted
  runWorker : v.sys = .run →
    (v.status = .runWorker ↔ v.worker = .started ∨ v.worker = .completed)
  thread : v.thread = true → v.worker = .started
  after : v.worker.Pending → v.after = 1

variable {R : Prop} {v w : GuestView}

/-- No worker runs beside a start. -/
lemma Consistent.not_working (h : v.Consistent) (hs : v.sys = .run) (hr : v.status ≠ .runWorker) :
    v.worker ≠ .started ∧ v.worker ≠ .completed :=
  ⟨fun e => hr ((h.runWorker hs).mpr (Or.inl e)), fun e => hr ((h.runWorker hs).mpr (Or.inr e))⟩

lemma Startable.not_up (h : v.Startable) : ¬ v.status.Up := by
  rcases h.2 with h | ⟨h, -⟩ <;> simp [ContainerStatus.Up, h]

lemma Startable.not_runWorker (h : v.Startable) : v.status ≠ .runWorker := by
  rcases h.2 with h | ⟨h, -⟩ <;> simp [h]

lemma Consistent.lxc_none (h : v.Consistent) (hu : ¬ v.status.Up) : v.lxc = none := by
  by_contra hl
  exact hu (h.lxc.mp hl)

/-- The guest left its instance, and its worker is not touched. -/
lemma Consistent.down (h : v.Consistent) {status : ContainerStatus} (base : BaseConfig)
    (history : List GuestEvent) (hst : ¬ status.Up)
    (hb : v.worker = .started → base.Unmounted)
    (hr : v.sys = .run → (status = .runWorker ↔ v.status = .runWorker)) :
    Consistent { v with status := status, lxc := none, base := base, history := history } where
  lxc := by simp [hst]
  mounted hu := absurd hu hst
  unmounted hw := ⟨rfl, hb hw⟩
  runWorker hs := (hr hs).trans (h.runWorker hs)
  thread := h.thread
  after := h.after

lemma Consistent.request {kind : RequestKind} {s : SystemState} (h : v.Consistent)
    (hs : s = v.sys ∨ s = .shutdown) (he : RequestEffect kind s v w) : w.Consistent := by
  have hrun : s = .run → v.sys = .run := by
    rintro rfl
    simpa [eq_comm] using hs
  cases he with
  | idle hst =>
    refine ⟨?_, ?_, h.unmounted, ?_, h.thread, h.after⟩
    · rw [kind.idleStatus_up s hst]
      exact h.lxc
    · rw [kind.idleStatus_up s hst]
      exact h.mounted
    · intro hr
      rw [kind.idleStatus_runWorker]
      exact h.runWorker (hrun hr)
  | failed hst =>
    have hf : ¬ (kind.failedStatus s).Up ∧ kind.failedStatus s ≠ .runWorker := by
      cases kind <;> cases s <;> simp [RequestKind.failedStatus, ContainerStatus.Up]
    have hd := h.down v.base v.history hf.1 (fun hw => (h.unmounted hw).2)
      fun _ => by simp [hf.2, hst]
    exact ⟨hd.lxc, hd.mounted, hd.unmounted, fun hr => hd.runWorker (hrun hr), hd.thread, hd.after⟩
  | accepted now hst hl =>
    have ha : (kind.acceptedStatus s).Up ∧ kind.acceptedStatus s ≠ .runWorker := by
      cases kind <;> cases s <;> simp [RequestKind.acceptedStatus, ContainerStatus.Up]
    refine ⟨by simp [hl, ha.1], fun _ => h.mounted (Or.inl hst), h.unmounted, fun hr => ?_,
      h.thread, h.after⟩
    have hw := h.runWorker (hrun hr)
    simpa [hst, ha.2] using hw
  | worker now hst hs =>
    exact ⟨h.lxc, h.mounted, h.unmounted, fun hr => h.runWorker (hrun hr), h.thread, h.after⟩

/-- A guest whose worker ended and was cleaned up. -/
lemma Consistent.workerGone (h : v.Consistent) {status : ContainerStatus} (base : BaseConfig)
    (hst : ¬ status.Up) (hr : status ≠ .runWorker) (hw : v.worker ≠ .started) :
    Consistent { v with
      status := status, lxc := none, base := base, worker := .inactive, after := 0 } where
  lxc := by simp [hst]
  mounted hu := absurd hu hst
  unmounted := by simp
  runWorker _ := by simp [hr]
  thread ht := absurd (h.thread ht) hw
  after := by simp [WorkerStatus.Pending]

end GuestView

section Moves

variable {R : Prop} {v w : GuestView}

lemma LifeMove.consistent (hm : LifeMove R v w) (h : v.Consistent) : w.Consistent := by
  cases hm with
  | idle => exact h
  | mountFailed hst base worker after hb hw hR =>
    have hlxc := h.lxc_none hst.not_up
    have hnw := h.not_working hst.1 hst.not_runWorker
    rcases hw with ⟨rfl, rfl⟩ | ⟨hin, rfl, rfl⟩
    · exact ⟨h.lxc, fun hu => absurd hu hst.not_up, fun hw => absurd hw hnw.1, h.runWorker,
        h.thread, h.after⟩
    · refine ⟨h.lxc, fun hu => absurd hu hst.not_up, by simp, ?_, ?_, by simp⟩
      · intro hr
        simp [hst.not_runWorker]
      · intro ht
        simpa [hin] using h.thread ht
  | launchFailed hst base hb =>
    have hnw := h.not_working hst.1 hst.not_runWorker
    exact h.down base _ (by simp [ContainerStatus.Up]) (fun hw => absurd hw hnw.1)
      fun _ => by simp [hst.not_runWorker]
  | launched hst base lxc hb hmm =>
    have hnw := h.not_working hst.1 hst.not_runWorker
    exact ⟨by simp [ContainerStatus.Up], fun _ => hmm, fun hw => absurd hw hnw.1,
      fun _ => by simp [hnw], h.thread, h.after⟩
  | cleaned hs hst hw base hb hu =>
    exact h.down base v.history (by simp [hst, ContainerStatus.Up]) (fun _ => hu)
      fun _ => by simp
  | workerStarted hs hst hw base hb hu thread =>
    exact ⟨by simp [ContainerStatus.Up], by simp [ContainerStatus.Up], fun _ => ⟨rfl, hu⟩,
      by simp, fun _ => rfl, fun _ => h.after (Or.inl hw)⟩
  | workerRemoved hs hst hw base hb hu =>
    exact h.workerGone base (statusAfterExecute_not_up _) (statusAfterExecute_ne_runWorker _)
      (by simp [hw])
  | workerCompleted ht =>
    have hw := h.thread ht
    exact ⟨h.lxc, h.mounted, by simp, fun hr => by simpa [hw] using h.runWorker hr, by simp,
      fun _ => h.after (Or.inr (Or.inl hw))⟩
  | workerFinished hs hst hw =>
    have hlxc := h.lxc_none (by simp [hst, ContainerStatus.Up])
    have hg := h.workerGone v.base (statusAfterExecute_not_up (if v.after = 1 then 1 else 0))
      (statusAfterExecute_ne_runWorker _) (by simp [hw])
    rwa [← hlxc] at hg
  | workerExited hs hst hw =>
    have hlxc := h.lxc_none (by simp [hst, ContainerStatus.Up])
    have hup : ¬ ContainerStatus.exit.Up := by simp [ContainerStatus.Up]
    have hg := h.workerGone v.base hup (by simp) (by simp [hw])
    rwa [← hlxc] at hg
  | workerTimeout now hs hst ht =>
    have hlxc := h.lxc_none (by simp [hst, ContainerStatus.Up])
    exact ⟨by simp [hlxc, ContainerStatus.Up], by simp [ContainerStatus.Up], h.unmounted,
      by simp [hs], h.thread, h.after⟩
  | killed now hs ho =>
    have hst : ¬ (if v.status = .reboot then ContainerStatus.dead else .notStarted).Up ∧
        (if v.status = .reboot then ContainerStatus.dead else .notStarted) ≠ .runWorker := by
      split_ifs <;> simp [ContainerStatus.Up]
    refine h.down v.base _ hst.1 (fun hw => (h.unmounted hw).2) fun _ => ?_
    rcases ho.1 with h | h <;> simp [h]
  | killedAtShutdown now hs ho =>
    exact h.down v.base _ (by simp [ContainerStatus.Up]) (fun hw => (h.unmounted hw).2)
      (by simp [hs])
  | exited =>
    refine h.down v.base v.history (exitedStatus_not_up _ _) (fun hw => (h.unmounted hw).2)
      fun hs => ?_
    rw [hs, exitedStatus_run_runWorker]
  | requestShutdown s hs w he ret =>
    have hr := h.request hs he
    exact ⟨hr.lxc, hr.mounted, hr.unmounted, hr.runWorker, hr.thread, hr.after⟩
  | requestReboot w he => exact h.request (Or.inl rfl) he
  | scheduled hw =>
    refine ⟨h.lxc, h.mounted, by simp, ?_, ?_, by simp⟩
    · intro hr
      simpa [hw] using h.runWorker hr
    · intro ht
      simpa [hw] using h.thread ht

lemma LifeStep.consistent (hm : LifeStep R v w) (h : v.Consistent) : w.Consistent := by
  cases hm with
  | move hm => exact LifeMove.consistent hm h
  | disable hs hst base hb hu =>
    exact h.down base _ (by simp [ContainerStatus.Up]) (fun _ => hu) fun _ => by simp [hst]
  | enable hs hst =>
    have hlxc := h.lxc_none (by simp [hst, ContainerStatus.Up])
    refine ⟨by simp [GuestView.enabled, hlxc, ContainerStatus.Up],
      by simp [GuestView.enabled, ContainerStatus.Up],
      h.unmounted, fun hr => ?_, h.thread, h.after⟩
    simpa [GuestView.enabled, hst] using h.runWorker hr

end Moves

lemma Fresh.consistent {cc : ContainerConfig} (h : Fresh cc) : (cc.view .run).Consistent := by
  obtain ⟨mutexInit, hw⟩ := h.workqueue
  have hworker : cc.workqueue.status ≠ .scheduled ∧ cc.workqueue.status ≠ .started ∧
      cc.workqueue.status ≠ .completed ∧ cc.workqueue.thread = false := by
    rw [hw]
    simp only [containerWorkqueueInitialize]
    split_ifs <;> simp
  obtain ⟨hsch, hst, hco, hth⟩ := hworker
  constructor <;>
    simp_all [ContainerConfig.view, ContainerStatus.Up, WorkerStatus.Pending, h.status, h.lxc]

lemma Reachable.consistent {cs : Containers n} (h : Reachable cs) (i : Fin n) :
    (cs.views i).Consistent :=
  h.guest_invariant (fun _ => Fresh.consistent) (fun _ _ hm => hm.consistent) i

theorem reachable_consistent {cs : Containers n} (h : Reachable cs) (i : Fin n) :
    ((cs.containers i).runtimeStat.lxc ≠ none ↔
      (cs.containers i).runtimeStat.status = .started ∨
        (cs.containers i).runtimeStat.status = .reboot ∨
        (cs.containers i).runtimeStat.status = .shutdown) ∧
    ((cs.containers i).runtimeStat.status = .started ∨
        (cs.containers i).runtimeStat.status = .reboot ∨
        (cs.containers i).runtimeStat.status = .shutdown →
      (cs.containers i).baseconfig.rootfs.isMounted = true ∧
        ∀ d ∈ (cs.containers i).baseconfig.extradiskList,
          d.redundancy ≠ .failover → d.isMounted = true) ∧
    ((cs.containers i).workqueue.status = .started →
      (cs.containers i).runtimeStat.lxc = none ∧
        (cs.containers i).baseconfig.rootfs.isMounted = false ∧
        ∀ d ∈ (cs.containers i).baseconfig.extradiskList, d.isMounted = false) ∧
    (cs.sysState = .run →
      ((cs.containers i).runtimeStat.status = .runWorker ↔
        (cs.containers i).workqueue.status = .started ∨
          (cs.containers i).workqueue.status = .completed)) := by
  have hc := h.consistent i
  refine ⟨hc.lxc, ?_, ?_, hc.runWorker⟩
  · intro hu
    exact ⟨(hc.mounted hu).rootfs, (hc.mounted hu).extradisk⟩
  · intro hw
    have hu := hc.unmounted hw
    exact ⟨hu.1, hu.2.rootfs, hu.2.extradisk⟩

/-- While the check of the disk runs, the guest has no instance and the disk is not mounted. -/
theorem reachable_consistent_cluster :
    let cs := step clusterBooted (.message .timerTick (messageOk 0))
    (cs.containers 0).workqueue.status = .started ∧
      (cs.containers 0).runtimeStat.lxc = none ∧
      (cs.containers 0).baseconfig.rootfs.isMounted = false ∧
      ∀ d ∈ (cs.containers 0).baseconfig.extradiskList, d.isMounted = false :=
  ⟨by decide, (reachable_consistent (clusterBooted_reachable.step _) 0).2.2.1 (by decide)⟩

end ContainerManager

import ContainerManager.Control.Start

/-!
# What starting and cleaning up do

One inversion lemma for `containerStart`: its preprocess failed, its launch failed, or the guest is
started with all mandatory disks mounted. A cleanup leaves no disk flagged mounted and no instance.
-/

namespace ContainerManager

/-- The root file system and every extra disk that is not optional are flagged mounted. -/
structure BaseConfig.MandatoryMounted (bc : BaseConfig) : Prop where
  rootfs : bc.rootfs.isMounted = true
  extradisk : ∀ d ∈ bc.extradiskList, d.redundancy ≠ .failover → d.isMounted = true

/-- No disk is flagged mounted. -/
structure BaseConfig.Unmounted (bc : BaseConfig) : Prop where
  rootfs : bc.rootfs.isMounted = false
  extradisk : ∀ d ∈ bc.extradiskList, d.isMounted = false

/-! ### The preprocess -/

/-- The extra disk loop returns 0, with every mandatory disk mounted, or -1. -/
lemma containerStartPreprocessExtradisk_cases (abboot : ℤ) (sys : ℕ → ℕ → MountSys)
    (l : List ExtraDisk) :
    (containerStartPreprocessExtradisk abboot sys l).2.1 = 0 ∧
        (∀ d ∈ (containerStartPreprocessExtradisk abboot sys l).1,
          d.redundancy ≠ .failover → d.isMounted = true) ∨
      (containerStartPreprocessExtradisk abboot sys l).2.1 = -1 := by
  induction l generalizing sys with
  | nil => simp [containerStartPreprocessExtradisk]
  | cons d l ih =>
    have next := ih (fun k => sys (k + 1))
    by_cases hm : d.isMounted
    · simpa [containerStartPreprocessExtradisk, hm] using next
    · by_cases hr : 0 ≤ (mountExtradisk (sys 0) d abboot).1
      · simpa [containerStartPreprocessExtradisk, hm, hr] using next
      · by_cases hf : d.redundancy = .failover
        · simpa [containerStartPreprocessExtradisk, hm, hr, hf] using next
        · simp [containerStartPreprocessExtradisk, hm, hr, hf]

/-- The preprocess returns 0, with the mandatory disks mounted, or -1. -/
lemma containerStartPreprocessBase_cases (sys : StartMountSys) (bc : BaseConfig) :
    (containerStartPreprocessBase sys bc).2 = 0 ∧
        (containerStartPreprocessBase sys bc).1.MandatoryMounted ∨
      (containerStartPreprocessBase sys bc).2 = -1 := by
  have loop := containerStartPreprocessExtradisk_cases bc.abboot sys.extradisk bc.extradiskList
  simp only [containerStartPreprocessBase]
  by_cases hm : bc.rootfs.isMounted
  · rw [if_pos hm]
    rcases loop with ⟨h0, hd⟩ | h
    · exact Or.inl ⟨h0, hm, hd⟩
    · exact Or.inr h
  · rw [if_neg hm]
    by_cases hr :
        (containerStartPreprocessBaseDoMountRootfs sys.rootfs bc.rootfs bc.abboot).1 < 0
    · rw [if_pos hr]
      exact Or.inr rfl
    · rw [if_neg hr]
      rcases loop with ⟨h0, hd⟩ | h
      · exact Or.inl ⟨h0, rfl, hd⟩
      · exact Or.inr h

/-- The preprocess only touches the disks. -/
lemma containerStartPreprocessBase_frame (sys : StartMountSys) (bc : BaseConfig) :
    (containerStartPreprocessBase sys bc).1 =
      { bc with
        rootfs := (containerStartPreprocessBase sys bc).1.rootfs
        extradiskList := (containerStartPreprocessBase sys bc).1.extradiskList
        mountCalls := (containerStartPreprocessBase sys bc).1.mountCalls } := by
  simp only [containerStartPreprocessBase]
  by_cases hm : bc.rootfs.isMounted
  · simp [hm]
  · by_cases hr :
        (containerStartPreprocessBaseDoMountRootfs sys.rootfs bc.rootfs bc.abboot).1 < 0 <;>
      simp [hm, hr]

@[simp] lemma containerStartPreprocessBase_lifecycle (sys : StartMountSys) (bc : BaseConfig) :
    (containerStartPreprocessBase sys bc).1.lifecycle = bc.lifecycle := by
  rw [containerStartPreprocessBase_frame]

/-! ### The recovery -/

/-- A recovery queues a worker that restarts the guest on an inactive queue, or leaves the status of
the queue as it was. -/
lemma containerStartPreprocessRecovery_cases (sys : ℕ → PluginSys) (wq : Workqueue)
    (l : List ExtraDisk) :
    (wq.status = .inactive ∧ (containerStartPreprocessRecovery sys wq l).1.status = .scheduled ∧
        (containerStartPreprocessRecovery sys wq l).1.stateAfterExecute = 1) ∨
      (containerStartPreprocessRecovery sys wq l).1.status = wq.status ∧
        (containerStartPreprocessRecovery sys wq l).1.stateAfterExecute = wq.stateAfterExecute := by
  induction l generalizing sys wq with
  | nil => simp [containerStartPreprocessRecovery]
  | cons d l ih =>
    simp only [containerStartPreprocessRecovery]
    split_ifs with hd hfits
    · split
      · exact ih _ _
      · rename_i key hkey
        rcases containerWorkqueueSchedule_cases wq (sys 0) key (recoveryOption d) 1 with
          ⟨h0, hin, hs, ha⟩ | ⟨h0, hs, ha⟩
        · rw [if_pos h0]
          exact Or.inl ⟨hin, hs, ha⟩
        · rw [if_neg h0]
          rcases ih (fun k => sys (k + 1))
              (containerWorkqueueSchedule (sys 0) wq key (recoveryOption d) 1).1 with
            ⟨hin, hs', ha'⟩ | ⟨hs', ha'⟩
          · exact Or.inl ⟨hs ▸ hin, hs', ha'⟩
          · exact Or.inr ⟨hs'.trans hs, ha'.trans ha⟩
    · exact Or.inr ⟨rfl, rfl⟩
    · exact ih _ _

@[simp] lemma containerStartPreprocessRecovery_thread (sys : ℕ → PluginSys) (wq : Workqueue)
    (l : List ExtraDisk) :
    (containerStartPreprocessRecovery sys wq l).1.thread = wq.thread := by
  induction l generalizing sys wq with
  | nil => rfl
  | cons d l ih =>
    rw [containerStartPreprocessRecovery]
    split_ifs with hd hfits
    · split
      · exact ih _ _
      · dsimp only
        split_ifs
        · simp
        · simp [ih]
    · rfl
    · exact ih _ _

/-- A queued worker stays what it is. -/
lemma containerStartPreprocessRecovery_of_ne (sys : ℕ → PluginSys) (wq : Workqueue)
    (h : wq.status ≠ .inactive) (l : List ExtraDisk) :
    (containerStartPreprocessRecovery sys wq l).1 = wq := by
  induction l generalizing sys with
  | nil => rfl
  | cons d l ih =>
    simp only [containerStartPreprocessRecovery]
    split_ifs with hd hfits
    · split
      · exact ih _
      · simp [containerWorkqueueSchedule, h, ih]
    · rfl
    · exact ih _

/-! ### The start -/

/-- The three ways a start of an enabled guest ends. -/
inductive StartOutcome (sys : StartSys) (cc : ContainerConfig) : ContainerConfig × ℤ → Prop where
  /-- a mandatory disk could not be mounted: only the disks and the workqueue changed -/
  | mountFailed (bc : BaseConfig)
      (h : (containerStartPreprocessBase sys.mount cc.baseconfig).2 = -1)
      (hbc : bc = (containerStartPreprocessBase sys.mount cc.baseconfig).1) :
      StartOutcome sys cc
        ({ cc with
            baseconfig := bc
            workqueue := (containerStartPreprocessRecovery sys.plugin cc.workqueue
              bc.extradiskList).1
            history := .start cc.runtimeStat.status (-1) :: cc.history }, -1)
  /-- there is no instance, and the guest is dead -/
  | launchFailed (cc' : ContainerConfig) (hm : cc'.baseconfig.MandatoryMounted)
      (hbc : cc'.baseconfig = (containerStartPreprocessBase sys.mount cc.baseconfig).1)
      (hs : cc'.runtimeStat.status = .dead) (hl : cc'.runtimeStat.lxc = none)
      (hp : cc'.runtimeStat.pidfdSource = cc.runtimeStat.pidfdSource)
      (ht : cc'.runtimeStat.timeout = cc.runtimeStat.timeout)
      (hw : cc'.workqueue = cc.workqueue) (hn : cc'.launches = cc.launches)
      (hname : cc'.name = cc.name) (hrole : cc'.role = cc.role)
      (hh : cc'.history = .start cc.runtimeStat.status (-1) :: cc.history) :
      StartOutcome sys cc (cc', -1)
  /-- the guest runs as a new incarnation -/
  | launched (cc' : ContainerConfig) (hm : cc'.baseconfig.MandatoryMounted)
      (hbc : cc'.baseconfig = (containerStartPreprocessBase sys.mount cc.baseconfig).1)
      (hs : cc'.runtimeStat.status = .started)
      (hl : cc'.runtimeStat.lxc = some ⟨cc.launches + 1⟩)
      (hp : cc'.runtimeStat.pidfdSource = cc.runtimeStat.pidfdSource)
      (ht : cc'.runtimeStat.timeout = cc.runtimeStat.timeout)
      (hw : cc'.workqueue = cc.workqueue) (hn : cc'.launches = cc.launches + 1)
      (hname : cc'.name = cc.name) (hrole : cc'.role = cc.role)
      (hh : cc'.history = .start cc.runtimeStat.status 0 :: cc.history) :
      StartOutcome sys cc (cc', 0)

lemma containerStart_outcome (sys : StartSys) (cc : ContainerConfig) (h : cc.Enabled) :
    StartOutcome sys cc (containerStart sys cc) := by
  simp only [containerStart, containerStartBody]
  rw [if_neg h]
  rcases containerStartPreprocessBase_cases sys.mount cc.baseconfig with ⟨h0, hm⟩ | hneg
  · simp only [h0, containerSetupDelayedOperation, containerLaunch, lxcutilCreateInstance]
    by_cases hc : sys.create
    · by_cases hst : sys.start
      · simp only [hc, hst]
        exact .launched _ hm rfl rfl rfl rfl rfl rfl rfl rfl rfl rfl
      · simp only [hc, hst]
        exact .launchFailed _ hm rfl rfl rfl rfl rfl rfl rfl rfl rfl rfl
    · simp only [hc]
      exact .launchFailed _ hm rfl rfl rfl rfl rfl rfl rfl rfl rfl rfl
  · simp only [hneg]
    exact .mountFailed _ hneg rfl

/-! ### The cleanup -/

lemma containerCleanupPreprocessBase_unmounted (sys : CleanupSys) (bc : BaseConfig) (timeout : ℤ) :
    (containerCleanupPreprocessBase sys bc timeout).Unmounted := by
  have hdisk : ∀ (f : ℕ → ExtraDisk → ExtraDisk × List MountCall),
      (∀ k d, (f k d).1.isMounted = false) →
      ∀ d ∈ (bc.extradiskList.mapIdx f).map Prod.fst, d.isMounted = false := by
    intro f hf d hd
    obtain ⟨e, he, rfl⟩ := List.mem_map.mp hd
    obtain ⟨k, hk, rfl⟩ := List.mem_mapIdx.mp he
    exact hf _ _
  have hclean : ∀ s t r (d : ExtraDisk), (cleanupExtradisk s t r d).1.isMounted = false := by
    intro s t r d
    by_cases hm : d.isMounted <;> simp [cleanupExtradisk, hm]
  simp only [containerCleanupPreprocessBase]
  by_cases hm : bc.rootfs.isMounted
  · simp only [hm, if_true]
    exact ⟨rfl, hdisk _ fun _ _ => hclean _ _ _ _⟩
  · simp only [hm]
    exact ⟨by simpa using hm, hdisk _ fun _ _ => hclean _ _ _ _⟩

@[simp] lemma containerCleanupPreprocessBase_lifecycle (sys : CleanupSys) (bc : BaseConfig)
    (timeout : ℤ) : (containerCleanupPreprocessBase sys bc timeout).lifecycle = bc.lifecycle := by
  by_cases hm : bc.rootfs.isMounted <;> simp [containerCleanupPreprocessBase, hm]

@[simp] lemma containerTerminate_runtimeStat (cc : ContainerConfig) :
    (containerTerminate cc).runtimeStat = { cc.runtimeStat with lxc := none, pid := -1 } := rfl

@[simp] lemma containerCleanup_runtimeStat (sys : CleanupSys) (cc : ContainerConfig)
    (timeout : ℤ) : (containerCleanup sys cc timeout).runtimeStat =
      { cc.runtimeStat with lxc := none, pid := -1 } := rfl

lemma containerCleanup_unmounted (sys : CleanupSys) (cc : ContainerConfig) (timeout : ℤ) :
    (containerCleanup sys cc timeout).baseconfig.Unmounted :=
  containerCleanupPreprocessBase_unmounted _ _ _

end ContainerManager

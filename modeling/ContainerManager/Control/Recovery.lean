import ContainerManager.Control.StartProperties

/-!
# When a failed start queues a recovery

A start stops at the first mandatory mount that fails. The recovery scan then looks at every disk
that is not mounted and has an error: those the start tried, and those earlier starts left behind.
When one of them takes a recovery, and no option string before it is too long, a worker is
scheduled.
-/

namespace ContainerManager

/-- The recovery scan looks at the disk. -/
def ExtraDisk.LeftFailed (d : ExtraDisk) : Prop := d.isMounted = false ∧ 0 < d.errorCount

/-- The mount of the disk fails in this start. -/
def ExtraDisk.Fails (abboot : ℤ) (sys : ℕ → MountSys) (d : ExtraDisk) : Prop :=
  d.isMounted = false ∧ (mountExtradisk sys d abboot).1 < 0

/-- The mount of the root file system fails in this start. -/
def RootfsFails (sys : StartMountSys) (bc : BaseConfig) : Prop :=
  bc.rootfs.isMounted = false ∧
    (containerStartPreprocessBaseDoMountRootfs sys.rootfs bc.rootfs bc.abboot).1 < 0

/-- The disk `k` is the first mandatory one whose mount fails. -/
structure FirstFailure (abboot : ℤ) (sys : ℕ → ℕ → MountSys) (l : List ExtraDisk) (k : ℕ) :
    Prop where
  fails : ∃ d, l[k]? = some d ∧ d.Fails abboot (sys k) ∧ d.redundancy ≠ .failover
  first : ∀ j, j < k → ∀ d, l[j]? = some d → d.Fails abboot (sys j) → d.redundancy = .failover

/-- The start stops at a mandatory mount, after it tried the first `tried` extra disks. -/
def StopsAfter (sys : StartMountSys) (bc : BaseConfig) (tried : ℕ) : Prop :=
  RootfsFails sys bc ∧ tried = 0 ∨
    ¬ RootfsFails sys bc ∧
      ∃ k, FirstFailure bc.abboot sys.extradisk bc.extradiskList k ∧ tried = k + 1

/-- The recovery scan will look at the disk `k`: its mount failed now, or it was not tried now and
failed before. -/
def LeftFailedAt (abboot : ℤ) (sys : ℕ → ℕ → MountSys) (tried k : ℕ) (d : ExtraDisk) : Prop :=
  if k < tried then d.Fails abboot (sys k) else d.LeftFailed

/-- The recovery scan queues a worker for the disk `k`. -/
structure QueuesAt (sys : ℕ → PluginSys) (l : List ExtraDisk) (left : ℕ → ExtraDisk → Prop)
    (k : ℕ) : Prop where
  disk : ∃ d, l[k]? = some d ∧ left k d ∧ (recoveryKey d.redundancy).isSome
  plugin : (sys k).load = true ∧ (sys k).setArgs = 0
  fits : ∀ j, j ≤ k → ∀ d, l[j]? = some d → left j d → recoveryOptionFits d = true

/-- When this start fails to mount a mandatory disk, a worker is scheduled already or the recovery
scan queues one. -/
def StartRecovers (sys : StartSys) (cc : ContainerConfig) : Prop :=
  ∀ tried, StopsAfter sys.mount cc.baseconfig tried →
    cc.workqueue.status = .scheduled ∨
      cc.workqueue.status = .inactive ∧
        ∃ k, QueuesAt sys.plugin cc.baseconfig.extradiskList
          (LeftFailedAt cc.baseconfig.abboot sys.mount.extradisk tried) k

/-! ### The mounts -/

section Mounts

variable {abboot : ℤ} {sys : ℕ → ℕ → MountSys} {l : List ExtraDisk}

/-- What the extra disk loop leaves when it stops at the disk `k`: the same disks, of which the
recovery scan will look at those it says. -/
structure LeavesDisks (abboot : ℤ) (sys : ℕ → ℕ → MountSys) (tried : ℕ) (l l' : List ExtraDisk) :
    Prop where
  length : l'.length = l.length
  disk : ∀ j d, l[j]? = some d → ∃ d', l'[j]? = some d' ∧ d'.redundancy = d.redundancy ∧
    d'.blockdev = d.blockdev ∧ (d'.LeftFailed ↔ LeftFailedAt abboot sys tried j d)

/-- One more disk in front that does not stop the loop. -/
lemma FirstFailure.cons {d : ExtraDisk} {k : ℕ}
    (h : FirstFailure abboot (fun j => sys (j + 1)) l k)
    (hd : d.Fails abboot (sys 0) → d.redundancy = .failover) :
    FirstFailure abboot sys (d :: l) (k + 1) where
  fails := h.fails
  first j hj e he hf := by
    cases j with
    | zero =>
      obtain rfl : d = e := by simpa using he
      exact hd hf
    | succ j => exact h.first j (by omega) e (by simpa using he) hf

lemma LeavesDisks.cons {d d' : ExtraDisk} {tried : ℕ} {l' : List ExtraDisk}
    (h : LeavesDisks abboot (fun j => sys (j + 1)) tried l l')
    (hr : d'.redundancy = d.redundancy) (hb : d'.blockdev = d.blockdev)
    (hd : d'.LeftFailed ↔ d.Fails abboot (sys 0)) :
    LeavesDisks abboot sys (tried + 1) (d :: l) (d' :: l') := by
  refine ⟨by simp [h.length], ?_⟩
  intro j e he
  cases j with
  | zero =>
    obtain rfl : d = e := by simpa using he
    exact ⟨d', rfl, hr, hb, by simpa [LeftFailedAt] using hd⟩
  | succ j =>
    obtain ⟨e', he', hr', hb', hl⟩ := h.disk j e (by simpa using he)
    exact ⟨e', by simpa using he', hr', hb', by simpa [LeftFailedAt] using hl⟩

lemma LeavesDisks.mounted {d : ExtraDisk} {tried : ℕ} {l' : List ExtraDisk}
    (h : LeavesDisks abboot (fun j => sys (j + 1)) tried l l') (hd : ¬ d.Fails abboot (sys 0)) :
    LeavesDisks abboot sys (tried + 1) (d :: l)
      ({ d with isMounted := true, errorCount := 0 } :: l') :=
  h.cons rfl rfl (by simp [hd, ExtraDisk.LeftFailed])

lemma LeavesDisks.failed {d : ExtraDisk} {tried : ℕ} {l' : List ExtraDisk}
    (h : LeavesDisks abboot (fun j => sys (j + 1)) tried l l') (hd : d.Fails abboot (sys 0)) :
    LeavesDisks abboot sys (tried + 1) (d :: l) ({ d with errorCount := d.errorCount + 1 } :: l') :=
  h.cons rfl rfl (by simp [hd, ExtraDisk.LeftFailed, hd.1])

lemma containerStartPreprocessExtradisk_stops
    (h : (containerStartPreprocessExtradisk abboot sys l).2.1 = -1) :
    ∃ k, FirstFailure abboot sys l k ∧
      LeavesDisks abboot sys (k + 1) l (containerStartPreprocessExtradisk abboot sys l).1 := by
  induction l generalizing sys with
  | nil => simp [containerStartPreprocessExtradisk] at h
  | cons d l ih =>
    by_cases hm : d.isMounted
    · have hnf : ¬ d.Fails abboot (sys 0) := by simp [ExtraDisk.Fails, hm]
      obtain ⟨k, hk, hl⟩ := ih (by simpa [containerStartPreprocessExtradisk, hm] using h)
      refine ⟨k + 1, hk.cons fun hf => absurd hf hnf, ?_⟩
      have hd := hl.cons (d := d) rfl rfl (by simp [hnf, ExtraDisk.LeftFailed, hm])
      simpa [containerStartPreprocessExtradisk, hm] using hd
    · by_cases hr : 0 ≤ (mountExtradisk (sys 0) d abboot).1
      · have hnf : ¬ d.Fails abboot (sys 0) := by simp [ExtraDisk.Fails, hr]
        obtain ⟨k, hk, hl⟩ := ih (by simpa [containerStartPreprocessExtradisk, hm, hr] using h)
        refine ⟨k + 1, hk.cons fun hf => absurd hf hnf, ?_⟩
        have hd := hl.mounted hnf
        simpa [containerStartPreprocessExtradisk, hm, hr] using hd
      · have hf : d.Fails abboot (sys 0) := ⟨by simpa using hm, by omega⟩
        by_cases hfo : d.redundancy = .failover
        · obtain ⟨k, hk, hl⟩ := ih
            (by simpa [containerStartPreprocessExtradisk, hm, hr, hfo] using h)
          refine ⟨k + 1, hk.cons fun _ => hfo, ?_⟩
          have hd := hl.failed hf
          simpa [containerStartPreprocessExtradisk, hm, hr, hfo] using hd
        · refine ⟨0, ⟨⟨d, rfl, hf, hfo⟩, by simp⟩,
            by simp [containerStartPreprocessExtradisk, hm, hr, hfo], fun j e he => ?_⟩
          cases j with
          | zero =>
            obtain rfl : d = e := by simpa using he
            refine ⟨{ d with errorCount := d.errorCount + 1 }, ?_, rfl, rfl, ?_⟩
            · simp [containerStartPreprocessExtradisk, hm, hr, hfo]
            · simp [LeftFailedAt, hf, ExtraDisk.LeftFailed, hm]
          | succ j =>
            refine ⟨e, ?_, rfl, rfl, by simp [LeftFailedAt]⟩
            simpa [containerStartPreprocessExtradisk, hm, hr, hfo] using he

/-- A failed preprocess stopped at a mandatory mount. -/
lemma containerStartPreprocessBase_stops {sys : StartMountSys} {bc : BaseConfig}
    (h : (containerStartPreprocessBase sys bc).2 = -1) :
    ∃ tried, StopsAfter sys bc tried ∧ LeavesDisks bc.abboot sys.extradisk tried
      bc.extradiskList (containerStartPreprocessBase sys bc).1.extradiskList := by
  by_cases hf : RootfsFails sys bc
  · refine ⟨0, Or.inl ⟨hf, rfl⟩, by simp [containerStartPreprocessBase, hf.1, hf.2],
      fun j d hd => ⟨d, ?_, rfl, rfl, by simp [LeftFailedAt]⟩⟩
    simpa [containerStartPreprocessBase, hf.1, hf.2] using hd
  · have hsplit : bc.rootfs.isMounted = true ∨
        ¬ (containerStartPreprocessBaseDoMountRootfs sys.rootfs bc.rootfs bc.abboot).1 < 0 := by
      by_contra hn
      rw [not_or, not_not] at hn
      exact hf ⟨by simpa using hn.1, hn.2⟩
    have hloop : (containerStartPreprocessExtradisk bc.abboot sys.extradisk
          bc.extradiskList).2.1 = -1 ∧
        (containerStartPreprocessBase sys bc).1.extradiskList =
          (containerStartPreprocessExtradisk bc.abboot sys.extradisk bc.extradiskList).1 := by
      simp only [containerStartPreprocessBase] at h ⊢
      by_cases hm : bc.rootfs.isMounted = true
      · rw [if_pos hm] at h ⊢
        exact ⟨h, rfl⟩
      · have hr := hsplit.resolve_left hm
        simp only [hm, hr, if_false] at h ⊢
        exact ⟨h, rfl⟩
    obtain ⟨k, hk, hl⟩ := containerStartPreprocessExtradisk_stops hloop.1
    exact ⟨k + 1, Or.inr ⟨hf, k, hk, rfl⟩, hloop.2 ▸ hl⟩

end Mounts

/-! ### The recovery scan -/

/-- The keys of the recoveries are keys of plugins. -/
lemma recoveryKey_plugin {redundancy : DiskRedundancyType} {key : String}
    (h : recoveryKey redundancy = some key) :
    ∃ module, containerWorkqueueGetPlugin key = some module := by
  cases redundancy with
  | fsck =>
    obtain rfl : "fsck" = key := by simpa [recoveryKey] using h
    exact ⟨_, rfl⟩
  | mkfs =>
    obtain rfl : "mkfs" = key := by simpa [recoveryKey] using h
    exact ⟨_, rfl⟩
  | failover => simp [recoveryKey] at h
  | ab => simp [recoveryKey] at h

lemma containerStartPreprocessRecovery_queues {sys : ℕ → PluginSys} {wq : Workqueue}
    {l : List ExtraDisk} {k : ℕ} (hw : wq.status = .inactive)
    (h : QueuesAt sys l (fun _ d => d.LeftFailed) k) :
    (containerStartPreprocessRecovery sys wq l).1.status = .scheduled := by
  induction l generalizing sys wq k with
  | nil =>
    obtain ⟨d, hd, -⟩ := h.disk
    simp at hd
  | cons d l ih =>
    -- the scan goes on behind a disk that does not end it
    have next : ∀ wq' : Workqueue, wq'.status = .inactive → k ≠ 0 →
        (containerStartPreprocessRecovery (fun j => sys (j + 1)) wq' l).1.status = .scheduled := by
      intro wq' hw' hk
      obtain ⟨k, rfl⟩ := Nat.exists_eq_succ_of_ne_zero hk
      obtain ⟨e, he, hl, hkey⟩ := h.disk
      exact ih (k := k) hw' ⟨⟨e, by simpa using he, hl, hkey⟩, h.plugin,
        fun j hj e he => h.fits (j + 1) (by omega) e (by simpa using he)⟩
    simp only [containerStartPreprocessRecovery]
    by_cases hleft : ¬ d.isMounted ∧ 0 < d.errorCount
    · have hfits : recoveryOptionFits d = true :=
        h.fits 0 (by omega) d rfl ⟨by simpa using hleft.1, hleft.2⟩
      rw [if_pos hleft, if_neg (by simpa using hfits)]
      cases hkey : recoveryKey d.redundancy with
      | none =>
        apply next wq hw
        rintro rfl
        obtain ⟨e, he, -, hk⟩ := h.disk
        obtain rfl : d = e := by simpa using he
        simp [hkey] at hk
      | some key =>
        rcases containerWorkqueueSchedule_cases wq (sys 0) key (recoveryOption d) 1 with
          ⟨h0, -, hs, -⟩ | ⟨h0, hs, -⟩
        · simp only [h0, if_true]
          exact hs
        · simp only [h0, if_false]
          apply next _ (hs.trans hw)
          rintro rfl
          obtain ⟨module, hmod⟩ := recoveryKey_plugin hkey
          exact h0 (containerWorkqueueSchedule_eq_zero _ _ hw hmod h.plugin.1 h.plugin.2)
    · rw [if_neg hleft]
      apply next wq hw
      rintro rfl
      obtain ⟨e, he, hl, -⟩ := h.disk
      obtain rfl : d = e := by simpa using he
      exact hleft ⟨by simpa using hl.1, hl.2⟩

/-- A failed start that recovers leaves a scheduled worker. -/
lemma StartRecovers.scheduled {sys : StartSys} {cc : ContainerConfig} (h : StartRecovers sys cc)
    (hneg : (containerStartPreprocessBase sys.mount cc.baseconfig).2 = -1) :
    (containerStartPreprocessRecovery sys.plugin cc.workqueue
      (containerStartPreprocessBase sys.mount cc.baseconfig).1.extradiskList).1.status =
      .scheduled := by
  obtain ⟨tried, hstop, hl⟩ := containerStartPreprocessBase_stops hneg
  rcases h tried hstop with hw | ⟨hw, k, hk⟩
  · rw [containerStartPreprocessRecovery_of_ne _ _ (by simp [hw])]
    exact hw
  · refine containerStartPreprocessRecovery_queues (k := k) hw ⟨?_, hk.plugin, ?_⟩
    · obtain ⟨d, hd, hleft, hkey⟩ := hk.disk
      obtain ⟨d', hd', hr, -, hiff⟩ := hl.disk k d hd
      exact ⟨d', hd', hiff.mpr hleft, hr ▸ hkey⟩
    · intro j hj d' hd' hleft
      have hlt : j < cc.baseconfig.extradiskList.length := by
        rw [← hl.length]
        exact (List.getElem?_eq_some_iff.mp hd').1
      obtain ⟨d, hd⟩ : ∃ d, cc.baseconfig.extradiskList[j]? = some d :=
        ⟨_, List.getElem?_eq_getElem hlt⟩
      obtain ⟨e, he, -, hb, hiff⟩ := hl.disk j d hd
      obtain rfl : d' = e := Option.some.inj (hd'.symm.trans he)
      have hfits := hk.fits j hj d hd (hiff.mp hleft)
      simpa [recoveryOptionFits, recoveryOption, hb] using hfits

end ContainerManager

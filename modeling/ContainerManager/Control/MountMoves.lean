import ContainerManager.Control.MountBook

/-!
# The mount procedures on the book

Each mount procedure works on one mount point, and so do the steps of a start and of a cleanup.
-/

namespace ContainerManager

open Transition MountCall

/-! ### Mounting a device -/

/-- Calls on a mount point without mounts, that mount it or leave it. -/
structure MountsOn (path : Option String) (mounted : Prop) (calls : List MountCall) : Prop where
  target : ∀ a ∈ calls, a.target = path
  noRemount : ∀ a ∈ calls, ¬ a.FailedRemount
  done : mounted → run mountsAfter 0 calls = 1
  failed : ¬ mounted → run mountsAfter 0 calls = 0

namespace MountsOn

variable {path : Option String} {mounted mounted' : Prop} {calls calls' : List MountCall}

lemma congr (h : MountsOn path mounted calls) (hm : mounted ↔ mounted') :
    MountsOn path mounted' calls := propext hm ▸ h

lemma nil : MountsOn path False [] := ⟨by simp, by simp, False.elim, fun _ => rfl⟩

/-- After an attempt that failed, another one. -/
lemma append (h : MountsOn path False calls) (h' : MountsOn path mounted calls') :
    MountsOn path mounted (calls ++ calls') := by
  have hrun : run mountsAfter 0 (calls ++ calls') = run mountsAfter 0 calls' := by
    rw [run_append, h.failed not_false]
  constructor
  · exact fun a ha => (List.mem_append.mp ha).elim (h.target a) (h'.target a)
  · exact fun a ha => (List.mem_append.mp ha).elim (h.noRemount a) (h'.noRemount a)
  · exact fun hm => hrun.trans (h'.done hm)
  · exact fun hm => hrun.trans (h'.failed hm)

lemma pointMove {p : MountPoint} {flag : Bool} (h : MountsOn p.path (flag = true) calls)
    (hd : p.deviceType = .block) (hm : p.isMounted = false) :
    PointMove p { p with isMounted := flag } calls where
  path := rfl
  deviceType := rfl
  target := h.target
  ends a ha := h.noRemount a (List.mem_of_getLast? ha)
  mounts c hc _ := by
    have hrec : p.Recorded c := hc.2 hd
    obtain rfl : c = 0 := by simpa [MountPoint.Recorded, hm] using hrec
    have hrec' : MountPoint.Recorded { p with isMounted := flag } (run mountsAfter 0 calls) := by
      cases flag with
      | true => exact h.done rfl
      | false => exact h.failed Bool.false_ne_true
    exact ⟨⟨hrec'.ge, fun _ => hrec'⟩, iff_of_true hrec' ⟨hrec, isChain_undone h.noRemount⟩⟩

end MountsOn

lemma mountDevice_mountsOn (sys : MountSys) (dev : Option String) {a : MountArgs}
    (h : .remount ∉ a.mntflag) :
    MountsOn a.path ((mountDevice sys dev a).1 = true) (mountDevice sys dev a).2 := by
  obtain ⟨mount, umount2, remount⟩ := sys
  simp only [mountDevice]
  cases mount with
  | ok => constructor <;> simp [target, FailedRemount, mountsAfter, h]
  | error => constructor <;> simp [target, FailedRemount, mountsAfter, h]
  | ebusy =>
    cases umount2 with
    | ok => cases remount <;> constructor <;> simp [target, FailedRemount, mountsAfter, h]
    | ebusy => constructor <;> simp [target, FailedRemount, mountsAfter, h]
    | error => constructor <;> simp [target, FailedRemount, mountsAfter, h]

lemma mountDiskFailover_mountsOn (sys : ℕ → MountSys) (devs : BlockDev) {a : MountArgs}
    (h : .remount ∉ a.mntflag) :
    MountsOn a.path (0 ≤ (mountDiskFailover sys devs a).1) (mountDiskFailover sys devs a).2 := by
  have hfirst := mountDevice_mountsOn (sys 0) devs.1 h
  have hsecond := mountDevice_mountsOn (sys 1) devs.2 h
  simp only [mountDiskFailover]
  by_cases h1 : (mountDevice (sys 0) devs.1 a).1
  · rw [if_pos h1]
    exact hfirst.congr (iff_of_true h1 le_rfl)
  · rw [if_neg h1]
    refine ((hfirst.congr (iff_false_intro h1)).append hsecond).congr ?_
    split_ifs with h2 <;> simp [h2]

lemma mountDiskAb_mountsOn (sys : ℕ → MountSys) (devs : BlockDev) {a : MountArgs}
    (h : .remount ∉ a.mntflag) (side : ℤ) :
    MountsOn a.path (0 ≤ (mountDiskAb sys devs a side).1) (mountDiskAb sys devs a side).2 := by
  have hmount := mountDevice_mountsOn (sys 0) (if side = 0 then devs.1 else devs.2) h
  simp only [mountDiskAb]
  by_cases hside : side < 0 ∨ 2 ≤ side
  · rw [if_pos hside]
    exact MountsOn.nil.congr (by simp)
  · rw [if_neg hside]
    refine hmount.congr ?_
    dsimp only
    generalize (mountDevice (sys 0) (if side = 0 then devs.1 else devs.2) a).1 = mounted
    cases mounted <;> simp

lemma mountDiskOnce_mountsOn (sys : ℕ → MountSys) (devs : BlockDev) {a : MountArgs}
    (h : .remount ∉ a.mntflag) :
    MountsOn a.path (0 ≤ (mountDiskOnce sys devs a).1) (mountDiskOnce sys devs a).2 := by
  refine (mountDevice_mountsOn (sys 0) devs.1 h).congr ?_
  simp only [mountDiskOnce]
  cases (mountDevice (sys 0) devs.1 a).1 <;> simp

lemma mountExtradisk_mountsOn (sys : ℕ → MountSys) (exdisk : ExtraDisk) (abboot : ℤ) :
    MountsOn (some exdisk.mountFrom) (0 ≤ (mountExtradisk sys exdisk abboot).1)
      (mountExtradisk sys exdisk abboot).2 := by
  have hflag : .remount ∉ extradiskMntflag exdisk.mode := by
    cases exdisk.mode <;> simp [extradiskMntflag]
  simp only [mountExtradisk]
  split
  · exact mountDiskAb_mountsOn _ _ (a := ⟨_, _, _, _⟩) hflag _
  · exact mountDiskFailover_mountsOn _ _ (a := ⟨_, _, _, _⟩) hflag
  · exact mountDiskOnce_mountsOn _ _ (a := ⟨_, _, _, _⟩) hflag
  · exact mountDiskOnce_mountsOn _ _ (a := ⟨_, _, _, _⟩) hflag

/-! ### Binding a directory -/

/-- The ways a bind mount ends. -/
inductive BindOutcome (srcPath destPath : Option String) : ℤ × List MountCall → Prop where
  | failed (result : SysResult) (h : result ≠ .ok) :
      BindOutcome srcPath destPath (-1, [.mount srcPath destPath none [.bind] none result])
  | bound : BindOutcome srcPath destPath (0, [.mount srcPath destPath none [.bind] none .ok])
  | readOnly :
      BindOutcome srcPath destPath (0, [.mount srcPath destPath none [.bind] none .ok,
        .mount destPath destPath none [.remount, .bind, .rdonly] none .ok])
  /-- the directory is bound, but not read only -/
  | undone (result umount : SysResult) (h : result ≠ .ok) :
      BindOutcome srcPath destPath (-1, [.mount srcPath destPath none [.bind] none .ok,
        .mount destPath destPath none [.remount, .bind, .rdonly] none result,
        .umount destPath umount])

lemma mountDiskBind_outcome (sys : MountSys) (srcPath destPath : Option String)
    (isReadOnly : Bool) :
    BindOutcome srcPath destPath (mountDiskBind sys srcPath destPath isReadOnly) := by
  simp only [mountDiskBind]
  split_ifs with hmount hro hremount
  · exact .failed _ hmount
  · exact .undone _ _ hremount
  · exact .readOnly
  · exact .bound

/-- A bind mount whose remount failed stays when the `umount` after it fails. -/
lemma BindOutcome.pointMove {srcPath destPath : Option String} {r : ℤ × List MountCall}
    (o : BindOutcome srcPath destPath r) {flag : Bool} (h : flag = true ↔ 0 ≤ r.1) :
    PointMove ⟨destPath, .hostRootfilesystem, false⟩ ⟨destPath, .hostRootfilesystem, flag⟩ r.2 := by
  cases o with
  | failed result hr =>
    obtain rfl : flag = false := by simpa using h
    have hrun : ∀ c, run mountsAfter c [mount srcPath destPath none [.bind] none result] = c := by
      intro c
      cases result <;> first | exact absurd rfl hr | rfl
    constructor
    · rfl
    · rfl
    · simp
    · simp
    · intro c hc _
      rw [hrun]
      simp [MountPoint.Covered]
  | bound =>
    obtain rfl : flag = true := by simpa using h
    constructor
    · rfl
    · rfl
    · simp
    · simp
    · intro c hc _
      simp [MountPoint.Covered, MountPoint.Recorded]
  | readOnly =>
    obtain rfl : flag = true := by simpa using h
    constructor
    · rfl
    · rfl
    · simp
    · simp
    · intro c hc _
      simp [MountPoint.Covered, MountPoint.Recorded, Undone]
  | undone result umount hr =>
    obtain rfl : flag = false := by simpa using h
    constructor
    · rfl
    · rfl
    · simp
    · simp
    · intro c hc hk
      have hstays : mountsAfter (c + 1)
          (mount destPath destPath none [.remount, .bind, .rdonly] none result) = c + 1 := by
        cases result <;> rfl
      have hne : umount ≠ .error := by simpa [hstays] using hk
      cases umount with
      | ok => simp [MountPoint.Covered, MountPoint.Recorded, Undone, hstays, hr]
      | ebusy => simp [MountPoint.Covered, MountPoint.Recorded, Undone, hstays, hr]
      | error => exact absurd rfl hne

/-! ### Unmounting -/

/-- A retry unmounts what is mounted, or gives up while it is busy. -/
lemma unmountRetry_mounts {sys : UnmountSys} {path : Option String} {timeoutAt : ℤ} {count left : ℕ}
    {c : ℕ} (hc : 0 < c)
    (hk : Guarded mountsAfter Answered c (unmountRetry sys path timeoutAt count left).2) :
    run mountsAfter c (unmountRetry sys path timeoutAt count left).2 =
      if (unmountRetry sys path timeoutAt count left).1 then c - 1 else c := by
  induction left generalizing count with
  | zero => rfl
  | succ left ih =>
    rw [unmountRetry] at hk ⊢
    dsimp only at hk ⊢
    cases hu : sys.umount count with
    | ok => simp
    | error => simp [hu, hc] at hk
    | ebusy =>
      rw [hu] at hk
      dsimp only at hk ⊢
      by_cases ht : timeoutAt < sys.now count
      · simp [ht]
      · rw [if_neg ht] at hk ⊢
        exact ih hk.2

lemma unmountRetry_calls (sys : UnmountSys) (path : Option String) (timeoutAt : ℤ)
    (count left : ℕ) : ∀ a ∈ (unmountRetry sys path timeoutAt count left).2,
      ∃ result, a = .umount path result := by
  induction left generalizing count with
  | zero => simp [unmountRetry]
  | succ left ih =>
    rw [unmountRetry]
    dsimp only
    split
    · simp
    · simp
    · split_ifs
      · simp
      · simpa using ih (count + 1)

lemma unmountDisk_calls (sys : UnmountSys) (path : Option String) (timeoutAt : ℤ) (retryMax : ℕ) :
    ∀ a ∈ (unmountDisk sys path timeoutAt retryMax).2, a.target = path ∧ ¬ a.FailedRemount := by
  have hretry : ∀ a ∈ (unmountRetry sys path timeoutAt 0 retryMax).2,
      a.target = path ∧ ¬ a.FailedRemount := by
    intro a ha
    obtain ⟨result, rfl⟩ := unmountRetry_calls _ _ _ _ _ a ha
    simp
  intro a ha
  simp only [unmountDisk] at ha
  split_ifs at ha
  · exact hretry a ha
  · rcases List.mem_append.mp ha with ha | ha
    · exact hretry a ha
    · obtain rfl := List.mem_singleton.mp ha
      simp

/-- `unmount_disk` takes one mount away. -/
lemma unmountDisk_mounts {sys : UnmountSys} {path : Option String} {timeoutAt : ℤ} {retryMax c : ℕ}
    (hc : 0 < c) (hk : Guarded mountsAfter Answered c (unmountDisk sys path timeoutAt retryMax).2) :
    run mountsAfter c (unmountDisk sys path timeoutAt retryMax).2 = c - 1 := by
  simp only [unmountDisk] at hk ⊢
  by_cases hdone : (unmountRetry sys path timeoutAt 0 retryMax).1
  · rw [if_pos hdone] at hk ⊢
    rw [unmountRetry_mounts hc hk, if_pos hdone]
  · rw [if_neg hdone, guarded_append] at hk
    have hrun := unmountRetry_mounts hc hk.1
    rw [if_neg hdone] at hrun
    have hlazy : sys.umount2 = .ok := by
      have h2 := hk.2
      rw [hrun] at h2
      simpa [hc] using h2
    rw [if_neg hdone, run_append, hrun, hlazy]
    rfl

lemma unmountDisk_pointMove (sys : UnmountSys) (timeoutAt : ℤ) (retryMax : ℕ) {p : MountPoint}
    (hm : p.isMounted = true) :
    PointMove p { p with isMounted := false } (unmountDisk sys p.path timeoutAt retryMax).2 where
  path := rfl
  deviceType := rfl
  target a ha := (unmountDisk_calls _ _ _ _ a ha).1
  ends a ha := (unmountDisk_calls _ _ _ _ a (List.mem_of_getLast? ha)).2
  mounts c hc hk := by
    have hpos : 1 ≤ c := by simpa [hm] using hc.1
    have hchain := isChain_undone fun a ha =>
      (unmountDisk_calls sys p.path timeoutAt retryMax a ha).2
    rw [unmountDisk_mounts hpos hk]
    simp only [MountPoint.Covered, MountPoint.Recorded, hm, hchain] at hc ⊢
    refine ⟨⟨Nat.zero_le _, fun hd => ?_⟩, ?_⟩
    · have hone := hc.2 hd
      simp [hone]
    · simp
      omega

/-! ### The disks of a guest -/

lemma containerStartPreprocessBaseDoMountRootfs_pointMove (sys : MountSys) {cbr : RootFs} (side : ℤ)
    (hm : cbr.isMounted = false) {flag : Bool}
    (h : flag = true ↔ 0 ≤ (containerStartPreprocessBaseDoMountRootfs sys cbr side).1) :
    PointMove cbr.mountPoint { cbr.mountPoint with isMounted := flag }
      (containerStartPreprocessBaseDoMountRootfs sys cbr side).2 := by
  have hret : ∀ ret : ℤ, 0 ≤ (if ret < 0 then -1 else 0 : ℤ) ↔ 0 ≤ ret := by
    intro ret
    split_ifs <;> omega
  simp only [containerStartPreprocessBaseDoMountRootfs, hret] at h ⊢
  cases hd : cbr.deviceType with
  | block =>
    rw [hd] at h
    have hflag : .remount ∉ rootfsMntflag cbr.mode := by
      cases cbr.mode <;> simp [rootfsMntflag]
    have hmount := mountDiskAb_mountsOn (fun _ => sys) cbr.rootfsDev
      (a := ⟨cbr.path, cbr.filesystem, rootfsMntflag cbr.mode, cbr.option⟩) hflag side
    exact MountsOn.pointMove (p := cbr.mountPoint) (hmount.congr h.symm) hd hm
  | hostRootfilesystem =>
    rw [hd] at h
    have hbind := (mountDiskBind_outcome sys cbr.rootfsDev.1 cbr.path (cbr.mode = .ro)).pointMove h
    simpa [RootFs.mountPoint, hd, hm] using hbind

/-- The extra disk loop of a start works on one disk after the other. -/
lemma containerStartPreprocessExtradisk_steps (abboot : ℤ) (sys : ℕ → ℕ → MountSys)
    (l : List ExtraDisk) (pre : List MountPoint) (calls : List MountCall) :
    MountBook.Steps ⟨pre ++ l.map ExtraDisk.mountPoint, calls⟩
      ⟨pre ++ (containerStartPreprocessExtradisk abboot sys l).1.map ExtraDisk.mountPoint,
        calls ++ (containerStartPreprocessExtradisk abboot sys l).2.2⟩ := by
  induction l generalizing sys pre calls with
  | nil => simpa [containerStartPreprocessExtradisk] using Relation.ReflTransGen.refl
  | cons d l ih =>
    have hmount := mountExtradisk_mountsOn (sys 0) d abboot
    have next := fun (d' : ExtraDisk) seg =>
      ih (fun k => sys (k + 1)) (pre ++ [d'.mountPoint]) (calls ++ seg)
    simp only [List.append_assoc, List.singleton_append] at next
    by_cases hm : d.isMounted
    · simpa [containerStartPreprocessExtradisk, hm] using next d []
    · have hm : d.isMounted = false := by simpa using hm
      have move : ∀ flag : Bool, (flag = true ↔ 0 ≤ (mountExtradisk (sys 0) d abboot).1) →
          PointMove d.mountPoint { d.mountPoint with isMounted := flag }
            (mountExtradisk (sys 0) d abboot).2 := fun flag h =>
        MountsOn.pointMove (p := d.mountPoint) (hmount.congr h.symm) rfl hm
      by_cases hr : 0 ≤ (mountExtradisk (sys 0) d abboot).1
      · have hstep := MountBook.Step.point (move true (iff_of_true rfl hr)) pre
          (l.map ExtraDisk.mountPoint) calls
        have hrest := next { d with isMounted := true, errorCount := 0 }
          (mountExtradisk (sys 0) d abboot).2
        simpa [containerStartPreprocessExtradisk, hm, hr] using
          Relation.ReflTransGen.head hstep hrest
      · have hstep := MountBook.Step.point (move false (by simp [hr])) pre
          (l.map ExtraDisk.mountPoint) calls
        have hsame : { d.mountPoint with isMounted := false } =
            ExtraDisk.mountPoint { d with errorCount := d.errorCount + 1 } := by
          simp [ExtraDisk.mountPoint, hm]
        rw [hsame] at hstep
        by_cases hf : d.redundancy = .failover
        · have hrest := next { d with errorCount := d.errorCount + 1 }
            (mountExtradisk (sys 0) d abboot).2
          simpa [containerStartPreprocessExtradisk, hm, hr, hf] using
            Relation.ReflTransGen.head hstep hrest
        · simpa [containerStartPreprocessExtradisk, hm, hr, hf] using
            Relation.ReflTransGen.single hstep

lemma containerStartPreprocessBase_steps (sys : StartMountSys) (bc : BaseConfig) :
    MountBook.Steps bc.mountBook (containerStartPreprocessBase sys bc).1.mountBook := by
  have loop := fun (cbr : RootFs) calls => containerStartPreprocessExtradisk_steps bc.abboot
    sys.extradisk bc.extradiskList [cbr.mountPoint] calls
  simp only [List.singleton_append] at loop
  by_cases hm : bc.rootfs.isMounted
  · simpa [containerStartPreprocessBase, hm, BaseConfig.mountBook, BaseConfig.mountPoints] using
      loop bc.rootfs bc.mountCalls
  · have hm : bc.rootfs.isMounted = false := by simpa using hm
    let r := containerStartPreprocessBaseDoMountRootfs sys.rootfs bc.rootfs bc.abboot
    by_cases hr : r.1 < 0
    · have move := @containerStartPreprocessBaseDoMountRootfs_pointMove sys.rootfs bc.rootfs
        bc.abboot hm false (by simpa using hr)
      have hstep := MountBook.Step.point move [] (bc.extradiskList.map ExtraDisk.mountPoint)
        bc.mountCalls
      simpa [containerStartPreprocessBase, hm, hr, r, BaseConfig.mountBook, BaseConfig.mountPoints,
        RootFs.mountPoint] using Relation.ReflTransGen.single hstep
    · have move := @containerStartPreprocessBaseDoMountRootfs_pointMove sys.rootfs bc.rootfs
        bc.abboot hm true (by simpa using hr)
      have hstep := MountBook.Step.point move [] (bc.extradiskList.map ExtraDisk.mountPoint)
        bc.mountCalls
      have hrest := loop { bc.rootfs with isMounted := true, errorCount := 0 }
        (bc.mountCalls ++ r.2)
      simpa [containerStartPreprocessBase, hm, hr, r, BaseConfig.mountBook, BaseConfig.mountPoints,
        RootFs.mountPoint] using Relation.ReflTransGen.head hstep hrest

lemma cleanupExtradisk_steps (sys : ℕ → UnmountSys) (timeoutTime : ℤ) (retryMax : ℕ)
    (l : List ExtraDisk) (pre : List MountPoint) (calls : List MountCall) :
    MountBook.Steps ⟨pre ++ l.map ExtraDisk.mountPoint, calls⟩
      ⟨pre ++ (((l.mapIdx fun k d => cleanupExtradisk (sys k) timeoutTime retryMax d).map
          Prod.fst).map ExtraDisk.mountPoint),
        calls ++ (l.mapIdx fun k d => cleanupExtradisk (sys k) timeoutTime retryMax d).flatMap
          Prod.snd⟩ := by
  induction l generalizing sys pre calls with
  | nil => simpa using Relation.ReflTransGen.refl
  | cons d l ih =>
    have next := fun (d' : ExtraDisk) seg =>
      ih (fun k => sys (k + 1)) (pre ++ [d'.mountPoint]) (calls ++ seg)
    simp only [List.append_assoc, List.singleton_append] at next
    rw [List.mapIdx_cons]
    by_cases hm : d.isMounted
    · have move := unmountDisk_pointMove (sys 0) timeoutTime retryMax (p := d.mountPoint) hm
      have hstep := MountBook.Step.point move pre (l.map ExtraDisk.mountPoint) calls
      have hrest := next { d with isMounted := false, errorCount := 0 }
        (unmountDisk (sys 0) (some d.mountFrom) timeoutTime retryMax).2
      simpa [cleanupExtradisk, hm] using Relation.ReflTransGen.head hstep hrest
    · simpa [cleanupExtradisk, hm] using next d []

lemma containerCleanupPreprocessBase_steps (sys : CleanupSys) (bc : BaseConfig) (timeout : ℤ) :
    MountBook.Steps bc.mountBook (containerCleanupPreprocessBase sys bc timeout).mountBook := by
  have disks := fun time retryMax => cleanupExtradisk_steps sys.extradisk time retryMax
    bc.extradiskList [bc.rootfs.mountPoint] bc.mountCalls
  simp only [List.singleton_append] at disks
  by_cases hm : bc.rootfs.isMounted
  · have move := fun time retryMax =>
      unmountDisk_pointMove sys.rootfs time retryMax (p := bc.rootfs.mountPoint) hm
    have hrootfs := fun time retryMax post calls =>
      MountBook.Step.point (move time retryMax) [] post calls
    simp only [containerCleanupPreprocessBase, hm, if_true, BaseConfig.mountBook,
      BaseConfig.mountPoints]
    exact (disks _ _).tail (hrootfs _ _ _ _)
  · simp only [containerCleanupPreprocessBase, hm, BaseConfig.mountBook, BaseConfig.mountPoints]
    exact disks _ _

/-- A cleanup makes unmount calls only. -/
lemma containerCleanupPreprocessBase_calls (sys : CleanupSys) (bc : BaseConfig) (timeout : ℤ) :
    ∃ seg, (containerCleanupPreprocessBase sys bc timeout).mountCalls = bc.mountCalls ++ seg ∧
      ∀ a ∈ seg, ¬ a.FailedRemount := by
  have hdisks : ∀ time retryMax, ∀ a ∈ (bc.extradiskList.mapIdx fun k d =>
      cleanupExtradisk (sys.extradisk k) time retryMax d).flatMap Prod.snd,
        ¬ a.FailedRemount := by
    intro time retryMax a ha
    obtain ⟨r, hr, ha⟩ := List.mem_flatMap.mp ha
    obtain ⟨k, hk, rfl⟩ := List.mem_mapIdx.mp hr
    simp only [cleanupExtradisk] at ha
    split_ifs at ha
    · exact (unmountDisk_calls _ _ _ _ a ha).2
    · simp at ha
  simp only [containerCleanupPreprocessBase]
  generalize (if timeout < 0 then 0 else timeout) = timeoutLocal
  by_cases hm : bc.rootfs.isMounted
  · rw [if_pos hm]
    refine ⟨_, List.append_assoc _ _ _, ?_⟩
    intro a ha
    rcases List.mem_append.mp ha with ha | ha
    · exact hdisks _ _ a ha
    · exact (unmountDisk_calls _ _ _ _ a ha).2
  · rw [if_neg hm]
    exact ⟨_, rfl, hdisks _ _⟩

end ContainerManager

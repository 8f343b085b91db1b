import ContainerManager.Refinement.Mounts

/-!
# Guest disk mounts are balanced

The disks of all guests have distinct mount points and nothing is mounted before the first start.
The flag of every disk records the mounts of its mount point, in every state of every run, as long
as a bind mount that could not be made read only is unmounted: `mount_disk_bind` calls `umount` once
and does not look at the result, where `unmount_disk` retries and detaches the mount in the end.
-/

namespace ContainerManager

open Transition MountCall

variable {n : ℕ}

/-- The mount points of all guests. -/
def Containers.mountPoints (cs : Containers n) : List MountPoint :=
  (List.finRange n).flatMap fun i => (cs.containers i).baseconfig.mountPoints

/-- The mount and unmount calls for all guests, by guest. The order of calls on different mount
points is immaterial. -/
def Containers.mountCalls (cs : Containers n) : List MountCall :=
  (List.finRange n).flatMap fun i => (cs.containers i).baseconfig.mountCalls

/-- The root file systems and the extra disks of all guests have different mount points. -/
def Containers.PathsDistinct (cs : Containers n) : Prop :=
  (cs.mountPoints.map MountPoint.path).Nodup

instance (cs : Containers n) : Decidable cs.PathsDistinct :=
  inferInstanceAs (Decidable (List.Nodup _))

/-- Every mount point has one mount when its flag `is_mounted` is set, and none otherwise. -/
def Containers.MountsBalanced (cs : Containers n) : Prop :=
  ∀ p ∈ cs.mountPoints, mounts cs.mountCalls p.path = if p.isMounted then 1 else 0

/-- Every bind mount that could not be made read only was unmounted by the `umount` that
followed. -/
def Containers.RemountsUndone (cs : Containers n) : Prop :=
  ∀ i, (cs.containers i).baseconfig.mountCalls.IsChain Undone

/-! ### The guests together -/

section Guests

variable {cs₀ cs : Containers n} {i j : Fin n} {path : Option String}

lemma Containers.PathsDistinct.disjoint (h : cs.PathsDistinct) (hij : i ≠ j)
    (hi : path ∈ (cs.containers i).baseconfig.mountPoints.map MountPoint.path) :
    path ∉ (cs.containers j).baseconfig.mountPoints.map MountPoint.path := by
  rw [PathsDistinct, mountPoints, List.map_flatMap, List.nodup_flatMap] at h
  have hsymm : Std.Symm (Function.onFun List.Disjoint fun i =>
      (cs.containers i).baseconfig.mountPoints.map MountPoint.path) := ⟨fun _ _ h => h.symm⟩
  exact h.2.forall (List.mem_finRange i) (List.mem_finRange j) hij hi

/-- The books of all guests are well formed, and no two guests share a mount point. -/
structure Booked (cs : Containers n) : Prop where
  guest : ∀ i, (cs.containers i).baseconfig.mountBook.WellFormed
  distinct : cs.PathsDistinct

namespace Booked

/-- All calls on a mount point are calls for its guest. -/
lemma callsOn (h : Booked cs)
    (hp : path ∈ (cs.containers i).baseconfig.mountPoints.map MountPoint.path) :
    Counts.callsOn target path cs.mountCalls =
      Counts.callsOn target path (cs.containers i).baseconfig.mountCalls := by
  obtain ⟨pre, post, hsplit⟩ := List.append_of_mem (List.mem_finRange i)
  have hnd : (pre ++ i :: post).Nodup := hsplit ▸ List.nodup_finRange n
  have hi := (List.nodup_middle.mp hnd).notMem
  have hothers : ∀ l : List (Fin n), i ∉ l → Counts.callsOn target path
      (l.flatMap fun j => (cs.containers j).baseconfig.mountCalls) = [] := by
    intro l hl
    apply Counts.callsOn_of_forall_ne
    intro a ha he
    obtain ⟨j, hj, ha⟩ := List.mem_flatMap.mp ha
    have hij : i ≠ j := fun e => hl (e ▸ hj)
    exact h.distinct.disjoint hij hp (he ▸ (h.guest j).target a ha)
  rw [Containers.mountCalls, hsplit, List.flatMap_append, List.flatMap_cons, Counts.callsOn_append,
    Counts.callsOn_append, hothers pre fun hm => hi (List.mem_append_left _ hm),
    hothers post fun hm => hi (List.mem_append_right _ hm), List.nil_append, List.append_nil]

lemma mounts (h : Booked cs) {p : MountPoint} (hp : p ∈ (cs.containers i).baseconfig.mountPoints) :
    mounts cs.mountCalls p.path = mounts (cs.containers i).baseconfig.mountCalls p.path := by
  rw [mounts_eq, mounts_eq, h.callsOn (List.mem_map_of_mem hp)]

lemma kernelAnswers (h : Booked cs) (hk : KernelAnswers cs.mountCalls) (i : Fin n) :
    KernelAnswers (cs.containers i).baseconfig.mountCalls := by
  rw [kernelAnswers_iff] at hk ⊢
  intro path
  by_cases hp : path ∈ (cs.containers i).baseconfig.mountPoints.map MountPoint.path
  · rw [← h.callsOn hp]
    exact hk path
  · have hne : ∀ a ∈ (cs.containers i).baseconfig.mountCalls, a.target ≠ path := by
      intro a ha he
      exact hp (he ▸ (h.guest i).target a ha)
    rw [Counts.callsOn_of_forall_ne hne]
    trivial

lemma balanced_iff (h : Booked cs) :
    cs.MountsBalanced ↔ ∀ i, (cs.containers i).baseconfig.mountBook.Balanced := by
  constructor
  · intro hb i p hp
    rw [MountPoint.Recorded]
    show ContainerManager.mounts (cs.containers i).baseconfig.mountCalls p.path = _
    rw [← h.mounts hp]
    exact hb p (List.mem_flatMap.mpr ⟨i, List.mem_finRange i, hp⟩)
  · intro hb p hp
    obtain ⟨i, -, hp⟩ := List.mem_flatMap.mp hp
    rw [h.mounts hp]
    exact hb i p hp

end Booked

/-- The books of the guests of the configuration. -/
lemma Initial.books (h₀ : Initial cs₀) (hcalls : cs₀.mountCalls = []) (hd : cs₀.PathsDistinct)
    (i : Fin n) : (cs₀.containers i).baseconfig.mountBook.WellFormed ∧
      (cs₀.containers i).baseconfig.mountBook.Sound := by
  have hnil : (cs₀.containers i).baseconfig.mountCalls = [] :=
    List.flatMap_eq_nil_iff.mp hcalls i (List.mem_finRange i)
  have hunmounted := (h₀.guests i).unmounted
  rw [BaseConfig.mountBook, hnil]
  apply MountBook.initial
  · rw [Containers.PathsDistinct, Containers.mountPoints, List.map_flatMap,
      List.nodup_flatMap] at hd
    exact hd.1 i (List.mem_finRange i)
  · intro p hp
    rcases List.mem_cons.mp hp with rfl | hp
    · exact hunmounted.rootfs
    · obtain ⟨d, hd, rfl⟩ := List.mem_map.mp hp
      exact hunmounted.extradisk d hd

lemma booked_of_steps (h₀ : Initial cs₀) (hcalls : cs₀.mountCalls = []) (hd : cs₀.PathsDistinct)
    (h : ∀ i, MountBook.Steps (cs₀.containers i).baseconfig.mountBook
      (cs.containers i).baseconfig.mountBook) : Booked cs where
  guest i := MountBook.Steps.wellFormed (h i) (h₀.books hcalls hd i).1
  distinct := by
    have hpaths : ∀ i, (cs.containers i).baseconfig.mountPoints.map MountPoint.path =
        (cs₀.containers i).baseconfig.mountPoints.map MountPoint.path :=
      fun i => MountBook.Steps.paths (h i)
    simp only [Containers.PathsDistinct, Containers.mountPoints, List.map_flatMap, hpaths]
    simpa only [Containers.PathsDistinct, Containers.mountPoints, List.map_flatMap] using hd

/-- The mounts are balanced as long as every failed remount is undone, whatever moves the mount
points made. -/
lemma balanced_iff_of_steps (h₀ : Initial cs₀) (hcalls : cs₀.mountCalls = [])
    (hd : cs₀.PathsDistinct) (h : ∀ i, MountBook.Steps (cs₀.containers i).baseconfig.mountBook
      (cs.containers i).baseconfig.mountBook) (hk : KernelAnswers cs.mountCalls) :
    cs.MountsBalanced ↔ cs.RemountsUndone := by
  have hbooked := booked_of_steps h₀ hcalls hd h
  rw [hbooked.balanced_iff]
  apply forall_congr'
  intro i
  obtain ⟨hw, hs⟩ := h₀.books hcalls hd i
  exact (MountBook.Steps.sound (h i) (hbooked.kernelAnswers hk i) hw hs).balanced_iff

end Guests

/-! ### Termination -/

lemma terminate_baseconfig (sys : Fin n → CleanupSys) (cs : Containers n) (i : Fin n) :
    ((containerMngsmTerminate sys cs).containers i).baseconfig =
      containerCleanupPreprocessBase (sys i) (cs.containers i).baseconfig 500 := by
  rw [containerMngsmTerminate, Containers.forEachGuest_containers]
  rfl

lemma terminate_book (sys : Fin n → CleanupSys) (cs : Containers n) (i : Fin n) :
    MountBook.Steps (cs.containers i).baseconfig.mountBook
      ((containerMngsmTerminate sys cs).containers i).baseconfig.mountBook := by
  rw [terminate_baseconfig]
  exact containerCleanupPreprocessBase_steps _ _ _

/-- The termination makes no remount. -/
lemma terminate_remountsUndone {cs : Containers n} (h : Booked cs) (sys : Fin n → CleanupSys) :
    (containerMngsmTerminate sys cs).RemountsUndone ↔ cs.RemountsUndone := by
  apply forall_congr'
  intro i
  obtain ⟨seg, hcalls, hseg⟩ :=
    containerCleanupPreprocessBase_calls (sys i) (cs.containers i).baseconfig 500
  rw [terminate_baseconfig, hcalls, List.isChain_append]
  constructor
  · exact And.left
  · intro hc
    exact ⟨hc, isChain_undone hseg, fun a ha _ _ hf => absurd hf ((h.guest i).ends a ha)⟩

lemma terminate_isMounted (sys : Fin n → CleanupSys) (cs : Containers n) :
    ∀ p ∈ (containerMngsmTerminate sys cs).mountPoints, p.isMounted = false := by
  intro p hp
  obtain ⟨i, -, hp⟩ := List.mem_flatMap.mp hp
  have hunmounted :=
    containerCleanupPreprocessBase_unmounted (sys i) (cs.containers i).baseconfig 500
  rw [← terminate_baseconfig] at hunmounted
  rcases List.mem_cons.mp hp with rfl | hp
  · exact hunmounted.rootfs
  · obtain ⟨d, hd, rfl⟩ := List.mem_map.mp hp
    exact hunmounted.extradisk d hd

lemma terminate_paths (sys : Fin n → CleanupSys) (cs : Containers n) :
    (containerMngsmTerminate sys cs).mountPoints.map MountPoint.path =
      cs.mountPoints.map MountPoint.path := by
  have hpaths : ∀ i, ((containerMngsmTerminate sys cs).containers i).baseconfig.mountPoints.map
      MountPoint.path = (cs.containers i).baseconfig.mountPoints.map MountPoint.path :=
    fun i => MountBook.Steps.paths (terminate_book sys cs i)
  simp only [Containers.mountPoints, List.map_flatMap, hpaths]

/-! ### The property -/

/-- In every reachable state each mount point has the mounts its flag says exactly when every bind
mount that could not be made read only was unmounted; and then nothing is left mounted at the
end. -/
theorem mounts_balanced_iff {cs₀ cs : Containers n} (h₀ : Initial cs₀)
    (hcalls : cs₀.mountCalls = []) (hd : cs₀.PathsDistinct) (h : ReachableFrom cs₀ cs)
    (hk : KernelAnswers cs.mountCalls) :
    (cs.MountsBalanced ↔ cs.RemountsUndone) ∧
      ∀ sys, KernelAnswers (containerMngsmTerminate sys cs).mountCalls →
        ((∀ p ∈ cs.mountPoints, mounts (containerMngsmTerminate sys cs).mountCalls p.path = 0) ↔
          cs.RemountsUndone) := by
  have hsteps := fun i => h.book i
  constructor
  · exact balanced_iff_of_steps h₀ hcalls hd hsteps hk
  · intro sys hk'
    have hend := balanced_iff_of_steps h₀ hcalls hd
      (fun i => (hsteps i).trans (terminate_book sys cs i)) hk'
    rw [terminate_remountsUndone (booked_of_steps h₀ hcalls hd hsteps)] at hend
    have hzero : (containerMngsmTerminate sys cs).MountsBalanced ↔
        ∀ path ∈ (containerMngsmTerminate sys cs).mountPoints.map MountPoint.path,
          mounts (containerMngsmTerminate sys cs).mountCalls path = 0 := by
      rw [List.forall_mem_map]
      apply forall₂_congr
      intro p hp
      simp [terminate_isMounted sys cs p hp]
    rw [← hend, hzero, terminate_paths, List.forall_mem_map]

/-! ### A directory of the host -/

/-- A root file system that is a directory of the host, mounted read only. -/
def boundRootfs : RootFs where
  path := some "/opt/container/guests/rootfs"
  deviceType := .hostRootfilesystem
  rootfsDev := (some "/opt/container/rootfs", none)

/-- A single guest with this root file system. -/
def boundGuest (_ : Fin 1) : ContainerConfig :=
  freshGuest "cluster" "cluster" { autoboot := true, rootfs := boundRootfs }

/-- The guest after a start whose remount failed, given what the `umount` after it answered. -/
def boundBooted (umount : SysResult) : Containers 1 :=
  containerMngsmStart
    (fun _ => { visitOk with start := { startOk with mount :=
      ⟨⟨.ok, umount, .error⟩, fun _ _ => mountOk⟩ } })
    true (setupManager boundGuest [])

lemma boundGuest_initial : Initial (setupManager boundGuest []) :=
  setupManager_initial (fun _ => freshGuest_fresh _ _ ⟨rfl, by simp⟩) ⟨by simp, by simp, rfl, rfl⟩

lemma boundBooted_reachable (umount : SysResult) :
    ReachableFrom (setupManager boundGuest []) (boundBooted umount) :=
  .init ⟨_, _, .started⟩

/-- The calls of the start. -/
lemma boundBooted_mountCalls (umount : SysResult) (i : Fin 1) :
    ((boundBooted umount).containers i).baseconfig.mountCalls =
      [.mount (some "/opt/container/rootfs") boundRootfs.path none [.bind] none .ok,
        .mount boundRootfs.path boundRootfs.path none [.remount, .bind, .rdonly] none .error,
        .umount boundRootfs.path umount] := by
  obtain rfl : i = 0 := Subsingleton.elim _ _
  cases umount <;> rfl

lemma boundBooted_kernelAnswers {umount : SysResult} (h : umount ≠ .error) :
    KernelAnswers (boundBooted umount).mountCalls := by
  have hcalls : (boundBooted umount).mountCalls =
      ((boundBooted umount).containers 0).baseconfig.mountCalls := List.append_nil _
  rw [hcalls, boundBooted_mountCalls]
  simp [KernelAnswers, Counts.perform, h]

/-- Once unmounted, the root file system is as balanced as its flag says. -/
theorem mounts_balanced_bound :
    (boundBooted .ok).RemountsUndone ∧ (boundBooted .ok).MountsBalanced := by
  have hundone : (boundBooted .ok).RemountsUndone := by
    intro i
    rw [boundBooted_mountCalls]
    simp [Undone]
  exact ⟨hundone, (mounts_balanced_iff boundGuest_initial rfl (by decide)
    (boundBooted_reachable .ok) (boundBooted_kernelAnswers (by decide))).1.mpr hundone⟩

/-- When the `umount` finds the mount busy, the root file system stays mounted with its flag
cleared, and the termination does not unmount it either. -/
theorem bound_left_mounted :
    Initial (setupManager boundGuest []) ∧ (setupManager boundGuest []).mountCalls = [] ∧
      (setupManager boundGuest []).PathsDistinct ∧
      ReachableFrom (setupManager boundGuest []) (boundBooted .ebusy) ∧
      KernelAnswers (boundBooted .ebusy).mountCalls ∧ ¬ (boundBooted .ebusy).MountsBalanced ∧
      mounts (containerMngsmTerminate (fun _ => cleanupOk) (boundBooted .ebusy)).mountCalls
        boundRootfs.path = 1 := by
  refine ⟨boundGuest_initial, rfl, by decide, boundBooted_reachable _,
    boundBooted_kernelAnswers (by decide), ?_, ?_⟩
  · intro h
    have hrootfs := h boundRootfs.mountPoint (by decide)
    revert hrootfs
    decide
  · rfl

end ContainerManager

import ContainerManager.Control.StartProperties
import ContainerManager.Lib.Counts
import Mathlib.Data.List.Chain

/-!
# The mounts of the kernel and the flags of the manager

The kernel counts the mounts on every mount point, the manager keeps one flag `is_mounted` for each
disk. A book holds the flags next to the calls made so far. A start and a cleanup work on one disk
after the other, and each disk adds calls on its own mount point.
-/

namespace ContainerManager

open Transition

/-! ### The kernel -/

namespace MountCall

/-- The mount point a call works on. -/
def target : MountCall → Option String
  | mount _ target _ _ _ _ => target
  | umount target _ => target
  | umount2 target _ => target

/-- The mounts on the mount point after the call. A remount changes a mount and adds none. -/
def mountsAfter (mounts : ℕ) : MountCall → ℕ
  | mount _ _ _ mountflags _ .ok => if .remount ∈ mountflags then mounts else mounts + 1
  | umount _ .ok => mounts - 1
  | umount2 _ .ok => mounts - 1
  | _ => mounts

/-- What the kernel answers with this number of mounts on the mount point: `umount` of a mount only
fails with `EBUSY`, and a lazy unmount of a mount does not fail. -/
def Answered (mounts : ℕ) : MountCall → Prop
  | mount _ _ _ _ _ _ => True
  | umount _ result => 0 < mounts → result ≠ .error
  | umount2 _ result => 0 < mounts → result = .ok

/-- A remount that fails. -/
def FailedRemount : MountCall → Prop
  | mount _ _ _ mountflags _ result => .remount ∈ mountflags ∧ result ≠ .ok
  | _ => False

/-- An `umount` that succeeds. -/
def Unmounts : MountCall → Prop
  | umount _ result => result = .ok
  | _ => False

/-- A mount whose remount failed is unmounted by the next call. -/
def Undone (call next : MountCall) : Prop := call.FailedRemount → next.Unmounts

section

variable (source path fstype : Option String) (mountflags : List MountFlag) (data : Option String)
  (result : SysResult) (mounts : ℕ)

@[simp] lemma target_mount : (mount source path fstype mountflags data result).target = path := rfl

@[simp] lemma target_umount : (umount path result).target = path := rfl

@[simp] lemma target_umount2 : (umount2 path result).target = path := rfl

@[simp] lemma mountsAfter_mount :
    mountsAfter mounts (mount source path fstype mountflags data .ok) =
      if .remount ∈ mountflags then mounts else mounts + 1 := rfl

@[simp] lemma mountsAfter_umount : mountsAfter mounts (umount path .ok) = mounts - 1 := rfl

@[simp] lemma mountsAfter_umount_ebusy : mountsAfter mounts (umount path .ebusy) = mounts := rfl

@[simp] lemma answered_mount : Answered mounts (mount source path fstype mountflags data result) :=
  trivial

@[simp] lemma answered_umount :
    Answered mounts (umount path result) ↔ (0 < mounts → result ≠ .error) := Iff.rfl

@[simp] lemma answered_umount2 :
    Answered mounts (umount2 path result) ↔ (0 < mounts → result = .ok) := Iff.rfl

@[simp] lemma failedRemount_mount :
    (mount source path fstype mountflags data result).FailedRemount ↔
      .remount ∈ mountflags ∧ result ≠ .ok := Iff.rfl

@[simp] lemma not_failedRemount_umount : ¬ (umount path result).FailedRemount := id

@[simp] lemma not_failedRemount_umount2 : ¬ (umount2 path result).FailedRemount := id

@[simp] lemma unmounts_umount : (umount path result).Unmounts ↔ result = .ok := Iff.rfl

end

lemma isChain_undone {calls : List MountCall} (h : ∀ a ∈ calls, ¬ a.FailedRemount) :
    calls.IsChain Undone := by
  apply List.Pairwise.isChain
  exact List.pairwise_of_forall_mem_list fun a ha _ _ hf => absurd hf (h a ha)

end MountCall

open MountCall

/-- The mounts on every mount point after the calls, with nothing mounted before. -/
def mounts (calls : List MountCall) : Option String → ℕ :=
  run (Counts.perform target mountsAfter) (fun _ => 0) calls

/-- The kernel gave the answers in these calls. -/
def KernelAnswers (calls : List MountCall) : Prop :=
  Guarded (Counts.perform target mountsAfter)
    (fun mounts call => call.Answered (mounts call.target)) (fun _ => 0) calls

lemma mounts_eq (calls : List MountCall) (path : Option String) :
    mounts calls path = run mountsAfter 0 (Counts.callsOn target path calls) :=
  Counts.run_perform_apply _ _ _

lemma kernelAnswers_iff (calls : List MountCall) :
    KernelAnswers calls ↔
      ∀ path, Guarded mountsAfter Answered 0 (Counts.callsOn target path calls) :=
  Counts.guarded_perform_iff _ _

lemma mounts_append_self {calls seg : List MountCall} {path : Option String}
    (h : ∀ a ∈ seg, a.target = path) :
    mounts (calls ++ seg) path = run mountsAfter (mounts calls path) seg := by
  rw [mounts_eq, mounts_eq, Counts.callsOn_append, run_append, Counts.callsOn_of_forall_eq h]

lemma mounts_append_of_ne {calls seg : List MountCall} {path : Option String}
    (h : ∀ a ∈ seg, a.target ≠ path) : mounts (calls ++ seg) path = mounts calls path := by
  rw [mounts_eq, mounts_eq, Counts.callsOn_append, run_append, Counts.callsOn_of_forall_ne h,
    run_nil]

lemma KernelAnswers.append {calls seg : List MountCall} (h : KernelAnswers (calls ++ seg)) :
    KernelAnswers calls := ((guarded_append _ _ _ _ _).mp h).1

lemma KernelAnswers.segment {calls seg : List MountCall} (h : KernelAnswers (calls ++ seg))
    {path : Option String} (hseg : ∀ a ∈ seg, a.target = path) :
    Guarded mountsAfter Answered (mounts calls path) seg := by
  have hpath := (kernelAnswers_iff _).mp h path
  rw [Counts.callsOn_append, guarded_append, Counts.callsOn_of_forall_eq hseg, ← mounts_eq] at hpath
  exact hpath.2

/-! ### The book -/

/-- The mount point of a disk, with the flag `is_mounted` of the disk. Only the root file system may
be a directory of the host. -/
structure MountPoint where
  path : Option String
  deviceType : DeviceType
  isMounted : Bool
deriving DecidableEq, Repr

namespace MountPoint

/-- The flag records the mounts. -/
def Recorded (p : MountPoint) (mounts : ℕ) : Prop := mounts = if p.isMounted then 1 else 0

/-- The flag records no more than the mounts, and the mounts of a block device exactly. -/
def Covered (p : MountPoint) (mounts : ℕ) : Prop :=
  (if p.isMounted then 1 else 0) ≤ mounts ∧ (p.deviceType = .block → p.Recorded mounts)

end MountPoint

def RootFs.mountPoint (cbr : RootFs) : MountPoint := ⟨cbr.path, cbr.deviceType, cbr.isMounted⟩

def ExtraDisk.mountPoint (exdisk : ExtraDisk) : MountPoint :=
  ⟨some exdisk.mountFrom, .block, exdisk.isMounted⟩

/-- The mount points of a guest. -/
def BaseConfig.mountPoints (bc : BaseConfig) : List MountPoint :=
  bc.rootfs.mountPoint :: bc.extradiskList.map ExtraDisk.mountPoint

/-- The flags of the manager next to the calls it made. -/
structure MountBook where
  points : List MountPoint
  calls : List MountCall

/-- The book of a guest. -/
def BaseConfig.mountBook (bc : BaseConfig) : MountBook := ⟨bc.mountPoints, bc.mountCalls⟩

/-- What a procedure does to the mount point it works on, by its calls: an excess of mounts over the
flag comes from a remount that is not undone, and stays. -/
structure PointMove (p p' : MountPoint) (calls : List MountCall) : Prop where
  path : p'.path = p.path
  deviceType : p'.deviceType = p.deviceType
  target : ∀ a ∈ calls, a.target = p.path
  ends : ∀ a ∈ calls.getLast?, ¬ a.FailedRemount
  mounts : ∀ mounts, p.Covered mounts → Guarded mountsAfter Answered mounts calls →
    p'.Covered (run mountsAfter mounts calls) ∧
      (p'.Recorded (run mountsAfter mounts calls) ↔ p.Recorded mounts ∧ calls.IsChain Undone)

namespace MountBook

/-- One mount point is worked on. -/
inductive Step : MountBook → MountBook → Prop where
  | point {p p' : MountPoint} {seg : List MountCall} (h : PointMove p p' seg)
      (pre post : List MountPoint) (calls : List MountCall) :
      Step ⟨pre ++ p :: post, calls⟩ ⟨pre ++ p' :: post, calls ++ seg⟩

/-- Every flag records the mounts of its mount point. -/
def Balanced (b : MountBook) : Prop := ∀ p ∈ b.points, p.Recorded (mounts b.calls p.path)

/-- The mount points are distinct, the calls work on them, and no mount waits for its `umount`. -/
structure WellFormed (b : MountBook) : Prop where
  nodup : (b.points.map MountPoint.path).Nodup
  target : ∀ a ∈ b.calls, a.target ∈ b.points.map MountPoint.path
  ends : ∀ a ∈ b.calls.getLast?, ¬ a.FailedRemount

/-- The book is balanced exactly when every failed remount was undone. -/
structure Sound (b : MountBook) : Prop where
  covered : ∀ p ∈ b.points, p.Covered (mounts b.calls p.path)
  balanced_iff : b.Balanced ↔ b.calls.IsChain Undone

variable {b b' : MountBook}

lemma Step.paths (h : Step b b') :
    b'.points.map MountPoint.path = b.points.map MountPoint.path := by
  cases h with
  | point h pre post calls => simp [h.path]

lemma Step.calls (h : Step b b') : ∃ seg, b'.calls = b.calls ++ seg := by
  cases h with
  | @point p p' seg h pre post calls => exact ⟨seg, rfl⟩

lemma Step.wellFormed (h : Step b b') (hb : b.WellFormed) : b'.WellFormed := by
  have hpaths := h.paths
  constructor
  · rw [hpaths]
    exact hb.nodup
  · rw [hpaths]
    cases h with
    | @point p p' seg h pre post calls =>
      intro a ha
      rcases List.mem_append.mp ha with ha | ha
      · exact hb.target a ha
      · rw [h.target a ha]
        simp
  · cases h with
    | @point p p' seg h pre post calls =>
      intro a ha
      rw [List.getLast?_append] at ha
      cases hs : seg.getLast? with
      | none => exact hb.ends a (by simpa [hs] using ha)
      | some c =>
        obtain rfl : c = a := by simpa [hs] using ha
        exact h.ends c hs

lemma balanced_middle (pre post : List MountPoint) (p : MountPoint) (calls : List MountCall) :
    Balanced ⟨pre ++ p :: post, calls⟩ ↔ p.Recorded (mounts calls p.path) ∧
      ∀ q ∈ pre ++ post, q.Recorded (mounts calls q.path) := by
  rw [← List.forall_mem_cons (p := fun q : MountPoint => q.Recorded (mounts calls q.path))]
  exact forall_congr' fun q => imp_congr_left List.perm_middle.mem_iff

/-- Only the mounts of the mount point that is worked on change. -/
lemma mounts_of_mem_rest {p q : MountPoint} {pre post : List MountPoint}
    {calls seg : List MountCall} (hn : ((pre ++ p :: post).map MountPoint.path).Nodup)
    (hq : q ∈ pre ++ post) (h : ∀ a ∈ seg, a.target = p.path) :
    mounts (calls ++ seg) q.path = mounts calls q.path := by
  rw [List.map_append, List.map_cons, List.nodup_middle, ← List.map_append, List.nodup_cons] at hn
  apply mounts_append_of_ne
  intro a ha he
  apply hn.1
  rw [← h a ha, he]
  exact List.mem_map_of_mem hq

lemma Step.sound (h : Step b b') (hk : KernelAnswers b'.calls) (hw : b.WellFormed) (hb : b.Sound) :
    b'.Sound := by
  cases h with
  | @point p p' seg h pre post calls =>
    have hself : mounts (calls ++ seg) p.path = run mountsAfter (mounts calls p.path) seg :=
      mounts_append_self h.target
    have hother : ∀ q ∈ pre ++ post, mounts (calls ++ seg) q.path = mounts calls q.path :=
      fun q hq => mounts_of_mem_rest hw.nodup hq h.target
    obtain ⟨hcov, hrec⟩ := h.mounts _ (hb.covered p (by simp)) (hk.segment h.target)
    rw [← hself] at hcov hrec
    constructor
    · intro q hq
      rcases List.mem_append.mp hq with hq | hq
      · rw [hother q (List.mem_append_left _ hq)]
        exact hb.covered q (List.mem_append_left _ hq)
      · rcases List.mem_cons.mp hq with rfl | hq
        · rw [h.path]
          exact hcov
        · rw [hother q (List.mem_append_right _ hq)]
          exact hb.covered q (List.mem_append_right _ (List.mem_cons_of_mem _ hq))
    · have hrest : (∀ q ∈ pre ++ post, q.Recorded (mounts (calls ++ seg) q.path)) ↔
          ∀ q ∈ pre ++ post, q.Recorded (mounts calls q.path) :=
        forall₂_congr fun q hq => by rw [hother q hq]
      have hbook : Balanced ⟨pre ++ p' :: post, calls ++ seg⟩ ↔
          Balanced ⟨pre ++ p :: post, calls⟩ ∧ seg.IsChain Undone := by
        rw [balanced_middle, balanced_middle, h.path, hrec, hrest]
        exact and_right_comm
      rw [hbook, hb.balanced_iff, List.isChain_append]
      constructor
      · rintro ⟨hc, hs⟩
        exact ⟨hc, hs, fun a ha _ _ hf => absurd hf (hw.ends a ha)⟩
      · rintro ⟨hc, hs, -⟩
        exact ⟨hc, hs⟩

/-! ### Several moves -/

/-- Any number of moves of the mount points. -/
abbrev Steps : MountBook → MountBook → Prop := Relation.ReflTransGen Step

lemma Steps.paths (h : Steps b b') :
    b'.points.map MountPoint.path = b.points.map MountPoint.path := by
  induction h with
  | refl => rfl
  | tail _ hstep ih => exact hstep.paths.trans ih

lemma Steps.wellFormed (h : Steps b b') (hb : b.WellFormed) : b'.WellFormed :=
  reflTransGen_invariant (fun _ _ hstep => hstep.wellFormed) h hb

lemma Steps.sound (h : Steps b b') (hk : KernelAnswers b'.calls) (hw : b.WellFormed)
    (hb : b.Sound) : b'.Sound := by
  induction h with
  | refl => exact hb
  | tail hsteps hstep ih =>
    obtain ⟨seg, hc⟩ := hstep.calls
    have hprefix := ih (hc ▸ hk).append
    exact hstep.sound hk (Steps.wellFormed hsteps hw) hprefix

/-- Before the first call, nothing is mounted. -/
lemma initial {points : List MountPoint} (hn : (points.map MountPoint.path).Nodup)
    (hp : ∀ p ∈ points, p.isMounted = false) :
    WellFormed ⟨points, []⟩ ∧ Sound ⟨points, []⟩ := by
  have hrec : ∀ p ∈ points, p.Recorded (mounts [] p.path) := by
    intro p h
    simp [MountPoint.Recorded, hp p h, mounts_eq]
  constructor
  · exact ⟨hn, by simp, by simp⟩
  · exact ⟨fun p h => ⟨(hrec p h).ge, fun _ => hrec p h⟩, iff_of_true hrec .nil⟩

end MountBook

end ContainerManager

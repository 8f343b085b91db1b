import ContainerManager.Plugin.EraseMkfs

/-!
# An erase that reports success erased the device

The loop of the erase ends at the end of the device, at any other error and, when `errno` was
`EINTR` before, after its first write; it reports success for all of these.
-/

namespace ContainerManager

namespace Plugin.EraseMkfs

open BlockDevice

/-- Zeros were written from the start to the end of the device with these contents. -/
structure Erased (data : List UInt8) (d : BlockDevice) : Prop where
  offset : d.offset = data.length
  zeros : d.data = List.replicate data.length 0

/-- Success means an erased device, one is returned for a cancel request, and a negative value when
the loop stopped for another reason than the end of the device. A file system is only made on an
erased device. -/
structure EraseReliable (sys : EraseSys) (data : List UInt8) : Prop where
  success : (cmWorkerExecErase sys data).ret = 0 →
    (cmWorkerExecErase sys data).exit = some (.stopped (.error enospc)) ∧
      Erased data (cmWorkerExecErase sys data).device
  canceled : (cmWorkerExecErase sys data).ret = 1 → ∃ pass, sys.cancel pass = true
  failed : ∀ answer, (cmWorkerExecErase sys data).exit = some (.stopped answer) →
    ¬ (answer = .error enospc ∧ (cmWorkerExecErase sys data).device.offset = data.length) →
      (cmWorkerExecErase sys data).ret < 0
  mkfs : ∀ wait mkfs blkdevPath device,
    (cmWorkerExec wait sys mkfs blkdevPath data).mkfs = some device → Erased data device

/-! ### The writes -/

/-- The device after the first writes, when no write is left out. -/
def deviceAfter (sys : EraseSys) (data : List UInt8) : ℕ → BlockDevice
  | 0 => opened data
  | pass + 1 => (eraseWrite (deviceAfter sys data pass) (sys.write pass)).1

/-- The result of a write after the ones before it. -/
def answerAt (sys : EraseSys) (data : List UInt8) (pass : ℕ) : Answer :=
  (eraseWrite (deviceAfter sys data pass) (sys.write pass)).2

/-- Writes that all store something come to a cancel request, or to the end of the device where
`ENOSPC` is reported. When there is such a write at all, `errno` was not `EINTR` before. -/
def WritesThrough (sys : EraseSys) (data : List UInt8) : Prop :=
  ∃ pass, (∀ k < pass, sys.cancel k = false ∧ Wrote (answerAt sys data k)) ∧
    (0 < pass → sys.errno ≠ eintr) ∧ (sys.cancel pass = true ∨
      answerAt sys data pass = .error enospc ∧ (deviceAfter sys data pass).offset = data.length)

section Writes

variable {sys : EraseSys} {data : List UInt8} {pass : ℕ} {d : BlockDevice}

lemma deviceAfter_filled (pass : ℕ) : FilledFrom data 0 (deviceAfter sys data pass) := by
  induction pass with
  | zero => exact filledFrom_opened data 0
  | succ pass ih => exact ih.write _ _

lemma deviceAfter_size (pass : ℕ) : (deviceAfter sys data pass).size = data.length := by
  induction pass with
  | zero => rfl
  | succ pass ih => exact (write_size _ _ _ _).trans ih

lemma deviceAfter_erased (h : (deviceAfter sys data pass).offset = data.length) :
    Erased data (deviceAfter sys data pass) := by
  refine ⟨h, ?_⟩
  have hall := (deviceAfter_filled pass).all (h.trans (deviceAfter_size pass).symm)
  rwa [deviceAfter_size] at hall

/-- A write that fails stores nothing. -/
lemma deviceAfter_of_error {errno : ℕ} (h : answerAt sys data pass = .error errno) :
    deviceAfter sys data (pass + 1) = deviceAfter sys data pass := by
  rw [answerAt, eraseWrite] at h
  show (BlockDevice.write _ _ _ _).1 = _
  cases ha : sys.write pass with
  | fail e => rfl
  | upTo bytes =>
    rw [ha] at h
    simp only [BlockDevice.write] at h ⊢
    split_ifs at h ⊢
    rfl

end Writes

/-! ### The loop -/

/-- The loop was left at this pass. -/
structure LeftAt (sys : EraseSys) (data : List UInt8) (start pass : ℕ)
    (r : BlockDevice × EraseExit) : Prop where
  before : ∀ k, start ≤ k → k < pass → sys.cancel k = false ∧ Wrote (answerAt sys data k)
  errno : start < pass → sys.errno ≠ eintr
  exit : sys.cancel pass = true ∧ r = (deviceAfter sys data pass, .canceled) ∨
    sys.cancel pass = false ∧ ¬ (Wrote (answerAt sys data pass) ∧ sys.errno ≠ eintr) ∧
      r = (deviceAfter sys data (pass + 1), .stopped (answerAt sys data pass))

/-- The loop is always left. -/
lemma eraseLoop_leftAt (sys : EraseSys) (data : List UInt8) (start : ℕ) (d : BlockDevice)
    (hd : d = deviceAfter sys data start) :
    ∃ pass, start ≤ pass ∧ LeftAt sys data start pass (eraseLoop sys start d) := by
  fun_induction eraseLoop sys start d with
  | case1 start d hc =>
    exact ⟨start, le_rfl, fun k h h' => absurd h' (not_lt.mpr h), fun h => absurd h (lt_irrefl _),
      .inl ⟨hc, by rw [hd]⟩⟩
  | case2 start d hc r h ih =>
    subst hd
    obtain ⟨pass, hle, hbefore, herrno, hexit⟩ := ih rfl
    refine ⟨pass, (Nat.le_succ _).trans hle, fun k hk hkp => ?_, fun _ => h.2, hexit⟩
    rcases Nat.eq_or_lt_of_le hk with rfl | hlt
    · exact ⟨by simpa using hc, h.1⟩
    · exact hbefore k hlt hkp
  | case3 start d hc r h =>
    subst hd
    exact ⟨start, le_rfl, fun k h h' => absurd h' (not_lt.mpr h), fun h => absurd h (lt_irrefl _),
      .inr ⟨by simpa using hc, h, rfl⟩⟩

/-- Writes that come through to a pass leave the loop there. -/
lemma LeftAt.eq_of_through {sys : EraseSys} {data : List UInt8} {pass k : ℕ}
    {r : BlockDevice × EraseExit} (h : LeftAt sys data 0 pass r)
    (hbefore : ∀ j < k, sys.cancel j = false ∧ Wrote (answerAt sys data j))
    (herrno : 0 < k → sys.errno ≠ eintr)
    (hk : sys.cancel k = true ∨ ∃ e, answerAt sys data k = .error e) : k = pass := by
  rcases Nat.lt_trichotomy k pass with hlt | rfl | hlt
  · obtain ⟨hcancel, n, hn⟩ := h.before k (Nat.zero_le k) hlt
    rcases hk with hk | ⟨e, he⟩
    · rw [hcancel] at hk
      cases hk
    · rw [hn] at he
      cases he
  · rfl
  · obtain ⟨hcancel, hwrote⟩ := hbefore pass hlt
    rcases h.exit with ⟨hc, -⟩ | ⟨-, hstop, -⟩
    · rw [hcancel] at hc
      cases hc
    · exact absurd ⟨hwrote, herrno (Nat.zero_lt_of_lt hlt)⟩ hstop

/-! ### The erase and the file system -/

section Erase

variable {sys : EraseSys} {data : List UInt8}

/-- The file system is made on what an erase left that returned 0. -/
lemma cmWorkerExec_mkfs {wait : WaitSys} {mkfs : MkfsSys} {blkdevPath : CString}
    {device : BlockDevice} (h : (cmWorkerExec wait sys mkfs blkdevPath data).mkfs = some device) :
    ¬ (cmWorkerExecErase sys data).ret < 0 ∧ (cmWorkerExecErase sys data).ret ≠ 1 ∧
      device = (cmWorkerExecErase sys data).device := by
  simp only [cmWorkerExec] at h
  split_ifs at h with _ _ hneg hone
  all_goals exact ⟨hneg, hone, (Option.some.inj h).symm⟩

lemma eraseReliable_of_ret_neg (h : (cmWorkerExecErase sys data).ret < 0) :
    EraseReliable sys data where
  success h0 := by omega
  canceled h1 := by omega
  failed _ _ _ := h
  mkfs _ _ _ _ hm := absurd h (cmWorkerExec_mkfs hm).1

lemma eraseReliable_of_canceled {pass : ℕ} {device : BlockDevice} (hc : sys.cancel pass = true)
    (h : cmWorkerExecErase sys data = ⟨1, device, some .canceled⟩) : EraseReliable sys data where
  success h0 := by simp [h] at h0
  canceled _ := ⟨pass, hc⟩
  failed _ he := by simp [h] at he
  mkfs _ _ _ _ hm := absurd (by rw [h]) (cmWorkerExec_mkfs hm).2.1

lemma eraseReliable_of_erased {device : BlockDevice} (he : Erased data device)
    (h : cmWorkerExecErase sys data = ⟨0, device, some (.stopped (.error enospc))⟩) :
    EraseReliable sys data where
  success _ := by
    rw [h]
    exact ⟨rfl, he⟩
  canceled h1 := by simp [h] at h1
  failed answer ha hnot := by
    rw [h] at ha hnot
    obtain rfl := EraseExit.stopped.inj (Option.some.inj ha)
    exact absurd ⟨rfl, he.offset⟩ hnot
  mkfs _ _ _ device' hm := by
    rw [(cmWorkerExec_mkfs hm).2.2, h]
    exact he

end Erase

/-- An erase is reliable exactly when it cannot begin, or when its writes come through to the end of
the device or a cancel request. -/
theorem erase_reliable_iff (sys : EraseSys) (data : List UInt8) : EraseReliable sys data ↔
    (sys.malloc = true → sys.canOpen = true → WritesThrough sys data) := by
  by_cases hstart : sys.malloc = true ∧ sys.canOpen = true
  · obtain ⟨hmalloc, hopen⟩ := hstart
    obtain ⟨pass, -, hleft⟩ := eraseLoop_leftAt sys data 0 _ rfl
    have hbefore : ∀ k < pass, sys.cancel k = false ∧ Wrote (answerAt sys data k) :=
      fun k => hleft.before k (Nat.zero_le k)
    rcases hleft.exit with ⟨hc, hr⟩ | ⟨hc, -, hr⟩
    · have hrun : cmWorkerExecErase sys data = ⟨1, deviceAfter sys data pass, some .canceled⟩ := by
        simp only [deviceAfter] at hr
        simp only [cmWorkerExecErase, hmalloc, hopen, hr, not_true_eq_false, if_false]
      exact iff_of_true (eraseReliable_of_canceled hc hrun)
        fun _ _ => ⟨pass, hbefore, hleft.errno, .inl hc⟩
    · have hrun : cmWorkerExecErase sys data =
          ⟨0, deviceAfter sys data (pass + 1), some (.stopped (answerAt sys data pass))⟩ := by
        simp only [deviceAfter] at hr
        simp only [cmWorkerExecErase, hmalloc, hopen, hr, not_true_eq_false, if_false]
        rfl
      constructor
      · intro h _ _
        have h0 := h.success (by rw [hrun])
        rw [hrun] at h0
        obtain ⟨hexit, herased⟩ := h0
        have hanswer := EraseExit.stopped.inj (Option.some.inj hexit)
        rw [deviceAfter_of_error hanswer] at herased
        exact ⟨pass, hbefore, hleft.errno, .inr ⟨hanswer, herased.offset⟩⟩
      · intro h
        obtain ⟨k, hk, herrno, hend⟩ := h hmalloc hopen
        obtain rfl : k = pass := by
          apply hleft.eq_of_through hk herrno
          exact hend.imp id fun ⟨he, _⟩ => ⟨_, he⟩
        rcases hend with hcancel | ⟨hanswer, hoffset⟩
        · rw [hc] at hcancel
          cases hcancel
        · rw [hanswer, deviceAfter_of_error hanswer] at hrun
          exact eraseReliable_of_erased (deviceAfter_erased hoffset) hrun
  · have hneg : (cmWorkerExecErase sys data).ret < 0 := by
      by_cases hm : sys.malloc = true
      · have ho : sys.canOpen ≠ true := fun ho => hstart ⟨hm, ho⟩
        simp [cmWorkerExecErase, hm, ho]
      · simp [cmWorkerExecErase, hm]
    exact iff_of_true (eraseReliable_of_ret_neg hneg) fun hm ho => absurd ⟨hm, ho⟩ hstart

/-- Every write fails with `EIO`. -/
def brokenDisk : EraseSys where
  malloc := true
  canOpen := true
  errno := 0
  cancel _ := false
  write _ := .fail 5

/-- The erase of a broken disk reports success, and a file system is made on what it held. -/
theorem broken_disk_erased : (cmWorkerExecErase brokenDisk [1, 2, 3]).ret = 0 ∧
    (cmWorkerExecErase brokenDisk [1, 2, 3]).device.data = [1, 2, 3] ∧
    ¬ EraseReliable brokenDisk [1, 2, 3] := by
  have hloop : eraseLoop brokenDisk 0 (opened [1, 2, 3]) =
      (opened [1, 2, 3], .stopped (.error 5)) := by
    rw [eraseLoop]
    rfl
  have hrun : cmWorkerExecErase brokenDisk [1, 2, 3] =
      ⟨0, opened [1, 2, 3], some (.stopped (.error 5))⟩ := by
    rw [cmWorkerExecErase, hloop]
    rfl
  refine ⟨by rw [hrun], by rw [hrun]; rfl, fun h => ?_⟩
  have herased := (h.success (by rw [hrun])).2.offset
  rw [hrun] at herased
  exact absurd herased (by decide)

end Plugin.EraseMkfs

end ContainerManager

import ContainerManager.Properties.CmdlineTokens
import Mathlib.Data.Nat.Log

/-!
# Reading the kernel command line

The buffer of a round has twice the size of the one before. A round that fills its buffer has moved
the offset of the file, and the offset is not set back, so that the next round reads what stands
behind. The buffer that is returned has the whole command line only when the first round has read
it. When every buffer was filled, the success is returned without a buffer.
-/

namespace ContainerManager

namespace CommandLineSize

variable (size : CommandLineSize)

/-- The size of the buffer of a round. -/
def sizeAt (round : ℕ) : ℕ := size.bufferSize * 2 ^ round

/-- The largest size that is tried. -/
def largest : ℕ := size.sizeAt (Nat.log 2 (size.bufferSizeMax / size.bufferSize))

variable {size}

@[simp] lemma sizeAt_zero : size.sizeAt 0 = size.bufferSize := by simp [sizeAt]

lemma sizeAt_succ (round : ℕ) : size.sizeAt (round + 1) = size.sizeAt round * 2 := by
  simp [sizeAt, pow_succ, Nat.mul_assoc]

lemma sizeAt_mono {j k : ℕ} (h : j ≤ k) : size.sizeAt j ≤ size.sizeAt k :=
  Nat.mul_le_mul_left _ (Nat.pow_le_pow_right (by omega) h)

lemma bufferSize_le_sizeAt (round : ℕ) : size.bufferSize ≤ size.sizeAt round := by
  rw [← sizeAt_zero]
  exact sizeAt_mono (Nat.zero_le round)

lemma bufferSize_le_bufferSizeMax : size.bufferSize ≤ size.bufferSizeMax := by
  simp only [bufferSize, bufferSizeMax]
  omega

lemma bufferSizeMax_lt : size.bufferSizeMax < 2 ^ 31 := by
  have hfits := size.fits
  simp only [bufferSizeMax]
  omega

/-- The rounds whose size is tried. -/
lemma sizeAt_le_max_iff {round : ℕ} :
    size.sizeAt round ≤ size.bufferSizeMax ↔
      round ≤ Nat.log 2 (size.bufferSizeMax / size.bufferSize) := by
  have hne : size.bufferSizeMax / size.bufferSize ≠ 0 :=
    Nat.div_ne_zero_iff.mpr ⟨size.bufferSize_pos.ne', bufferSize_le_bufferSizeMax⟩
  rw [Nat.le_log_iff_pow_le (by omega) hne, Nat.le_div_iff_mul_le size.bufferSize_pos, sizeAt,
    Nat.mul_comm]

lemma sizeAt_le_largest {round : ℕ} (h : size.sizeAt round ≤ size.bufferSizeMax) :
    size.sizeAt round ≤ size.largest :=
  sizeAt_mono (sizeAt_le_max_iff.mp h)

lemma bufferSize_le_largest : size.bufferSize ≤ size.largest := bufferSize_le_sizeAt _

/-- The first size that is not tried, or a later one. -/
lemma largest_lt_sizeAt {round : ℕ} (h : ¬ size.sizeAt round ≤ size.bufferSizeMax) :
    size.largest * 2 ≤ size.sizeAt round := by
  rw [sizeAt_le_max_iff, not_le] at h
  rw [largest, ← sizeAt_succ]
  exact sizeAt_mono h

end CommandLineSize

/-! ### Rounds -/

lemma readRetrying_eq (file : OpenFile) (size interrupts : ℕ) :
    readRetrying file size interrupts = file.read size := by
  induction interrupts with
  | zero => rfl
  | succ interrupts ih => exact ih

/-- How the reading ends. -/
inductive ReadOutcome (size : CommandLineSize) (sys : CmdlineSys) (content : List UInt8) :
    CmdlineRead → Prop
  /-- The round meets the end of the file: the buffer has what the rounds before have not read. -/
  | buffer (round : ℕ) (htried : size.sizeAt round ≤ size.bufferSizeMax)
      (hge : size.sizeAt round - size.bufferSize ≤ content.length)
      (hlt : content.length < size.sizeAt round - size.bufferSize + size.sizeAt round) :
      ReadOutcome size sys content
        ⟨0, some (content.drop (size.sizeAt round - size.bufferSize) ++
            List.replicate (size.sizeAt round - size.bufferSize + size.sizeAt round -
              content.length) 0,
          size.sizeAt round)⟩
  /-- Every buffer was filled. -/
  | exhausted (hge : size.largest * 2 - size.bufferSize ≤ content.length) :
      ReadOutcome size sys content ⟨0, none⟩
  | noMemory (round : ℕ) (h : sys.malloc round = false) : ReadOutcome size sys content ⟨-1, none⟩

/-- From a round on, when the rounds before have filled their buffers. -/
theorem getCmdlineLoop_outcome {size : CommandLineSize} {sys : CmdlineSys} {content : List UInt8}
    {round bufferSize : ℕ} {hpos : 0 < bufferSize} {file : OpenFile}
    (hsize : bufferSize = size.sizeAt round)
    (hfile : file = ⟨content, bufferSize - size.bufferSize⟩)
    (hread : bufferSize - size.bufferSize ≤ content.length) :
    ReadOutcome size sys content
      (getCmdlineLoop sys size.bufferSizeMax round bufferSize hpos file) := by
  fun_induction getCmdlineLoop sys size.bufferSizeMax round bufferSize hpos file with
  | case1 round bufferSize hpos file htried hmalloc r hshort =>
    have hr : r = file.read bufferSize := readRetrying_eq _ _ _
    rw [hr] at hshort ⊢
    have hlen := hshort
    rw [OpenFile.read_length] at hlen
    have hdata := OpenFile.read_of_short hshort
    subst hsize hfile
    simp only at hlen hdata
    have hzeros : size.sizeAt round - (content.length - (size.sizeAt round - size.bufferSize)) =
        size.sizeAt round - size.bufferSize + size.sizeAt round - content.length := by omega
    have hint : (size.sizeAt round : ℤ).bmod (2 ^ 32) = size.sizeAt round := by
      have hmax := size.bufferSizeMax_lt
      apply Int.bmod_eq_of_le <;> omega
    rw [hdata, List.length_drop, hzeros, hint]
    exact .buffer round htried hread (by omega)
  | case2 round bufferSize hpos file htried hmalloc r hfull ih =>
    have hr : r = file.read bufferSize := readRetrying_eq _ _ _
    rw [hr] at hfull ih ⊢
    obtain ⟨hoffset, hlen⟩ := OpenFile.read_of_full hpos hfull
    subst hsize hfile
    have hfirst := size.bufferSize_le_sizeAt round
    apply ih
    · rw [size.sizeAt_succ]
    · rw [hoffset]
      congr 1
      simp only
      omega
    · simp only at hlen
      omega
  | case3 round bufferSize hpos file htried hmalloc =>
    exact .noMemory round (by simpa using hmalloc)
  | case4 round bufferSize hpos file htried =>
    subst hsize
    have hlargest := size.largest_lt_sizeAt htried
    exact .exhausted (by omega)

lemma procutilGetCmdline_outcome (size : CommandLineSize) {sys : CmdlineSys}
    (content : List UInt8) (hopen : sys.canOpen = true) :
    ReadOutcome size sys content (procutilGetCmdline size sys content) := by
  rw [procutilGetCmdline, if_pos hopen]
  apply getCmdlineLoop_outcome
  · exact size.sizeAt_zero.symm
  · rw [Nat.sub_self]
  · omega

/-! ### The whole command line -/

/-- What a return of the whole command line is: its bytes, and `nuls + 1` NULs behind them. -/
def wholeRead (content : List UInt8) (nuls : ℕ) : CmdlineRead where
  ret := 0
  buf := some (content ++ List.replicate (nuls + 1) 0, (content.length + (nuls + 1) : ℕ))

/-- A command line of NULs whose length is between what the earlier rounds take and the size of the
round: its buffer cannot be told from the whole command line. -/
def AllNul (size : CommandLineSize) (content : List UInt8) : Prop :=
  content = List.replicate content.length 0 ∧
    ∃ round, size.sizeAt round - size.bufferSize ≤ content.length ∧
      content.length < size.sizeAt round

section Outcomes

variable {size : CommandLineSize} {sys : CmdlineSys} {content : List UInt8} {r : CmdlineRead}

lemma ReadOutcome.of_whole (h : ReadOutcome size sys content r) {nuls : ℕ}
    (hr : r = wholeRead content nuls) : content.length < size.bufferSize ∨ AllNul size content := by
  cases h with
  | buffer round htried hge hlt =>
    simp only [wholeRead, CmdlineRead.mk.injEq, Option.some.injEq, Prod.mk.injEq, Nat.cast_inj,
      true_and] at hr
    obtain ⟨hbuf, hsize⟩ := hr
    rcases Nat.eq_zero_or_pos (size.sizeAt round - size.bufferSize) with hzero | hpos
    · left
      omega
    · right
      refine ⟨?_, round, hge, by omega⟩
      -- the last NULs of both are the same
      have hnuls : size.sizeAt round - size.bufferSize + size.sizeAt round - content.length =
          (size.sizeAt round - size.bufferSize) + (nuls + 1) := by omega
      rw [hnuls, List.replicate_add, ← List.append_assoc] at hbuf
      exact List.eq_replicate_of_drop_append hpos (List.append_cancel_right hbuf)
  | exhausted hge => simp [wholeRead] at hr
  | noMemory round hmalloc => simp [wholeRead] at hr

/-- The round that meets the end has room for the whole command line. -/
lemma lt_sizeAt_of_cond {round : ℕ}
    (hlt : content.length < size.sizeAt round - size.bufferSize + size.sizeAt round)
    (hcond : content.length < size.bufferSize ∨ AllNul size content) :
    content.length < size.sizeAt round := by
  have hfirst := size.bufferSize_le_sizeAt round
  rcases hcond with hshort | ⟨-, round', hge', hlt'⟩
  · omega
  · rcases Nat.lt_or_ge round round' with hless | hle
    · have hmono := size.sizeAt_mono (Nat.succ_le_of_lt hless)
      rw [Nat.succ_eq_add_one, size.sizeAt_succ] at hmono
      omega
    · have hmono := size.sizeAt_mono hle
      omega

/-- What the earlier rounds have read is not missed. -/
lemma drop_append_of_cond {round : ℕ}
    (hge : size.sizeAt round - size.bufferSize ≤ content.length)
    (hcond : content.length < size.bufferSize ∨ AllNul size content) :
    content.drop (size.sizeAt round - size.bufferSize) ++
      List.replicate (size.sizeAt round - size.bufferSize) 0 = content := by
  rcases hcond with hshort | ⟨hnul, -⟩
  · have hzero : size.sizeAt round - size.bufferSize = 0 := by
      cases round with
      | zero => simp
      | succ round =>
        have hfirst := size.bufferSize_le_sizeAt round
        rw [size.sizeAt_succ] at hge ⊢
        omega
    simp [hzero]
  · conv_rhs => rw [hnul]
    conv_lhs => rw [hnul]
    rw [List.drop_replicate, ← List.replicate_add, Nat.sub_add_cancel hge]

lemma ReadOutcome.whole (h : ReadOutcome size sys content r)
    (hmalloc : ∀ round, sys.malloc round = true) (hlargest : content.length < size.largest)
    (hcond : content.length < size.bufferSize ∨ AllNul size content) :
    ∃ nuls, r = wholeRead content nuls := by
  cases h with
  | buffer round htried hge hlt =>
    have hlt' := lt_sizeAt_of_cond hlt hcond
    have hbuf := drop_append_of_cond hge hcond
    obtain ⟨nuls, hsize⟩ := Nat.exists_eq_add_of_lt hlt'
    have hnuls : size.sizeAt round - size.bufferSize + size.sizeAt round - content.length =
        (size.sizeAt round - size.bufferSize) + (nuls + 1) := by omega
    refine ⟨nuls, ?_⟩
    rw [hnuls, List.replicate_add, ← List.append_assoc, hbuf, wholeRead, hsize, Nat.add_assoc]
  | exhausted hge =>
    have hfirst := size.bufferSize_le_largest
    omega
  | noMemory round hfail => simp [hmalloc] at hfail

/-- A success without a buffer means that every buffer was filled. -/
lemma ReadOutcome.of_unset (h : ReadOutcome size sys content r) (hr : r = ⟨0, none⟩) :
    size.largest * 2 - size.bufferSize ≤ content.length := by
  cases h with
  | buffer round htried hge hlt => simp at hr
  | exhausted hge => exact hge
  | noMemory round hmalloc => simp at hr

lemma ReadOutcome.unset (h : ReadOutcome size sys content r)
    (hmalloc : ∀ round, sys.malloc round = true)
    (hlong : size.largest * 2 - size.bufferSize ≤ content.length) : r = ⟨0, none⟩ := by
  cases h with
  | buffer round htried hge hlt =>
    have hfirst := size.bufferSize_le_sizeAt round
    have hle := size.sizeAt_le_largest htried
    omega
  | exhausted hge => rfl
  | noMemory round hfail => simp [hmalloc] at hfail

end Outcomes

/-- A command line below the largest size is returned whole, with NULs behind it. For a longer one
there is no success without a buffer. -/
structure ReadWhole (size : CommandLineSize) (content : List UInt8) : Prop where
  whole : content.length < size.largest → ∀ sys : CmdlineSys, sys.canOpen = true →
    (∀ round, sys.malloc round = true) →
      ∃ nuls, procutilGetCmdline size sys content = wholeRead content nuls
  isSet : size.largest ≤ content.length → ∀ sys, procutilGetCmdline size sys content ≠ ⟨0, none⟩

/-- The first buffer is large enough; or not even the largest is, but one of the buffers is not
filled; or the command line is all NULs. -/
def FirstRound (size : CommandLineSize) (content : List UInt8) : Prop :=
  content.length < size.bufferSize ∨
    size.largest ≤ content.length ∧ content.length < size.largest * 2 - size.bufferSize ∨
    content.length < size.largest ∧ AllNul size content

/-- Every call succeeds, and no read is interrupted. -/
def CmdlineSys.calm : CmdlineSys := ⟨true, fun _ => true, fun _ => 0⟩

/-- The command line is read whole exactly when the first round does it, up to the lengths behind
the largest size that still leave a buffer, and to lines of NULs. -/
theorem readWhole_iff (size : CommandLineSize) (content : List UInt8) :
    ReadWhole size content ↔ FirstRound size content := by
  have hfirst := size.bufferSize_le_largest
  constructor
  · intro h
    have hread := procutilGetCmdline_outcome size content (rfl : CmdlineSys.calm.canOpen = true)
    rcases Nat.lt_or_ge content.length size.largest with hlt | hge
    · obtain ⟨nuls, hwhole⟩ := h.whole hlt .calm rfl fun _ => rfl
      rcases hread.of_whole hwhole with hshort | hnul
      · exact .inl hshort
      · exact .inr (.inr ⟨hlt, hnul⟩)
    · refine .inr (.inl ⟨hge, ?_⟩)
      by_contra hlong
      exact h.isSet hge .calm (hread.unset (fun _ => rfl) (not_lt.mp hlong))
  · intro h
    constructor
    · intro hlt sys hopen hmalloc
      apply (procutilGetCmdline_outcome size content hopen).whole hmalloc hlt
      rcases h with hshort | ⟨hge, -⟩ | ⟨-, hnul⟩
      · exact .inl hshort
      · omega
      · exact .inr hnul
    · intro hge sys hunset
      cases hopen : sys.canOpen with
      | false => simp [procutilGetCmdline, hopen] at hunset
      | true =>
        have hlong := (procutilGetCmdline_outcome size content hopen).of_unset hunset
        rcases h with hshort | ⟨-, hlt⟩ | ⟨hlt, -⟩ <;> omega

/-- A command line of as many bytes as the first buffer has. -/
def filledText : List UInt8 := List.replicate 4096 97

theorem filled_not_readWhole : ¬ ReadWhole .workaround filledText := by
  intro h
  have hlen : filledText.length = 4096 := List.length_replicate
  have hfirst : CommandLineSize.workaround.bufferSize = 4096 := rfl
  have hsecond : CommandLineSize.workaround.sizeAt 1 = 8192 := rfl
  have htried : CommandLineSize.workaround.sizeAt 1 ≤ CommandLineSize.workaround.bufferSizeMax := by
    decide
  have hlargest := CommandLineSize.workaround.sizeAt_le_largest htried
  obtain ⟨nuls, hwhole⟩ := h.whole (by omega) .calm rfl fun _ => rfl
  rcases (procutilGetCmdline_outcome .workaround filledText rfl).of_whole hwhole with hshort | hnul
  · omega
  · have heq : filledText = List.replicate 4096 0 := hlen ▸ hnul.1
    have hbyte := (List.replicate_right_inj (by omega)).mp heq
    simp at hbyte

/-! ### The side of the boot -/

/-- Every call succeeds, however often the reads are interrupted. -/
structure ProcutilSys.Succeeds (sys : ProcutilSys) : Prop where
  malloc : sys.malloc = true
  canOpen : sys.cmdline.canOpen = true
  mallocBuf : ∀ round, sys.cmdline.malloc round = true
  mallocElem : ∀ i, sys.mallocElem i = true

/-- From a command line that the first buffer holds, with no second `=` in a token, the object lists
its arguments. -/
theorem procutilCreate_arguments {size : CommandLineSize} {sys : ProcutilSys} (hsys : sys.Succeeds)
    {content : List UInt8} (hshort : content.length < size.bufferSize)
    (hcut : ∀ token ∈ cmdlineTokens content, token.count 61 ≤ 1) :
    ∃ pu, procutilCreate size sys content = (some pu, 0) ∧
      pu.arguments = cmdlineArguments content := by
  have hlargest : content.length < size.largest := hshort.trans_le size.bufferSize_le_largest
  obtain ⟨nuls, hread⟩ := (procutilGetCmdline_outcome size content hsys.canOpen).whole
    hsys.mallocBuf hlargest (.inl hshort)
  obtain ⟨hcreates, hreads⟩ := listOf_spec sys.mallocElem content nuls
  have hret := hcreates hsys.mallocElem
  refine ⟨(listOf sys.mallocElem content nuls).1, ?_,
    (map_argumentAt_eq_iff (hreads hret)).mpr hcut⟩
  have hlist : procutilCreateArgumentList sys.mallocElem
      ⟨content ++ List.replicate (nuls + 1) 0, []⟩ (content.length + (nuls + 1)) =
        ((listOf sys.mallocElem content nuls).1, 0) := Prod.ext rfl hret
  rw [procutilCreate, if_pos hsys.malloc, hread]
  simp only [wholeRead, Option.getD_some, Int.toNat_natCast, hlist]
  rfl

/-- A query finds a number, or fails. -/
lemma valueInt64Of_cases (arguments : List Argument) (key : CString) :
    (∃ k, valueInt64Of arguments key = (0, some k)) ∨ (valueInt64Of arguments key).1 < 0 := by
  rw [valueInt64Of]
  split
  · exact .inr (by simp)
  · rw [parsedInt64]
    split
    · exact .inr (by simp)
    · split_ifs
      · exact .inl ⟨_, rfl⟩
      · exact .inr (by simp)

/-- The side is the one the command line names, and the first one when it names none. -/
theorem containerMngsmAbBootSetup_side {size : CommandLineSize} {sys : ProcutilSys}
    (hsys : sys.Succeeds) {errno : ℕ} {content : List UInt8}
    (hshort : content.length < size.bufferSize) (hcut : CutOnce errno content)
    (containers : List ContainerConfig) :
    containerMngsmAbBootSetup size sys errno content containers =
      (containers.map fun cc =>
        { cc with baseconfig := { cc.baseconfig with
            abboot := if valueInt64Of (cmdlineArguments content) abbootCmdlineKey = (0, some 1)
              then 1 else 0 } }, 0) := by
  obtain ⟨pu, hpu, harguments⟩ := procutilCreate_arguments hsys hshort hcut.tokens
  have hquery : procutilGetCmdlineValueInt64 errno pu abbootCmdlineKey =
      valueInt64Of (cmdlineArguments content) abbootCmdlineKey := by
    rw [← harguments, query_eq_iff, harguments]
    exact fun herrno => hcut.values herrno abbootCmdlineKey
  simp only [containerMngsmAbBootSetup, hpu, hquery]
  rcases valueInt64Of_cases (cmdlineArguments content) abbootCmdlineKey with ⟨k, hk⟩ | hneg
  · rw [hk]
    by_cases hone : k = 1 <;> simp [hone]
  · have hne : valueInt64Of (cmdlineArguments content) abbootCmdlineKey ≠ (0, some 1) := by
      intro heq
      rw [heq] at hneg
      simp at hneg
    simp [hneg, hne]

end ContainerManager

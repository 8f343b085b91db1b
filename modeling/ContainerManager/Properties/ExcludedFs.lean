import ContainerManager.Devices.EventInfo

/-!
# Excluded file systems

The extra check of a new block device stops at the first rule of a known checker. So a device whose
file system is excluded is kept out unless the rule that excludes it stands behind one that lets it
through.
-/

namespace ContainerManager

/-- The event of a new block device on which a file system was found. -/
structure BlockAddEvent extends Uevent where
  fs : CString
  block : toUevent.Block
  isAdd : action = .ofString "add"
  hasFs : (extraCheckerDevnode pdev.properties).bind pdev.blockUtilGetfs = some fs

namespace DeviceRuleExtra

variable (pre : DeviceRuleExtra) (fs : CString)

/-- An `exclude-fs` rule for this file system. -/
def Excludes : Prop := pre.checker = some (.ofString "exclude-fs") ∧ pre.value = some fs

/-- A complete rule of a known checker. -/
def Decides : Prop :=
  (pre.checker = some (.ofString "exclude-fs") ∨ pre.checker = some (.ofString "include-fs")) ∧
    pre.value.isSome

/-- An `exclude-fs` rule for another file system, or an `include-fs` rule for this one. -/
def Allows : Prop :=
  pre.checker = some (.ofString "exclude-fs") ∧ pre.value.isSome ∧ pre.value ≠ some fs ∨
    pre.checker = some (.ofString "include-fs") ∧ pre.value = some fs

instance : Decidable (pre.Excludes fs) := inferInstanceAs (Decidable (_ ∧ _))

instance : Decidable pre.Decides := inferInstanceAs (Decidable (_ ∧ _))

instance : Decidable (pre.Allows fs) := inferInstanceAs (Decidable (_ ∨ _))

variable {pre fs}

lemma Excludes.decides (h : pre.Excludes fs) : pre.Decides := ⟨Or.inl h.1, by simp [h.2]⟩

lemma Allows.decides (h : pre.Allows fs) : pre.Decides := by
  rcases h with ⟨hc, hv, -⟩ | ⟨hc, hv⟩
  · exact ⟨Or.inl hc, hv⟩
  · exact ⟨Or.inr hc, by simp [hv]⟩

lemma Excludes.not_allows (h : pre.Excludes fs) : ¬ pre.Allows fs := by
  rintro (⟨-, -, hv⟩ | ⟨hc, -⟩)
  · exact hv h.2
  · exact absurd (h.1.symm.trans hc) (by decide)

end DeviceRuleExtra

/-- Some rule of the list excludes the file system. -/
def ExcludesFs (extraList : List DeviceRuleExtra) (fs : CString) : Prop :=
  ∃ pre ∈ extraList, pre.Excludes fs

instance (extraList : List DeviceRuleExtra) (fs : CString) : Decidable (ExcludesFs extraList fs) :=
  inferInstanceAs (Decidable (∃ pre ∈ extraList, pre.Excludes fs))

/-- One pass of the loop: a rule that decides ends it. -/
lemma extraCheckerRules_cons (fs : CString) (pre : DeviceRuleExtra) (rest : List DeviceRuleExtra) :
    extraCheckerRules fs (pre :: rest) =
      if pre.Decides then decide (pre.Allows fs) else extraCheckerRules fs rest := by
  obtain ⟨checker, value⟩ := pre
  have hne : (CString.ofString "include-fs") ≠ .ofString "exclude-fs" := by decide
  cases checker with
  | none => simp [extraCheckerRules, DeviceRuleExtra.Decides]
  | some checker =>
    cases value with
    | none => simp [extraCheckerRules, DeviceRuleExtra.Decides]
    | some value =>
      by_cases hex : checker = .ofString "exclude-fs"
      · simp [extraCheckerRules, DeviceRuleExtra.Decides, DeviceRuleExtra.Allows, hex, hne.symm,
          @eq_comm _ fs value]
      · by_cases hin : checker = .ofString "include-fs"
        · simp [extraCheckerRules, DeviceRuleExtra.Decides, DeviceRuleExtra.Allows, hin, hne,
            @eq_comm _ fs value]
        · simp [extraCheckerRules, DeviceRuleExtra.Decides, hex, hin]

/-- The rules accept a file system when the first rule that decides allows it. -/
lemma extraCheckerRules_iff (fs : CString) (extraList : List DeviceRuleExtra) :
    extraCheckerRules fs extraList = true ↔ ∃ before pre after,
      extraList = before ++ pre :: after ∧ (∀ x ∈ before, ¬ x.Decides) ∧ pre.Allows fs := by
  induction extraList with
  | nil => simp [extraCheckerRules]
  | cons x rest ih =>
    rw [extraCheckerRules_cons]
    by_cases hx : x.Decides
    · rw [if_pos hx, decide_eq_true_eq]
      constructor
      · intro hal
        exact ⟨[], x, rest, rfl, by simp, hal⟩
      · rintro ⟨before, pre, after, hl, hbefore, hal⟩
        cases before with
        | nil =>
          obtain ⟨rfl, -⟩ := List.cons.inj hl
          exact hal
        | cons y before =>
          obtain ⟨rfl, -⟩ := List.cons.inj hl
          exact absurd hx (hbefore _ List.mem_cons_self)
    · rw [if_neg hx, ih]
      constructor
      · rintro ⟨before, pre, after, rfl, hbefore, hal⟩
        refine ⟨x :: before, pre, after, rfl, ?_, hal⟩
        intro y hy
        rcases List.mem_cons.mp hy with rfl | hy
        · exact hx
        · exact hbefore y hy
      · rintro ⟨before, pre, after, hl, hbefore, hal⟩
        cases before with
        | nil =>
          obtain ⟨rfl, -⟩ := List.cons.inj hl
          exact absurd hal.decides hx
        | cons y before =>
          obtain ⟨rfl, rfl⟩ := List.cons.inj hl
          exact ⟨before, pre, after, rfl, fun z hz => hbefore z (List.mem_cons_of_mem _ hz), hal⟩

/-- What the check of a new block device accepts. -/
lemma extraCheckerBlockDevice_accepts_iff (e : BlockAddEvent) (extraList : List DeviceRuleExtra) :
    extraCheckerBlockDevice extraList e.pdev .add = 1 ↔
      e.fs ≠ .ofString "ext4" ∧ extraCheckerRules e.fs extraList = true := by
  simp only [extraCheckerBlockDevice, ne_eq, not_true, if_false, e.hasFs, forceExcludeFs,
    List.mem_singleton]
  by_cases hext : e.fs = .ofString "ext4"
  · simp [hext]
  · by_cases hr : extraCheckerRules e.fs extraList = true <;> simp [hext, hr]

/-- With these extra rules, the check only accepts a device whose file system is not ext4 and is
excluded by no rule, and no guest gets a device for an item whose rules exclude its file system. -/
structure ExclusionRespected (e : BlockAddEvent) (extraList : List DeviceRuleExtra) : Prop where
  check : extraCheckerBlockDevice extraList e.pdev .add = 1 →
    e.fs ≠ .ofString "ext4" ∧ ¬ ExcludesFs extraList e.fs
  judgment : ∀ (cc : DeviceGuest) (ref : ItemRef),
    deviceControlDynamicUdevRuleJudgment cc e.info e.pdev = .ok (true, some ref) →
    ref.ddei.rule.extraList = extraList → ¬ ExcludesFs extraList e.fs

/-- The item a judgment selects passed the extra check. -/
lemma ruleJudgment_extraAccepts {e : Uevent} {cc : DeviceGuest} {ref : ItemRef}
    (h : deviceControlDynamicUdevRuleJudgment cc e.info e.pdev = .ok (true, some ref)) :
    ref.ddei.MatchesButDevtype e := by
  rw [ruleJudgment_eq e.pdev (by simp) e.info_devpath] at h
  by_cases hstat : cc.runtimeStat.status ≠ .started
  · simp [hstat] at h
  rw [if_pos (not_not.mp hstat)] at h
  cases hfound : (scannedItems e.devpath 0 cc.dynamicDevlist).findM? fun ref : ItemRef =>
      ref.ddei.verdict e.info e.pdev with
  | error err => simp [hfound, Except.map] at h
  | ok found =>
    simp only [hfound, Except.map, Except.ok.injEq, Prod.mk.injEq] at h
    obtain ⟨-, rfl⟩ := h
    have hv := Search.findM?_some hfound
    rw [DeviceItem.matchesButDevtype_iff]
    by_cases happ : ref.ddei.Applies e.info
    · refine ⟨happ, ?_⟩
      cases hd : e.devtype with
      | none =>
        by_cases hl : ref.ddei.rule.devtypeList = []
        · simpa [DeviceItem.verdict, happ, hd, hl] using hv
        · simp [DeviceItem.verdict, happ, hd, hl] at hv
      | some devtype =>
        have hv : ref.ddei.HasDevtypePrefix devtype ∧ ref.ddei.ExtraAccepts e.info e.pdev := by
          simpa [DeviceItem.verdict, happ, hd] using hv
        exact hv.2
    · simp [DeviceItem.verdict, happ] at hv

/-- Exclusion is respected exactly when the file system is ext4, or no rule that excludes it stands
behind a first deciding rule that allows it. -/
theorem exclusionRespected_iff (e : BlockAddEvent) (extraList : List DeviceRuleExtra) :
    ExclusionRespected e extraList ↔ e.fs = .ofString "ext4" ∨
      ∀ before pre after, extraList = before ++ pre :: after → (∀ x ∈ before, ¬ x.Decides) →
        pre.Allows e.fs → ∀ x ∈ after, ¬ x.Excludes e.fs := by
  constructor
  · intro h
    by_cases hext : e.fs = .ofString "ext4"
    · exact Or.inl hext
    · right
      intro before pre after hl hbefore hal x hx hex
      have hrules :=
        (extraCheckerRules_iff e.fs extraList).mpr ⟨before, pre, after, hl, hbefore, hal⟩
      have hno := (h.check ((extraCheckerBlockDevice_accepts_iff e extraList).mpr ⟨hext, hrules⟩)).2
      exact hno ⟨x, by simp [hl, hx], hex⟩
  · intro h
    have hcheck : extraCheckerBlockDevice extraList e.pdev .add = 1 →
        e.fs ≠ .ofString "ext4" ∧ ¬ ExcludesFs extraList e.fs := by
      intro hacc
      obtain ⟨hext, hrules⟩ := (extraCheckerBlockDevice_accepts_iff e extraList).mp hacc
      refine ⟨hext, ?_⟩
      obtain ⟨before, pre, after, hl, hbefore, hal⟩ :=
        (extraCheckerRules_iff e.fs extraList).mp hrules
      rintro ⟨x, hx, hex⟩
      rw [hl, List.mem_append, List.mem_cons] at hx
      rcases hx with hx | rfl | hx
      · exact hbefore x hx hex.decides
      · exact hex.not_allows hal
      · exact h.resolve_left hext before pre after hl hbefore hal x hx hex
    refine ⟨hcheck, ?_⟩
    intro cc ref hj hl hex
    have hextra := (ruleJudgment_extraAccepts hj).extra e.block
    have hne : ref.ddei.rule.extraList ≠ [] := by
      obtain ⟨x, hx, -⟩ := hex
      rw [hl]
      exact List.ne_nil_of_mem hx
    have hcode : e.actionCode = .add := by
      rw [Uevent.actionCode, e.isAdd]
      rfl
    rw [hl, hcode] at hextra
    exact (hcheck (hextra (hl ▸ hne))).2 hex

/-! ### Two excluded file systems -/

/-- A partition with the file system vfat is plugged in. -/
def vfatEvent : BlockAddEvent where
  pdev := {
    properties := [(.ofString "ACTION", .ofString "add"),
      (.ofString "DEVPATH", .ofString "/devices/usb1/block/sdb/sdb1"),
      (.ofString "SUBSYSTEM", .ofString "block"), (.ofString "DEVTYPE", .ofString "partition"),
      (.ofString "DEVNAME", .ofString "/dev/sdb1")]
    blockUtilGetfs := fun _ => some (.ofString "vfat") }
  action := .ofString "add"
  devpath := .ofString "/devices/usb1/block/sdb/sdb1"
  subsystem := .ofString "block"
  hasAction := by decide
  hasDevpath := by decide
  hasSubsystem := by decide
  fs := .ofString "vfat"
  block := by decide
  isAdd := rfl
  hasFs := by decide

/-- Extra rules that exclude ntfs and vfat. -/
def twoExcludes : List DeviceRuleExtra :=
  [⟨some (.ofString "exclude-fs"), some (.ofString "ntfs")⟩,
    ⟨some (.ofString "exclude-fs"), some (.ofString "vfat")⟩]

theorem vfatEvent_accepted :
    extraCheckerBlockDevice twoExcludes vfatEvent.pdev .add = 1 ∧
    ExcludesFs twoExcludes vfatEvent.fs ∧ ¬ ExclusionRespected vfatEvent twoExcludes := by
  have hacc : extraCheckerBlockDevice twoExcludes vfatEvent.pdev .add = 1 := by decide
  have hex : ExcludesFs twoExcludes vfatEvent.fs := by decide
  exact ⟨hacc, hex, fun h => (h.check hacc).2 hex⟩

end ContainerManager

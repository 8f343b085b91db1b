import ContainerManager.Devices.Uevent
import ContainerManager.Lib.Search

/-!
# The judgment as a search

The nested loops of the judgment are a search through one list: the items a uevent scans, in guest,
entry and item order. The result flag is clear whenever the test of an item begins, so an item is
tested on its own.
-/

namespace ContainerManager

/-! ### One item -/

/-- The item is for this subsystem and its rule enables the action. -/
def DeviceItem.Applies (ddei : DeviceItem) (udi : UeventDeviceInfo) : Prop :=
  ddei.subsystem.isSome ∧ ddei.subsystem = udi.subsystem ∧
    ddei.rule.action.flag (deviceControlDynamicUdevGetUeventActionCode udi.action) = true

instance (ddei : DeviceItem) (udi : UeventDeviceInfo) : Decidable (ddei.Applies udi) :=
  inferInstanceAs (Decidable (_ ∧ _))

/-- The extra check of the event, where there is one and the item has extra rules, accepts. -/
def DeviceItem.ExtraAccepts (ddei : DeviceItem) (udi : UeventDeviceInfo)
    (pdev : UdevDevice) : Prop :=
  ∀ f ∈ udi.checkerFunc, ddei.rule.extraList ≠ [] →
    f.call ddei.rule.extraList pdev (deviceControlDynamicUdevGetUeventActionCode udi.action) = 1

instance (ddei : DeviceItem) (udi : UeventDeviceInfo) (pdev : UdevDevice) :
    Decidable (ddei.ExtraAccepts udi pdev) :=
  inferInstanceAs (Decidable (∀ f ∈ udi.checkerFunc, _ → _))

/-- The device type test of the code: the type of the event is a prefix of a listed one. -/
def DeviceItem.HasDevtypePrefix (ddei : DeviceItem) (devtype : CString) : Prop :=
  ddei.rule.devtypeList = [] ∨ ∃ ssli ∈ ddei.rule.devtypeList, devtype.IsPrefix ssli.string

instance (ddei : DeviceItem) (devtype : CString) : Decidable (ddei.HasDevtypePrefix devtype) :=
  inferInstanceAs (Decidable (_ ∨ _))

/-- What the code finds out about an item. -/
def DeviceItem.verdict (ddei : DeviceItem) (udi : UeventDeviceInfo) (pdev : UdevDevice) :
    Except NullRead Bool :=
  if ¬ ddei.Applies udi then .ok false
  else
    match udi.devtype with
    | none =>
      if ddei.rule.devtypeList = [] then .ok (ddei.ExtraAccepts udi pdev) else .error .nullRead
    | some devtype => .ok (ddei.HasDevtypePrefix devtype ∧ ddei.ExtraAccepts udi pdev)

lemma testAction_eq_non_iff (actionstr : Option CString) (action : UeventAction) :
    deviceControlDynamicUdevTestAction actionstr action = .non ↔
      ¬ action.flag (deviceControlDynamicUdevGetUeventActionCode actionstr) = true := by
  simp only [deviceControlDynamicUdevTestAction]
  split_ifs with h
  · constructor
    · intro hnon
      rw [hnon, UeventAction.flag_non] at h
      simp at h
    · intro hno
      exact absurd h hno
  · simp [h]

lemma testAction_of_flag {actionstr : Option CString} {action : UeventAction}
    (h : action.flag (deviceControlDynamicUdevGetUeventActionCode actionstr) = true) :
    deviceControlDynamicUdevTestAction actionstr action =
      deviceControlDynamicUdevGetUeventActionCode actionstr := by
  simp only [deviceControlDynamicUdevTestAction, h, if_true]

/-- Once set, the flag stays set. -/
lemma judgeDevtypes_some (devtype : CString) (result : Bool) (l : List ShortString) :
    judgeDevtypes (some devtype) result l =
      .ok (result || decide (∃ ssli ∈ l, devtype.IsPrefix ssli.string)) := by
  induction l generalizing result with
  | nil => simp [judgeDevtypes]
  | cons ssli l ih =>
    by_cases h : devtype.IsPrefix ssli.string
    · simp [judgeDevtypes, readString, CString.strncmpEq_length_right, h, ih, bind, Except.bind]
    · simp [judgeDevtypes, readString, CString.strncmpEq_length_right, h, ih, bind, Except.bind]

lemma judgeDevtypes_none (result : Bool) {l : List ShortString} (h : l ≠ []) :
    judgeDevtypes none result l = .error .nullRead := by
  cases l with
  | nil => exact absurd rfl h
  | cons ssli l => rfl

lemma judgeExtra_clear (udi : UeventDeviceInfo) (pdev : UdevDevice) (ddei : DeviceItem)
    (a : UeventActionCode) : judgeExtra udi pdev ddei ⟨a, false⟩ = ⟨a, false⟩ := by
  cases h : udi.checkerFunc <;> simp [judgeExtra, h]

lemma extraAccepts_iff {udi : UeventDeviceInfo} {f : ExtraCheckerFunc}
    (h : udi.checkerFunc = some f) (pdev : UdevDevice) (ddei : DeviceItem) :
    ddei.ExtraAccepts udi pdev ↔ (ddei.rule.extraList ≠ [] →
      f.call ddei.rule.extraList pdev
        (deviceControlDynamicUdevGetUeventActionCode udi.action) = 1) := by
  constructor
  · intro hacc
    exact hacc f h
  · intro hcall g hg
    obtain rfl : f = g := Option.some.inj (h.symm.trans hg)
    exact hcall

lemma judgeExtra_eq (udi : UeventDeviceInfo) (pdev : UdevDevice) (ddei : DeviceItem) (r : Bool) :
    judgeExtra udi pdev ddei ⟨deviceControlDynamicUdevGetUeventActionCode udi.action, r⟩ =
      ⟨deviceControlDynamicUdevGetUeventActionCode udi.action,
        r && decide (ddei.ExtraAccepts udi pdev)⟩ := by
  cases h : udi.checkerFunc with
  | none => simp [judgeExtra, DeviceItem.ExtraAccepts, h]
  | some f =>
    have hacc := extraAccepts_iff h pdev ddei
    by_cases hyes : ddei.ExtraAccepts udi pdev
    · have hcall := hacc.mp hyes
      have hno : ¬ (r = true ∧ ddei.rule.extraList ≠ [] ∧ f.call ddei.rule.extraList pdev
          (deviceControlDynamicUdevGetUeventActionCode udi.action) ≠ 1) := by
        rintro ⟨-, hne, hcall'⟩
        exact hcall' (hcall hne)
      simp only [judgeExtra, h, hno, if_false, hyes, decide_true, Bool.and_true]
    · have hcall := mt hacc.mpr hyes
      rw [Classical.not_imp] at hcall
      cases r with
      | false => simp [judgeExtra, h]
      | true => simp [judgeExtra, h, hcall.1, hcall.2, hyes]

/-- From a clear flag, the pass over an item finds out its verdict. -/
lemma judgeItem_clear {udi : UeventDeviceInfo} (pdev : UdevDevice) (ddei : DeviceItem)
    (hsub : udi.subsystem.isSome) (a : UeventActionCode) :
    ∃ a', judgeItem udi pdev ddei ⟨a, false⟩ =
      (ddei.verdict udi pdev).map fun b => (⟨a', b⟩, b) := by
  obtain ⟨s, hs⟩ := Option.isSome_iff_exists.mp hsub
  by_cases happ : ddei.Applies udi
  · obtain ⟨hsome, heq, hflag⟩ := happ
    have happ : ddei.Applies udi := ⟨hsome, heq, hflag⟩
    have hnon : deviceControlDynamicUdevTestAction udi.action ddei.rule.action ≠ .non := by
      rw [Ne, testAction_eq_non_iff]
      simpa using hflag
    refine ⟨deviceControlDynamicUdevGetUeventActionCode udi.action, ?_⟩
    simp only [judgeItem, heq, hs, readString, bind, Except.bind, if_true, hnon, if_false,
      DeviceItem.verdict, happ, not_true]
    rw [testAction_of_flag hflag]
    cases hdev : udi.devtype with
    | none =>
      by_cases hl : ddei.rule.devtypeList = []
      · simp [hl, judgeExtra_eq, Except.map]
      · simp [hl, judgeDevtypes_none, Except.map]
    | some devtype =>
      by_cases hl : ddei.rule.devtypeList = []
      · simp [hl, judgeExtra_eq, Except.map, DeviceItem.HasDevtypePrefix]
      · simp [hl, judgeDevtypes_some, judgeExtra_eq, Except.map, DeviceItem.HasDevtypePrefix]
  · have hv : ddei.verdict udi pdev = .ok false := by simp [DeviceItem.verdict, happ]
    rw [hv]
    cases hd : ddei.subsystem with
    | none => exact ⟨a, by simp [judgeItem, hd, Except.map]⟩
    | some subsystem =>
      by_cases hne : subsystem = s
      · have hflag : deviceControlDynamicUdevTestAction udi.action ddei.rule.action = .non := by
          rw [testAction_eq_non_iff]
          intro hflag
          exact happ ⟨by simp [hd], by rw [hd, hs, hne], hflag⟩
        exact ⟨.non, by simp [judgeItem, hd, hs, hne, hflag, readString, bind, Except.bind,
          Except.map]⟩
      · exact ⟨a, by simp [judgeItem, hd, hs, hne, readString, bind, Except.bind, Except.map,
          judgeExtra_clear]⟩

/-! ### The items a uevent scans -/

/-- The items of the entries whose device path is a prefix of `devpath`, in order; the entries are
numbered from `k` on. -/
def scannedItems (devpath : CString) (k : ℕ) (entries : List DeviceEntry) : List ItemRef :=
  (entries.zipIdx k).flatMap fun e =>
    if ∃ prefixPath ∈ e.1.devpath, prefixPath.IsPrefix devpath then
      (e.1.items.zipIdx).map fun i => ⟨e.2, i.2, i.1⟩
    else []

/-- The items of the started guests that a uevent of this device path scans. -/
def scannedDevices {n : ℕ} (guests : Fin n → DeviceGuest) (devpath : CString) :
    List (Fin n × ItemRef) :=
  (List.finRange n).flatMap fun i =>
    if (guests i).runtimeStat.status = .started then
      (scannedItems devpath 0 (guests i).dynamicDevlist).map fun ref => (i, ref)
    else []

section Loops

variable {udi : UeventDeviceInfo} (pdev : UdevDevice) {devpath : CString}

/-- The result of a loop over items or entries that started with a clear flag. -/
def judged (r : Except NullRead (Option ItemRef)) (a : UeventActionCode) :
    Except NullRead (JudgmentVars × Option ItemRef) :=
  r.map fun ref => (⟨a, ref.isSome⟩, ref)

lemma judgeItems_clear (hsub : udi.subsystem.isSome) (k l : ℕ) (items : List DeviceItem)
    (a : UeventActionCode) :
    ∃ a', judgeItems udi pdev k l items ⟨a, false⟩ =
      judged (((items.zipIdx l).map fun i => ⟨k, i.2, i.1⟩).findM? fun ref : ItemRef =>
        ref.ddei.verdict udi pdev) a' := by
  induction items generalizing l a with
  | nil => exact ⟨a, rfl⟩
  | cons ddei items ih =>
    obtain ⟨a', ha'⟩ := judgeItem_clear pdev ddei hsub a
    obtain ⟨a'', ha''⟩ := ih (l + 1) a'
    simp only [judgeItems, ha', List.zipIdx_cons, List.map_cons, List.findM?]
    cases ddei.verdict udi pdev with
    | error e => exact ⟨a', rfl⟩
    | ok b =>
      cases b with
      | true => exact ⟨a', rfl⟩
      | false => exact ⟨a'', ha''⟩

lemma judgeEntries_clear (hsub : udi.subsystem.isSome) (hpath : udi.devpath = some devpath) (k : ℕ)
    (entries : List DeviceEntry) (a : UeventActionCode) :
    ∃ a', judgeEntries udi pdev k entries ⟨a, false⟩ =
      judged ((scannedItems devpath k entries).findM? fun ref => ref.ddei.verdict udi pdev) a' := by
  induction entries generalizing k a with
  | nil => exact ⟨a, rfl⟩
  | cons cdde entries ih =>
    have hcons : scannedItems devpath k (cdde :: entries) =
        (if ∃ prefixPath ∈ cdde.devpath, prefixPath.IsPrefix devpath then
          (cdde.items.zipIdx).map fun i => ⟨k, i.2, i.1⟩ else []) ++
        scannedItems devpath (k + 1) entries := by
      simp [scannedItems]
    rw [hcons, Search.findM?_append]
    cases hd : cdde.devpath with
    | none =>
      obtain ⟨a', ha'⟩ := ih (k + 1) a
      exact ⟨a', by simpa [judgeEntries, hd, bind, Except.bind, pure, Except.pure] using ha'⟩
    | some prefixPath =>
      by_cases hp : prefixPath.IsPrefix devpath
      · obtain ⟨a', ha'⟩ := judgeItems_clear pdev hsub k 0 cdde.items a
        obtain ⟨a'', ha''⟩ := ih (k + 1) a'
        simp only [judgeEntries, hd, hpath, readString, bind, Except.bind,
          CString.strncmpEq_length_left, hp, if_true, Option.mem_some_iff, exists_eq_left']
        rw [ha']
        cases hr : (cdde.items.zipIdx.map fun i => (⟨k, i.2, i.1⟩ : ItemRef)).findM?
            fun ref => ref.ddei.verdict udi pdev with
        | error e => exact ⟨a', rfl⟩
        | ok found =>
          cases found with
          | none => exact ⟨a'', ha''⟩
          | some ref => exact ⟨a', rfl⟩
      · obtain ⟨a', ha'⟩ := ih (k + 1) a
        refine ⟨a', ?_⟩
        simpa [judgeEntries, hd, hpath, readString, CString.strncmpEq_length_left, hp, bind,
          Except.bind, pure, Except.pure] using ha'

/-- The judgment of one guest is the search through its items. -/
lemma ruleJudgment_eq (hsub : udi.subsystem.isSome) (hpath : udi.devpath = some devpath)
    (cc : DeviceGuest) :
    deviceControlDynamicUdevRuleJudgment cc udi pdev =
      if cc.runtimeStat.status = .started then
        ((scannedItems devpath 0 cc.dynamicDevlist).findM? fun ref : ItemRef =>
          ref.ddei.verdict udi pdev).map fun ref => (ref.isSome, ref)
      else .ok (false, none) := by
  obtain ⟨a, ha⟩ := judgeEntries_clear pdev hsub hpath 0 cc.dynamicDevlist .non
  simp only [deviceControlDynamicUdevRuleJudgment]
  by_cases hstat : cc.runtimeStat.status = .started
  · simp only [hstat, ne_eq, not_true, if_false, if_true]
    rw [ha]
    cases (scannedItems devpath 0 cc.dynamicDevlist).findM? fun ref =>
        ref.ddei.verdict udi pdev with
    | error e => rfl
    | ok found => rfl
  · simp [hstat]

/-- The target of a uevent is found by the search through the items it scans. -/
theorem getTargetContainer_eq {n : ℕ} (guests : Fin n → DeviceGuest)
    (hsub : udi.subsystem.isSome) (hpath : udi.devpath = some devpath) :
    deviceControlDynamicUdevGetTargetContainer guests udi pdev =
      ((scannedDevices guests devpath).findM? fun d : Fin n × ItemRef =>
        d.2.ddei.verdict udi pdev).map (Option.map fun d => (d.1, some d.2)) := by
  simp only [deviceControlDynamicUdevGetTargetContainer, scannedDevices]
  induction List.finRange n with
  | nil => rfl
  | cons i l ih =>
    rw [List.flatMap_cons, Search.findM?_append, judgeGuests, ih,
      ruleJudgment_eq pdev hsub hpath]
    by_cases hstat : (guests i).runtimeStat.status = .started
    · simp only [hstat, if_true, Search.findM?_map]
      cases (scannedItems devpath 0 (guests i).dynamicDevlist).findM? fun ref =>
          ref.ddei.verdict udi pdev with
      | error e => rfl
      | ok found => cases found <;> rfl
    · simp only [hstat, if_false]
      rfl

end Loops

end ContainerManager

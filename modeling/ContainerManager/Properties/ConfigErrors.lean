import ContainerManager.Lxc.Rendering

/-!
# Errors of the configuration

Whether an instance is created only when every item and every device was set. The result of all the
calls that set one is looked at, except for the device of a device node that is allowed.
-/

namespace ContainerManager

open Script

/-- The call sets an item or a device. -/
def LxcCall.SetsItem : LxcCall → Prop
  | .item .. => True
  | .device .. => True
  | _ => False

/-- A creation that succeeds set everything it meant to, and one that fails leaves nothing
behind. -/
structure ErrorsPropagate (cc : InstanceConfig) : Prop where
  success : ∀ sys st, (cc.lxcutilCreateInstance sys st).2.1 = 0 →
    ∀ c ∈ (cc.lxcutilCreateInstance sys st).2.2, c.1.SetsItem → c.1.ok c.2 = true
  failure : ∀ sys st, (cc.lxcutilCreateInstance sys st).2.1 ≠ 0 →
    (cc.lxcutilCreateInstance sys st).1.runtimeStat.lxc = none ∧
      (cc.lxcutilCreateInstance sys st).1.runtimeStat.pid = -1 ∧
      (cc.lxcutilCreateInstance sys st).1.cgroup = {}

/-! ### Calls whose result is not looked at -/

/-- The result of every call that sets an item or a device is looked at. -/
def ItemsChecked (ops : ConfigScript) : Prop := ∀ call, Op.call call none ∈ ops → ¬ call.SetsItem

section Checked

variable {ops ops' : ConfigScript} {key : CString} {value : Option CString} {p : Line 1024}
  {size : ℤ} {text : CString} {onCut : ConfigScript} {next : Line 1024 → ConfigScript}

@[simp] lemma itemsChecked_nil : ItemsChecked [] := by simp [ItemsChecked]

@[simp] lemma itemsChecked_leave {ret : ℤ} : ItemsChecked [.leave ret] := by simp [ItemsChecked]

@[simp] lemma itemsChecked_call {call : LxcCall} {ret : ℤ} :
    ItemsChecked (.call call (some ret) :: ops) ↔ ItemsChecked ops := by simp [ItemsChecked]

@[simp] lemma itemsChecked_append :
    ItemsChecked (ops ++ ops') ↔ ItemsChecked ops ∧ ItemsChecked ops' := by
  simp only [ItemsChecked, List.mem_append, or_imp, forall_and]

lemma itemsChecked_flatMap {ι : Type*} {l : List ι} {f : ι → ConfigScript} :
    ItemsChecked (l.flatMap f) ↔ ∀ i ∈ l, ItemsChecked (f i) := by
  simp only [ItemsChecked, List.mem_flatMap]
  exact ⟨fun h i hi call hc => h call ⟨i, hi, hc⟩, fun h call ⟨i, hi, hc⟩ => h i hi call hc⟩

lemma mem_onError_unchecked {call : LxcCall} {ret : ℤ} :
    Op.call call none ∈ onError ret ops ↔ Op.call call none ∈ ops := by
  rw [mem_onError_call]
  constructor
  · rintro ⟨onFail, h, e⟩
    rwa [Option.map_eq_none_iff.mp e.symm] at h
  · intro h
    exact ⟨none, h, rfl⟩

@[simp] lemma itemsChecked_onError {ret : ℤ} :
    ItemsChecked (onError ret ops) ↔ ItemsChecked ops := by
  simp only [ItemsChecked, mem_onError_unchecked]

@[simp] lemma itemsChecked_prints : ItemsChecked (prints p) := by
  intro call hc
  obtain ⟨access, -, e⟩ := List.mem_map.mp hc
  obtain ⟨rfl, -⟩ := Op.call.inj e
  exact id

@[simp] lemma itemsChecked_setConfigItem : ItemsChecked (setConfigItem key value) := by
  simp [setConfigItem]

@[simp] lemma itemsChecked_setOptionalItem : ItemsChecked (setOptionalItem key value) := by
  cases value <;> simp [setOptionalItem]

@[simp] lemma itemsChecked_setLine : ItemsChecked (setLine key p) := by simp [setLine]

@[simp] lemma itemsChecked_setCgroupDevice {isAllow : Bool} {value : String} :
    ItemsChecked (setCgroupDevice isAllow value) := by simp [setCgroupDevice]

@[simp] lemma itemsChecked_otherCall {call : OtherCall} {onFail : ℤ} :
    ItemsChecked (otherCall call onFail) := by simp [otherCall]

lemma itemsChecked_withLine (hcut : ItemsChecked onCut) (hnext : ∀ p, ItemsChecked (next p)) :
    ItemsChecked (withLine size text onCut next) := by
  simp only [withLine]
  split_ifs
  · simpa using hcut
  · exact hnext _

lemma itemsChecked_setPrinted (hcut : ItemsChecked onCut) :
    ItemsChecked (setPrinted key size text onCut) :=
  itemsChecked_withLine hcut fun p => by simp

end Checked

/-! ### The parts -/

section Parts

lemma itemsChecked_setCap (key : String) (cap : Option String) : ItemsChecked (setCap key cap) := by
  cases cap with
  | none => exact itemsChecked_nil
  | some cap =>
    simp only [setCap]
    split_ifs <;> simp

lemma itemsChecked_setIdmaps (idmaps : IdMaps) : ItemsChecked (setIdmaps idmaps) := by
  rw [setIdmaps]
  split_ifs
  · simp [itemsChecked_setPrinted]
  · exact itemsChecked_nil

lemma itemsChecked_lxcutilSetConfigBase (bc : BaseConfig) :
    ItemsChecked (lxcutilSetConfigBase bc) := by
  have hdisk : ∀ d, ItemsChecked (setExtradisk d) := fun d =>
    itemsChecked_setPrinted itemsChecked_nil
  simp [lxcutilSetConfigBase, itemsChecked_flatMap, hdisk, itemsChecked_setCap,
    itemsChecked_setIdmaps, setMountAuto, itemsChecked_setPrinted]

lemma itemsChecked_lxcutilSetConfigResource (perGuestVersion cgroupVer msTime : ℤ) (name : CString)
    (l : List ResourceElem) :
    ItemsChecked (lxcutilSetConfigResource perGuestVersion cgroupVer msTime name l) := by
  have hnode : ∀ node object value, ItemsChecked (lxcutilSetConfigResourceNode node object value) :=
    fun node object value => itemsChecked_withLine itemsChecked_leave fun p => by simp
  rw [lxcutilSetConfigResource, itemsChecked_append, itemsChecked_flatMap]
  constructor
  · rw [lxcutilCreatePerGuestCgroup]
    split_ifs <;> simp [lxcutilCreatePerGuestCgroupV1, itemsChecked_setPrinted]
  · intro r _
    rw [setResource]
    cases r.type with
    | cgroupV1 => dsimp only; split_ifs <;> simp [hnode]
    | cgroupV2 => dsimp only; split_ifs <;> simp [hnode]
    | prlimit => simp [hnode]
    | sysctl => simp [hnode]

lemma itemsChecked_lxcutilSetConfigFs (fsc : FsConfig) : ItemsChecked (lxcutilSetConfigFs fsc) := by
  rw [lxcutilSetConfigFs, itemsChecked_flatMap]
  intro melem _
  split <;> simp [itemsChecked_setPrinted]

lemma itemsChecked_lxcutilSetConfigStaticNetif (msTime : ℕ → ℤ) (netifs : List StaticNetifElem) :
    ItemsChecked (lxcutilSetConfigStaticNetif msTime netifs) := by
  rw [lxcutilSetConfigStaticNetif, itemsChecked_flatMap]
  intro netelem _
  split <;> simp [lxcutilSetConfigStaticNetifVeth, setVxcan]

lemma itemsChecked_setGpio (stale : ℤ) (gpioelem : StaticGpioElem) :
    ItemsChecked (setGpio stale gpioelem) := by
  rw [setGpio]
  split
  · exact itemsChecked_leave
  · apply itemsChecked_withLine itemsChecked_nil
    intro p
    dsimp only
    split_ifs <;> simp

lemma itemsChecked_setIio (iioelem : StaticIioElem) : ItemsChecked (setIio iioelem) := by
  have hdev : ItemsChecked (setIioDev iioelem) := by
    simp only [setIioDev]
    split
    · split_ifs
      · apply itemsChecked_withLine itemsChecked_nil
        intro p
        simp only [itemsChecked_append, itemsChecked_prints, itemsChecked_setLine, true_and]
        exact itemsChecked_withLine itemsChecked_nil fun p => by simp
      · exact itemsChecked_leave
      · exact itemsChecked_nil
    · exact itemsChecked_nil
  rw [setIio]
  split
  · split
    · exact itemsChecked_nil
    · exact itemsChecked_leave
  · exact itemsChecked_withLine itemsChecked_nil fun p => by simp [hdev]

/-- The device node is found and its entry is set. -/
def StaticDeviceElem.IsSet (e : StaticDeviceElem) : Prop :=
  e.isValid ∧ ¬ LineCut 1023 (bindText e.mountFrom e.mountTo " none bind,rw")

/-- A device that is set is allowed, and the result is not looked at. -/
lemma itemsChecked_setDevnode {e : StaticDeviceElem} : ItemsChecked (setDevnode e) ↔ ¬ e.IsSet := by
  have hallow : ¬ LineCut 1023 (devnodeAllowText e) := by
    have hlen := devnodeAllowText_length e
    exact not_lineCut_of_lt (by omega)
  rw [setDevnode, StaticDeviceElem.IsSet]
  by_cases hv : e.isValid = true
  · rw [if_neg (by simp [hv]), if_neg (by simp [hv]), withLine]
    simp only [printLine_cut (show (0 : ℤ) ≤ 1023 by omega), hv, true_and]
    by_cases hc : LineCut 1023 (bindText e.mountFrom e.mountTo " none bind,rw")
    · simp [hc]
    · simp only [withLine, printLine_cut (show (0 : ℤ) ≤ 1023 by omega), if_neg hallow, if_neg hc]
      simp only [itemsChecked_append, hc, not_false_eq_true, not_true, iff_false]
      intro h
      exact h.2.2 _ (List.mem_singleton.mpr rfl) trivial
  · by_cases ho : e.optional = 0 <;> simp [hv, ho]

lemma itemsChecked_lxcutilSetConfigStaticDevice {stale : ℤ} {devc : StaticDevices} :
    ItemsChecked (lxcutilSetConfigStaticDevice stale devc) ↔
      ∀ e ∈ devc.staticDevlist, ¬ e.IsSet := by
  have hdefault : ItemsChecked (if devc.enableProtection = 1 then
      onError (-1) lxcutilSetConfigStaticDeviceDefault else []) := by
    split_ifs
    · simp [lxcutilSetConfigStaticDeviceDefault, itemsChecked_flatMap]
    · exact itemsChecked_nil
  simp [lxcutilSetConfigStaticDevice, itemsChecked_flatMap, hdefault, itemsChecked_setDevnode,
    itemsChecked_setGpio, itemsChecked_setIio]

lemma itemsChecked_createInstanceScript {sys : InstanceSys} {cc : InstanceConfig} :
    ItemsChecked (createInstanceScript sys cc) ↔ ∀ e ∈ cc.devices.staticDevlist, ¬ e.IsSet := by
  simp [createInstanceScript, itemsChecked_lxcutilSetConfigBase, itemsChecked_lxcutilSetConfigFs,
    itemsChecked_lxcutilSetConfigResource, itemsChecked_lxcutilSetConfigStaticNetif,
    itemsChecked_lxcutilSetConfigStaticDevice]

end Parts

/-! ### Creations -/

/-- No device node is allowed, or no creation comes to its end. -/
def InstanceConfig.NoneAllowed (cc : InstanceConfig) : Prop :=
  ¬ LineCut 1023 (rootfsPathText cc.baseconfig.rootfs) → ResourcesFit cc.resourcelist →
    (∃ stale, GoesOn stale cc.devices) → ∀ e ∈ cc.devices.staticDevlist, ¬ e.IsSet

section Creation

variable {cc : InstanceConfig} {sys : InstanceSys} {st : InstanceState}

/-- A creation that succeeds is a run that does. -/
lemma lxcutilCreateInstance_eq_zero (h : (cc.lxcutilCreateInstance sys st).2.1 = 0) :
    (cc.lxcutilCreateInstance sys st).2.2 =
        (run LxcCall.ok sys.answer (createInstanceScript sys cc)).calls ∧
      (run LxcCall.ok sys.answer (createInstanceScript sys cc)).ret = 0 := by
  have hle : (run LxcCall.ok sys.answer (createInstanceScript sys cc)).ret ≤ 0 :=
    run_ret_nonpos (errors_createInstanceScript sys cc)
  simp only [InstanceConfig.lxcutilCreateInstance] at h ⊢
  split at h
  · simp at h
  · split_ifs at h with hret
    · simp at h
    · simp only [if_neg hret, true_and]
      omega

/-- A creation that fails releases the instance. -/
lemma lxcutilCreateInstance_ne_zero (h : (cc.lxcutilCreateInstance sys st).2.1 ≠ 0) :
    (cc.lxcutilCreateInstance sys st).1 = st.release := by
  simp only [InstanceConfig.lxcutilCreateInstance] at h ⊢
  split at h
  · rfl
  · split_ifs at h with hret
    · simp [hret]
    · simp at h

/-- A run that succeeds is a creation. -/
lemma lxcutilCreateInstance_of_run {plxc : LxcContainer} (hplxc : sys.created = some plxc)
    (h : (run LxcCall.ok sys.answer (createInstanceScript sys cc)).ret = 0) :
    (cc.lxcutilCreateInstance sys st).2 =
      (0, (run LxcCall.ok sys.answer (createInstanceScript sys cc)).calls) := by
  simp [InstanceConfig.lxcutilCreateInstance, hplxc, h]

/-- Where a device node is allowed by a creation that comes to its end, it may fail unnoticed. -/
lemma exists_unnoticed {stale : ℤ} (hroot : ¬ LineCut 1023 (rootfsPathText cc.baseconfig.rootfs))
    (hfit : ResourcesFit cc.resourcelist) (hgo : GoesOn stale cc.devices) {e : StaticDeviceElem}
    (he : e ∈ cc.devices.staticDevlist) (hset : e.IsSet) : ∃ sys : InstanceSys, ∀ st,
      (cc.lxcutilCreateInstance sys st).2.1 = 0 ∧
        ∃ c ∈ (cc.lxcutilCreateInstance sys st).2.2, c.1.SetsItem ∧ c.1.ok c.2 = false := by
  let sys (answer : ℕ → LxcAnswer) : InstanceSys :=
    ⟨some ⟨1⟩, 2, 0, 0, fun _ => 0, stale, answer⟩
  -- the script does not depend on the answers
  have hscript : ∀ answer, createInstanceScript (sys answer) cc =
      createInstanceScript (sys fun _ => ⟨1, true⟩) cc := fun _ => rfl
  have hcompletes : Completes (createInstanceScript (sys fun _ => ⟨1, true⟩) cc) :=
    (completes_createInstanceScript _ cc).mpr
      ⟨hroot, completes_lxcutilSetConfigResource.mpr hfit, hgo⟩
  have hunchecked : ¬ ItemsChecked (createInstanceScript (sys fun _ => ⟨1, true⟩) cc) := by
    rw [itemsChecked_createInstanceScript]
    exact fun h => h e he hset
  simp only [ItemsChecked, not_forall, not_not] at hunchecked
  obtain ⟨call, hcall, hsets⟩ := hunchecked
  have hfail : call.ok ⟨0, false⟩ = false := by
    cases call <;> simp_all [LxcCall.ok, LxcCall.SetsItem]
  have hall : AllSucceed fun _ => ⟨1, true⟩ := fun _ => ⟨rfl, .inl rfl⟩
  have hsucc : ∀ call : LxcCall, ∃ answer, call.ok answer = true := fun call => ⟨_, hall.ok 0 call⟩
  obtain ⟨answer, hret, hmem⟩ := exists_run_unchecked hsucc hcompletes hcall hfail
  refine ⟨sys answer, fun st => ?_⟩
  rw [← hscript answer] at hret hmem
  rw [lxcutilCreateInstance_of_run rfl hret]
  exact ⟨rfl, _, hmem, hsets, hfail⟩

/-- A failure is noticed, or leaves a clean state, exactly when no device node is allowed. -/
theorem config_errors_propagate_iff (cc : InstanceConfig) :
    ErrorsPropagate cc ↔ cc.NoneAllowed := by
  constructor
  · rintro h hroot hfit ⟨stale, hgo⟩ e he hset
    obtain ⟨sys, hsys⟩ := exists_unnoticed hroot hfit hgo he hset
    obtain ⟨hret, c, hc, hsets, hfail⟩ := hsys {}
    simp [h.success sys {} hret c hc hsets] at hfail
  · intro h
    constructor
    · intro sys st hret c hc hsets
      obtain ⟨hcalls, hrun⟩ := lxcutilCreateInstance_eq_zero hret
      rw [hcalls] at hc
      obtain ⟨hcompletes, hfailed⟩ := run_ret_eq_zero (errors_createInstanceScript sys cc) hrun
      obtain ⟨hroot, hres, hgo⟩ := (completes_createInstanceScript sys cc).mp hcompletes
      have hnone := h hroot (resourcesFit_of_completes hres) ⟨_, hgo⟩
      by_contra hok
      exact itemsChecked_createInstanceScript.mpr hnone c.1
        (hfailed c hc (by simpa using hok)) hsets
    · intro sys st hret
      rw [lxcutilCreateInstance_ne_zero hret]
      exact ⟨rfl, rfl, rfl⟩

end Creation

/-! ### A device that is not allowed -/

/-- A guest with a device node that was found. -/
def devnodeConfig : InstanceConfig where
  name := .ofString "guest"
  baseconfig := { rootfs := { path := some "/rootfs" } }
  devices := { staticDevlist := [{
    mountFrom := .ofString "/dev/rtc0"
    mountTo := .ofString "dev/rtc0"
    devnode := .ofString "/dev/rtc0"
    isValid := true
    devtype := .chr
    major := 254 }] }

/-- The guest is created although its device could not be allowed. -/
theorem devnode_not_allowed_unnoticed :
    (∃ sys, (devnodeConfig.lxcutilCreateInstance sys {}).2.1 = 0 ∧
      ∃ c ∈ (devnodeConfig.lxcutilCreateInstance sys {}).2.2,
        c.1.SetsItem ∧ c.1.ok c.2 = false) ∧ ¬ ErrorsPropagate devnodeConfig := by
  have hgo : GoesOn 1 devnodeConfig.devices := ⟨by decide, by decide, fun e he => nomatch he⟩
  have hroot : ¬ LineCut 1023 (rootfsPathText devnodeConfig.baseconfig.rootfs) :=
    not_lineCut_of_lt (by decide)
  obtain ⟨sys, hsys⟩ := exists_unnoticed hroot (fun r hr => nomatch hr) hgo
    (List.mem_singleton.mpr rfl) ⟨rfl, not_lineCut_of_lt (by decide)⟩
  refine ⟨⟨sys, hsys {}⟩, fun h => ?_⟩
  obtain ⟨hret, c, hc, hsets, hfail⟩ := hsys {}
  simp [h.success sys {} hret c hc hsets] at hfail

end ContainerManager

import ContainerManager.Lxc.Entries

/-!
# Complete items

When no value that configures an instance is cut. A line that is too long is dropped or fails the
creation, but the suffixes of a device are added without a look at the length, and so are the shared
mounts.
-/

namespace ContainerManager

open Script

/-- Whatever happens while an instance is created, every value that is set is what it was to say,
and every printing call stays inside its buffer. -/
def ItemsComplete (cc : InstanceConfig) : Prop :=
  ∀ sys st, ∀ c ∈ (cc.lxcutilCreateInstance sys st).2.2, c.1.Complete

/-- The shared mounts fit the buffer if they are reached, and so do the entries of the devices. -/
structure InstanceConfig.NoneCut (cc : InstanceConfig) : Prop where
  mountAuto : ¬ LineCut 1023 (rootfsPathText cc.baseconfig.rootfs) →
    (mountAutoText cc.baseconfig.shmounts).length < 1024
  devices : ¬ LineCut 1023 (rootfsPathText cc.baseconfig.rootfs) →
    ResourcesFit cc.resourcelist → cc.devices.NoneCut

lemma itemsComplete_iff_scripts (cc : InstanceConfig) :
    ItemsComplete cc ↔ ∀ sys, ScriptComplete (createInstanceScript sys cc) := by
  constructor
  · intro h sys call hcall
    let sys' : InstanceSys := { sys with created := some ⟨1⟩, answer := fun _ => ⟨1, true⟩ }
    have hall : AllSucceed sys'.answer := fun _ => ⟨rfl, .inl rfl⟩
    have hcalls : (run LxcCall.ok sys'.answer (createInstanceScript sys cc)).calls.map Prod.fst =
        reached (createInstanceScript sys cc) := run_calls_of_ok hall.ok
    rw [← hcalls] at hcall
    obtain ⟨c, hc, rfl⟩ := List.mem_map.mp hcall
    apply h sys' {} c
    simp only [InstanceConfig.lxcutilCreateInstance]
    split_ifs <;> exact hc
  · intro h sys st c hc
    simp only [InstanceConfig.lxcutilCreateInstance] at hc
    split at hc
    · simp at hc
    · split_ifs at hc <;> exact h sys _ (mem_reached_of_mem_run hc)

/-! ### The lines of a document -/

section Bounds

variable (cc : ParsedInstance)

lemma ParsedInstance.rootfsPathText_length :
    (rootfsPathText cc.baseconfig.rootfs).length < 2 ^ 31 := by
  have hb := cc.sizeBound
  have hlits : (CString.ofString "dir:").length = 4 ∧ (CString.ofString "(null)").length = 6 := by
    decide
  simp only [rootfsPathText, CString.length_append, hlits.1]
  cases hp : cc.baseconfig.rootfs.path with
  | none =>
    simp only [Option.map_none, printedString, Option.getD_none]
    omega
  | some path =>
    simp only [InstanceConfig.textSize, hp, Option.map_some, optionLength, Option.elim_some] at hb
    simp only [Option.map_some, printedString, Option.getD_some]
    omega

/-- One text of a list is not longer than all of them. -/
lemma le_sum_map {ι : Type*} {l : List ι} (f : ι → ℕ) {i : ι} (h : i ∈ l) : f i ≤ (l.map f).sum :=
  List.le_sum_of_mem (List.mem_map_of_mem h)

lemma ParsedInstance.setExtradisk_complete {d : ExtraDisk} (hd : d ∈ cc.baseconfig.extradiskList) :
    ScriptComplete (setExtradisk d) := by
  have hb := cc.sizeBound
  have hle := le_sum_map (fun d : ExtraDisk =>
    (CString.ofString d.mountFrom).length + (CString.ofString d.mountTo).length) hd
  have hlits : (CString.ofString " ").length = 1 ∧
      (CString.ofString " none bind,rw,create=dir").length = 24 ∧
      (CString.ofString " none bind,ro,create=dir").length = 24 := by decide
  simp only [InstanceConfig.textSize] at hb
  simp only [setExtradisk]
  apply scriptComplete_setPrinted (by omega) (by omega) _ scriptComplete_nil
  cases d.mode <;> simp only [CString.length_append] <;> omega

lemma ParsedInstance.lxcutilSetConfigFs_complete :
    ScriptComplete (lxcutilSetConfigFs cc.fsconfig) := by
  rw [lxcutilSetConfigFs]
  apply scriptComplete_flatMap_of_forall
  intro melem hm
  have hb := cc.sizeBound
  have hle := le_sum_map (fun m : FsMountElem =>
    (CString.ofString m.mountFrom).length + (CString.ofString m.mountTo).length +
      (CString.ofString m.fstype).length + (CString.ofString m.option).length) hm
  have hblank : (CString.ofString " ").length = 1 := by decide
  have htext : (fsMountText melem).length < 2 ^ 31 := by
    simp only [InstanceConfig.textSize] at hb
    simp only [fsMountText, CString.length_append]
    omega
  have hentry : ScriptComplete
      (setPrinted (.ofString "lxc.mount.entry") 1023 (fsMountText melem) []) :=
    scriptComplete_setPrinted (by omega) (by omega) htext scriptComplete_nil
  cases melem.type with
  | filesystem => exact hentry
  | directory => exact hentry
  | delayed => exact scriptComplete_nil

lemma ParsedInstance.lxcutilSetConfigResource_complete (perGuestVersion cgroupVer msTime : ℤ) :
    ScriptComplete (lxcutilSetConfigResource perGuestVersion cgroupVer msTime cc.name
      cc.resourcelist) := by
  have hb := cc.sizeBound
  simp only [InstanceConfig.textSize] at hb
  rw [lxcutilSetConfigResource, scriptComplete_append]
  refine ⟨scriptComplete_lxcutilCreatePerGuestCgroup (by omega), fun _ => ?_⟩
  apply scriptComplete_flatMap_of_forall
  intro r hr
  have hle := le_sum_map (fun r : ResourceElem => r.object.length) hr
  exact scriptComplete_setResource (by omega)

lemma ParsedInstance.devices_printable : cc.devices.Printable := by
  have hb := cc.sizeBound
  have hlits : (CString.ofString " none bind,rw").length = 13 ∧
      (CString.ofString " none bind").length = 10 := by decide
  simp only [InstanceConfig.textSize] at hb
  constructor
  · intro e he
    have hle := le_sum_map (fun e : StaticDeviceElem => e.mountFrom.length + e.mountTo.length) he
    rw [bindText_length]
    omega
  · intro e he
    have hle := le_sum_map (fun e : StaticGpioElem => e.mountFrom.length + e.mountTo.length) he
    rw [bindText_length]
    omega
  · intro e he
    have hle := le_sum_map (fun e : StaticIioElem => e.sysfrom.length + e.systo.length +
      optionLength e.devfrom + optionLength e.devto) he
    rw [bindText_length]
    omega
  · intro e he devfrom devto hf ht
    have hle := le_sum_map (fun e : StaticIioElem => e.sysfrom.length + e.systo.length +
      optionLength e.devfrom + optionLength e.devto) he
    have hfrom : optionLength e.devfrom = devfrom.length := by
      rw [hf, optionLength, Option.elim_some]
    have hto : optionLength e.devto = devto.length := by
      rw [ht, optionLength, Option.elim_some]
    rw [bindText_length]
    omega

end Bounds

/-- The devices are reached when the path of the root file system and the resources fit. -/
lemma scriptComplete_createInstanceScript (cc : ParsedInstance) (sys : InstanceSys) :
    ScriptComplete (createInstanceScript sys cc.toInstanceConfig) ↔
      (¬ LineCut 1023 (rootfsPathText cc.baseconfig.rootfs) →
        (mountAutoText cc.baseconfig.shmounts).length < 1024) ∧
      (¬ LineCut 1023 (rootfsPathText cc.baseconfig.rootfs) →
        Completes (lxcutilSetConfigResource sys.perGuestVersion sys.cgroupVer sys.msTime cc.name
          cc.resourcelist) →
        ScriptComplete (lxcutilSetConfigStaticDevice sys.staleIsValid cc.devices)) := by
  have hbase := scriptComplete_lxcutilSetConfigBase cc.rootfsPathText_length
    fun d hd => cc.setExtradisk_complete hd
  simp only [createInstanceScript, scriptComplete_append, scriptComplete_onError,
    scriptComplete_setConfigItem, completes_setConfigItem, completes_onError,
    completes_lxcutilSetConfigBase, completes_lxcutilSetConfigFs, hbase,
    cc.lxcutilSetConfigResource_complete, cc.lxcutilSetConfigFs_complete,
    scriptComplete_lxcutilSetConfigStaticNetif, scriptComplete_otherCall]
  tauto

/-- For every document: no value is cut exactly when the texts that are not looked at fit. -/
theorem items_complete_iff (cc : ParsedInstance) :
    ItemsComplete cc.toInstanceConfig ↔ cc.toInstanceConfig.NoneCut := by
  simp only [itemsComplete_iff_scripts, scriptComplete_createInstanceScript]
  have hdev := staticDevices_noneCut_iff cc.devices_printable
  constructor
  · intro h
    refine ⟨(h ⟨none, 0, 0, 0, fun _ => 0, 0, fun _ => ⟨0, true⟩⟩).1, fun hroot hfit => ?_⟩
    -- the resources are passed where no entry of a cgroup is set
    rw [← hdev]
    intro stale
    exact (h ⟨none, 2, 0, 0, fun _ => 0, stale, fun _ => ⟨0, true⟩⟩).2 hroot
      (completes_lxcutilSetConfigResource.mpr hfit)
  · intro h sys
    refine ⟨h.mountAuto, fun hroot hres => ?_⟩
    exact hdev.mpr (h.devices hroot (resourcesFit_of_completes hres)) sys.staleIsValid

/-! ### The entries that are set -/

/-- When nothing is cut and no call fails, every entry of the devices is set to the text that was
meant. -/
lemma ItemsComplete.entry_set {cc : InstanceConfig} (h : ItemsComplete cc) {sys : InstanceSys}
    {plxc : LxcContainer} (hcreated : sys.created = some plxc) (hok : AllSucceed sys.answer)
    (hdone : Completes (createInstanceScript sys cc)) (st : InstanceState) {key : CString}
    {text : Option CString}
    (hentry : .item key text ∈ entries (lxcutilSetConfigStaticDevice sys.staleIsValid cc.devices)) :
    .item key text text ∈ (cc.lxcutilCreateInstance sys st).2.2.map Prod.fst := by
  obtain ⟨call, hcall, he⟩ := List.mem_filterMap.mp hentry
  have hreached : call ∈ reached (createInstanceScript sys cc) := by
    simp only [createInstanceScript, completes_append, completes_onError] at hdone
    simp only [createInstanceScript, mem_reached_append, completes_onError, reached_onError]
    exact .inr ⟨hdone.1, .inr ⟨hdone.2.1, .inr ⟨hdone.2.2.1, .inr ⟨hdone.2.2.2.1, .inl hcall⟩⟩⟩⟩
  have hmade : call ∈ (cc.lxcutilCreateInstance sys st).2.2.map Prod.fst := by
    have hcalls : (run LxcCall.ok sys.answer (createInstanceScript sys cc)).calls.map Prod.fst =
        reached (createInstanceScript sys cc) := run_calls_of_ok hok.ok
    simp only [InstanceConfig.lxcutilCreateInstance, hcreated]
    split_ifs <;> exact hcalls ▸ hreached
  obtain ⟨c, hc, rfl⟩ := List.mem_map.mp hmade
  have hcomplete := h sys st c hc
  cases hcall : c.1 with
  | item key' value rendered =>
    rw [hcall] at he hcomplete
    obtain ⟨rfl, rfl⟩ := ConfigEntry.item.inj (Option.some.inj he)
    obtain rfl : value = rendered := hcomplete
    exact hcall ▸ hmade
  | print access => simp [hcall, LxcCall.entry] at he
  | device isAllow value rendered => simp [hcall, LxcCall.entry] at he
  | other call => simp [hcall, LxcCall.entry] at he

/-! ### A long device -/

/-- A path of this length. -/
def pathOfLength (k : ℕ) : CString := ⟨List.replicate k 97, by simp⟩

@[simp] lemma pathOfLength_length (k : ℕ) : (pathOfLength k).length = k := by
  simp [pathOfLength, CString.length]

/-- An optional device that was found, whose entry is 1022 bytes long without its suffixes. -/
def longDevice : StaticDeviceElem where
  mountFrom := pathOfLength 504
  mountTo := pathOfLength 504
  devnode := .ofString "/dev/a"
  optional := 1
  isValid := true

/-- A guest with this device. -/
def longDeviceConfig : ParsedInstance where
  name := .ofString "guest"
  baseconfig := { rootfs := { path := some "/rootfs" } }
  devices := { staticDevlist := [longDevice] }
  sizeBound := by
    have hname : (CString.ofString "guest").length = 5 := by decide
    have hpath : (CString.ofString "/rootfs").length = 7 := by decide
    simp [InstanceConfig.textSize, optionLength, longDevice, hname, hpath]

lemma longDevice_bindText_length :
    (bindText longDevice.mountFrom longDevice.mountTo " none bind,rw").length = 1022 := by
  have hoption : (CString.ofString " none bind,rw").length = 13 := by decide
  simp [bindText_length, longDevice, hoption]

/-- The last suffix is copied with a negative size, behind the end of the buffer. -/
lemma longDevice_print_reached : LxcCall.print ⟨1031, -8⟩ ∈ reached (setDevnode longDevice) := by
  have hlen := longDevice_bindText_length
  have hsuffix : (CString.ofString ",optional").length = 9 := by decide
  have hcut : ¬ LineCut 1023 (bindText longDevice.mountFrom longDevice.mountTo " none bind,rw") :=
    not_lineCut_of_lt (by omega)
  rw [setDevnode, if_neg (by decide), if_neg (by decide), withLine]
  simp only [printLine_cut (show (0 : ℤ) ≤ 1023 by omega), if_neg hcut]
  -- the calls of the entry come before those of the device that is allowed
  have hentry : ∀ p : Line 1024, ∀ a ∈ p.buf.accesses, LxcCall.print a ∈ reached (prints p) := by
    intro p a ha
    rw [mem_reached_of_completes completes_prints]
    exact ⟨none, List.mem_map_of_mem ha⟩
  rw [mem_reached_append, mem_reached_append]
  refine .inl (.inl (hentry _ _ ?_))
  have hsuffixes : devnodeSuffixes longDevice =
      [.ofString ",optional", .ofString ",create=file"] := by
    decide
  simp [hsuffixes, Line.appendAll, Line.append, Buffer.strncpy, printLine, Line.print,
    Buffer.snprintf, hlen, hsuffix]

/-- A device with a long path makes the configuration write behind the end of its buffer. -/
theorem long_device_overruns :
    LxcCall.print ⟨1031, -8⟩ ∈ reached (setDevnode longDevice) ∧
      ¬ ItemsComplete longDeviceConfig.toInstanceConfig := by
  refine ⟨longDevice_print_reached, fun h => ?_⟩
  rw [itemsComplete_iff_scripts] at h
  have hscript := h ⟨none, 2, 0, 0, fun _ => 0, 1, fun _ => ⟨0, true⟩⟩
  rw [scriptComplete_createInstanceScript] at hscript
  have hdevices := hscript.2 (not_lineCut_of_lt (by decide))
    (completes_lxcutilSetConfigResource.mpr fun r hr => nomatch hr)
  have hdevlist := ((scriptComplete_lxcutilSetConfigStaticDevice
    longDeviceConfig.devices_printable).mp hdevices).1
  have hdevnode : ScriptComplete (setDevnode longDevice) := by
    simpa [longDeviceConfig] using hdevlist
  have hin : Access.InBounds 1024 ⟨1031, -8⟩ := hdevnode _ longDevice_print_reached
  exact absurd hin (by decide)

end ContainerManager

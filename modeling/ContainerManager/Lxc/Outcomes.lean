import ContainerManager.Lxc.Instance

/-!
# When the configuration goes on

Which scripts return early by themselves, and that every early return is an error. A function that
configures a part of the instance therefore returns zero only when it went through the whole part.
-/

namespace ContainerManager

open Script

/-! ### Items -/

section Items

variable {key : CString} {value : Option CString} {p : Line 1024} {size : ℤ} {text : CString}
  {onCut : ConfigScript} {next : Line 1024 → ConfigScript}

@[simp] lemma completes_setConfigItem : Completes (setConfigItem key value) := by
  simp [setConfigItem]

@[simp] lemma completes_setOptionalItem : Completes (setOptionalItem key value) := by
  cases value <;> simp [setOptionalItem]

@[simp] lemma completes_setLine : Completes (setLine key p) := by simp [setLine]

@[simp] lemma completes_prints : Completes (prints p) := by simp [prints, Completes]

@[simp] lemma completes_setCgroupDevice {isAllow : Bool} {value : String} :
    Completes (setCgroupDevice isAllow value) := by simp [setCgroupDevice]

@[simp] lemma completes_otherCall {call : OtherCall} {onFail : ℤ} :
    Completes (otherCall call onFail) := by simp [otherCall]

@[simp] lemma errors_setConfigItem : Errors (setConfigItem key value) := by
  simp [setConfigItem, errors_call]

@[simp] lemma errors_setOptionalItem : Errors (setOptionalItem key value) := by
  cases value <;> simp [setOptionalItem]

@[simp] lemma errors_setLine : Errors (setLine key p) := by simp [setLine, errors_call]

@[simp] lemma errors_prints : Errors (prints p) := ⟨by simp [prints], by simp [prints]⟩

@[simp] lemma errors_setCgroupDevice {isAllow : Bool} {value : String} :
    Errors (setCgroupDevice isAllow value) := by simp [setCgroupDevice, errors_call]

/-- The line is as long as the size allows, or longer. -/
def LineCut (size : ℤ) (text : CString) : Prop := size ≤ text.length ∧ text.length < 2 ^ 31

instance (size : ℤ) (text : CString) : Decidable (LineCut size text) :=
  inferInstanceAs (Decidable (_ ∧ _))

lemma printLine_cut (h : 0 ≤ size) : size ≤ (printLine size text).slen ↔ LineCut size text := by
  simp only [printLine, Line.print, Buffer.snprintf, LineCut]
  split_ifs <;> omega

lemma completes_withLine (h : 0 ≤ size) : Completes (withLine size text onCut next) ↔
    if LineCut size text then Completes onCut else Completes (next (printLine size text)) := by
  simp only [withLine, printLine_cut h]
  split_ifs <;> simp

lemma errors_withLine (hcut : Errors onCut) (hnext : ∀ p, Errors (next p)) :
    Errors (withLine size text onCut next) := by
  simp only [withLine]
  split_ifs
  · simpa using hcut
  · exact hnext _

lemma completes_setPrinted (h : 0 ≤ size) : Completes (setPrinted key size text onCut) ↔
    (LineCut size text → Completes onCut) := by
  rw [setPrinted, completes_withLine h]
  split_ifs with hc <;> simp [hc]

end Items

/-! ### Answers -/

/-- Every call succeeds, and every version probe finds a version. -/
def AllSucceed (answer : ℕ → LxcAnswer) : Prop :=
  ∀ k, (answer k).result ∧ ((answer k).version = 1 ∨ (answer k).version = 2)

lemma AllSucceed.ok {answer : ℕ → LxcAnswer} (h : AllSucceed answer) (k : ℕ) (call : LxcCall) :
    call.ok (answer k) = true := by
  obtain ⟨hr, hv⟩ := h k
  cases call with
  | print access => rfl
  | item key value rendered => exact hr
  | other call => exact hr
  | device isAllow value rendered =>
    rcases hv with hv | hv <;> simp [LxcCall.ok, cgroupDeviceKey, hv, hr]

/-! ### Static devices -/

section Devices

variable {develem : StaticDeviceElem} {gpioelem : StaticGpioElem} {iioelem : StaticIioElem}
  {stale : ℤ} {devc : StaticDevices}

lemma completes_lxcutilSetConfigStaticDeviceDefault :
    Completes lxcutilSetConfigStaticDeviceDefault := by
  simp [lxcutilSetConfigStaticDeviceDefault]

/-- The defaults that are set with the protection go on. -/
lemma completes_protection : Completes (if devc.enableProtection = 1 then
    onError (-1) lxcutilSetConfigStaticDeviceDefault else []) := by
  split_ifs
  · exact completes_onError.mpr completes_lxcutilSetConfigStaticDeviceDefault
  · exact completes_nil

lemma completes_setDevnode :
    Completes (setDevnode develem) ↔ (develem.optional = 0 → develem.isValid) := by
  rw [setDevnode]
  by_cases hv : develem.isValid = true
  · simp [hv, completes_withLine]
  · by_cases ho : develem.optional = 0 <;> simp [hv, ho]

lemma completes_setGpio : Completes (setGpio stale gpioelem) ↔ stale ≠ 0 := by
  rw [setGpio]
  by_cases h : stale = 0
  · simp [h]
  · rw [if_neg h, completes_withLine (by omega)]
    split_ifs <;> simp [h]

/-- The entry of the sysfs node is too long. -/
def StaticIioElem.SysLineCut (iioelem : StaticIioElem) : Prop :=
  LineCut 1023 (bindText iioelem.sysfrom iioelem.systo " none bind,rw")

instance : Decidable iioelem.SysLineCut := inferInstanceAs (Decidable (LineCut _ _))

lemma completes_setIioDev : Completes (setIioDev iioelem) ↔
    (iioelem.DevGiven → iioelem.isDevValid ∨ iioelem.optional ≠ 0) := by
  simp only [setIioDev, StaticIioElem.DevGiven]
  split
  · rename_i hf ht hn
    split_ifs with hv ho
    · simp [completes_withLine, hv]
    · simp [hf, ht, hn, hv, ho]
    · simp [ho]
  · rename_i hnone
    constructor
    · rintro - ⟨hf, ht, hn⟩
      obtain ⟨devfrom, hf⟩ := Option.ne_none_iff_exists'.mp hf
      obtain ⟨devto, ht⟩ := Option.ne_none_iff_exists'.mp ht
      obtain ⟨devnode, hn⟩ := Option.ne_none_iff_exists'.mp hn
      exact absurd hn (hnone devfrom devto devnode hf ht)
    · simp

/-- An iio is not refused. -/
lemma completes_setIio : Completes (setIio iioelem) ↔
    (iioelem.isSysValid ∨ iioelem.optional = 1) ∧
      (iioelem.isSysValid → ¬ iioelem.SysLineCut → iioelem.DevGiven →
        iioelem.isDevValid ∨ iioelem.optional ≠ 0) := by
  rw [setIio]
  by_cases hv : iioelem.isSysValid = true
  · rw [if_neg (by simpa using hv), completes_withLine (by omega)]
    split_ifs with hc
    · simp [hv, StaticIioElem.SysLineCut, hc]
    · simp [hv, StaticIioElem.SysLineCut, hc, completes_setIioDev]
  · by_cases ho : iioelem.optional = 1 <;> simp [hv, ho]

/-- The iio is refused: by its sysfs node, or by its device node when the entry of the sysfs node
was not too long. -/
def StaticIioElem.Refused (e : StaticIioElem) : Prop :=
  ¬ e.isSysValid ∧ e.optional ≠ 1 ∨
    e.isSysValid ∧ ¬ e.SysLineCut ∧ e.DevGiven ∧ ¬ e.isDevValid ∧ e.optional = 0

lemma completes_setIio_iff : Completes (setIio iioelem) ↔ ¬ iioelem.Refused := by
  rw [completes_setIio, StaticIioElem.Refused]
  tauto

lemma completes_lxcutilSetConfigStaticDevice : Completes (lxcutilSetConfigStaticDevice stale devc) ↔
    (∀ e ∈ devc.staticDevlist, e.optional = 0 → e.isValid) ∧
      (∀ e ∈ devc.staticGpiolist, stale ≠ 0) ∧
        ∀ e ∈ devc.staticIiolist, Completes (setIio e) := by
  simp [lxcutilSetConfigStaticDevice, completes_protection, completes_setDevnode,
    completes_setGpio]

/-- What the function tests: every script goes on. -/
def GoesOn (stale : ℤ) (devc : StaticDevices) : Prop :=
  (∀ e ∈ devc.staticDevlist, e.optional = 0 → e.isValid) ∧
    (∀ e ∈ devc.staticGpiolist, stale ≠ 0) ∧ ∀ e ∈ devc.staticIiolist, ¬ e.Refused

lemma completes_iff_goesOn :
    Completes (lxcutilSetConfigStaticDevice stale devc) ↔ GoesOn stale devc := by
  simp only [completes_lxcutilSetConfigStaticDevice, completes_setIio_iff, GoesOn]

lemma errors_setDevnode : Errors (setDevnode develem) := by
  rw [setDevnode]
  split
  · simp [errors_leave]
  · split
    · exact errors_nil
    · apply errors_withLine errors_nil
      intro p
      simp only [errors_append, errors_prints, errors_setLine, true_and]
      exact errors_withLine errors_nil fun p => by simp [errors_call]

lemma errors_setGpio : Errors (setGpio stale gpioelem) := by
  rw [setGpio]
  split
  · simp [errors_leave]
  · apply errors_withLine errors_nil
    intro p
    dsimp only
    split_ifs <;> simp

lemma errors_setIioDev : Errors (setIioDev iioelem) := by
  simp only [setIioDev]
  split
  · split_ifs
    · apply errors_withLine errors_nil
      intro p
      simp only [errors_append, errors_prints, errors_setLine, true_and]
      exact errors_withLine errors_nil fun p => by simp [errors_call]
    · simp [errors_leave]
    · exact errors_nil
  · exact errors_nil

lemma errors_setIio : Errors (setIio iioelem) := by
  rw [setIio]
  split
  · split
    · exact errors_nil
    · simp [errors_leave]
  · exact errors_withLine errors_nil fun p => by simp [errors_setIioDev]

lemma errors_lxcutilSetConfigStaticDevice : Errors (lxcutilSetConfigStaticDevice stale devc) := by
  simp only [lxcutilSetConfigStaticDevice, errors_append]
  refine ⟨?_, errors_flatMap fun _ _ => errors_setDevnode,
    errors_flatMap fun _ _ => errors_setGpio, errors_flatMap fun _ _ => errors_setIio⟩
  split_ifs
  · exact errors_onError (by decide)
  · exact errors_nil

end Devices

/-! ### Base config -/

section Base

lemma idmapText_length {kind : String} (h : (CString.ofString kind).length = 1) (map : IdMap) :
    (idmapText kind map).length < 1023 := by
  have hblank : (CString.ofString " ").length = 1 := by decide
  have hroot := CString.ofInt_length_le map.guestRootId
  have hstart := CString.ofInt_length_le map.hostStartId
  have hnum := CString.ofInt_length_le map.numOfId
  simp only [idmapText, CString.length_append, h, hblank]
  omega

lemma not_lineCut_of_lt {size : ℤ} {text : CString} (h : text.length < size) :
    ¬ LineCut size text := fun hc => by
  obtain ⟨hle, -⟩ := hc
  omega

@[simp] lemma completes_setExtradisk (exdisk : ExtraDisk) : Completes (setExtradisk exdisk) := by
  simp [setExtradisk, completes_setPrinted]

@[simp] lemma completes_setCap (key : String) (cap : Option String) :
    Completes (setCap key cap) := by
  cases cap with
  | none => exact completes_nil
  | some cap =>
    simp only [setCap]
    split_ifs <;> simp

@[simp] lemma completes_setIdmaps (idmaps : IdMaps) : Completes (setIdmaps idmaps) := by
  have hu : (idmapText "u" idmaps.uid).length < 1023 := idmapText_length (by decide) _
  have hg : (idmapText "g" idmaps.gid).length < 1023 := idmapText_length (by decide) _
  rw [setIdmaps]
  split_ifs
  · rw [completes_append, completes_setPrinted (by omega), completes_setPrinted (by omega)]
    exact ⟨fun h => absurd h (not_lineCut_of_lt (by omega)),
      fun h => absurd h (not_lineCut_of_lt (by omega))⟩
  · exact completes_nil

@[simp] lemma completes_setMountAuto (shmounts : Option String) :
    Completes (setMountAuto shmounts) := by simp [setMountAuto]

lemma completes_setInt (key : CString) (k : ℤ) :
    Completes (setPrinted key 1024 (.ofInt k) [.leave (-2)]) := by
  have hlen := CString.ofInt_length_le k
  rw [completes_setPrinted (by omega)]
  exact fun h => absurd h (not_lineCut_of_lt (by omega))

/-- The base config goes on unless the path of the root file system is too long. -/
lemma completes_lxcutilSetConfigBase (bc : BaseConfig) :
    Completes (lxcutilSetConfigBase bc) ↔ ¬ LineCut 1023 (rootfsPathText bc.rootfs) := by
  have htty := completes_setInt (.ofString "lxc.tty.max") bc.tty.ttyMax
  have hpty := completes_setInt (.ofString "lxc.pty.max") bc.tty.ptyMax
  rw [lxcutilSetConfigBase, completes_append, completes_setPrinted (by omega)]
  simp [htty, hpty]

end Base

/-! ### Resources -/

section Resources

variable {perGuestVersion cgroupVer msTime : ℤ} {name : CString} {l : List ResourceElem}

/-- The keys that are set in every version of cgroup are not too long. -/
def ResourcesFit (l : List ResourceElem) : Prop :=
  ∀ r ∈ l, (r.type = .prlimit → ¬ LineCut 1023 (resourceKey "prlimit" r.object)) ∧
    (r.type = .sysctl → ¬ LineCut 1023 (resourceKey "sysctl" r.object))

lemma completes_lxcutilSetConfigResourceNode {node : String} {object value : CString} :
    Completes (lxcutilSetConfigResourceNode node object value) ↔
      ¬ LineCut 1023 (resourceKey node object) := by
  rw [lxcutilSetConfigResourceNode, completes_withLine (by omega)]
  split_ifs with h <;> simp [h]

lemma resourcesFit_of_completes
    (h : Completes (lxcutilSetConfigResource perGuestVersion cgroupVer msTime name l)) :
    ResourcesFit l := by
  rw [lxcutilSetConfigResource, completes_append, completes_flatMap] at h
  intro r hr
  have hres := h.2 r hr
  rw [setResource] at hres
  constructor
  · intro htype
    simpa [htype, completes_lxcutilSetConfigResourceNode] using hres
  · intro htype
    simpa [htype, completes_lxcutilSetConfigResourceNode] using hres

/-- Where version 2 is found first and no version afterwards, only these keys are set. -/
lemma completes_lxcutilSetConfigResource :
    Completes (lxcutilSetConfigResource 2 0 msTime name l) ↔ ResourcesFit l := by
  refine ⟨resourcesFit_of_completes, fun h => ?_⟩
  rw [lxcutilSetConfigResource, completes_append, completes_flatMap]
  refine ⟨by simp [lxcutilCreatePerGuestCgroup], fun r hr => ?_⟩
  rw [setResource]
  cases htype : r.type with
  | cgroupV1 => simp
  | cgroupV2 => simp
  | prlimit => simpa [completes_lxcutilSetConfigResourceNode] using (h r hr).1 htype
  | sysctl => simpa [completes_lxcutilSetConfigResourceNode] using (h r hr).2 htype

end Resources

/-! ### The other parts -/

@[simp] lemma completes_lxcutilSetConfigFs (fsc : FsConfig) :
    Completes (lxcutilSetConfigFs fsc) := by
  rw [lxcutilSetConfigFs, completes_flatMap]
  intro melem _
  split <;> simp [completes_setPrinted]

@[simp] lemma completes_lxcutilSetConfigStaticNetif (msTime : ℕ → ℤ)
    (netifs : List StaticNetifElem) :
    Completes (lxcutilSetConfigStaticNetif msTime netifs) := by
  rw [lxcutilSetConfigStaticNetif, completes_flatMap]
  intro netelem _
  split <;> simp [lxcutilSetConfigStaticNetifVeth, setVxcan]

/-- The creation goes on to its end. -/
lemma completes_createInstanceScript (sys : InstanceSys) (cc : InstanceConfig) :
    Completes (createInstanceScript sys cc) ↔
      ¬ LineCut 1023 (rootfsPathText cc.baseconfig.rootfs) ∧
        Completes (lxcutilSetConfigResource sys.perGuestVersion sys.cgroupVer sys.msTime cc.name
          cc.resourcelist) ∧
        GoesOn sys.staleIsValid cc.devices := by
  simp [createInstanceScript, completes_lxcutilSetConfigBase, completes_iff_goesOn]

lemma errors_createInstanceScript (sys : InstanceSys) (cc : InstanceConfig) :
    Errors (createInstanceScript sys cc) := by
  simp [createInstanceScript, errors_onError, otherCall, errors_call]

end ContainerManager

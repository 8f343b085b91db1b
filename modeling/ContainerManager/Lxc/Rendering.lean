import Mathlib.Algebra.Order.BigOperators.Group.List
import ContainerManager.Lxc.Outcomes

/-!
# What the values of the items say

A call is complete when its value is what its format, its arguments and the suffixes stand for, and
a printing call is when it stays inside the buffer. For every builder, when all the calls that can
be reached are complete. The texts of a config are parts of one document, which is read with one
`read`, so that no line is longer than an `int` can say.
-/

namespace ContainerManager

open Script

/-- The value is what it was to say, or the printing call stays inside the buffer. -/
def LxcCall.Complete : LxcCall → Prop
  | .print access => access.InBounds 1024
  | .item _ value rendered => value = rendered
  | .device _ value rendered => value = rendered
  | .other _ => True

/-- Every call that can be reached is complete. -/
def ScriptComplete (ops : ConfigScript) : Prop := ∀ call ∈ reached ops, call.Complete

section Scripts

variable {ops ops' : ConfigScript} {key : CString} {value : Option CString} {p : Line 1024}
  {size : ℤ} {text : CString} {onCut : ConfigScript} {next : Line 1024 → ConfigScript}

@[simp] lemma scriptComplete_nil : ScriptComplete [] := by simp [ScriptComplete, reached]

@[simp] lemma scriptComplete_leave {ret : ℤ} : ScriptComplete [.leave ret] := by
  simp [ScriptComplete, reached]

@[simp] lemma scriptComplete_call {call : LxcCall} {onFail : Option ℤ} :
    ScriptComplete (.call call onFail :: ops) ↔ call.Complete ∧ ScriptComplete ops := by
  simp [ScriptComplete, reached]

lemma scriptComplete_append : ScriptComplete (ops ++ ops') ↔
    ScriptComplete ops ∧ (Completes ops → ScriptComplete ops') := forall_reached_append

@[simp] lemma scriptComplete_onError {ret : ℤ} :
    ScriptComplete (onError ret ops) ↔ ScriptComplete ops := by simp [ScriptComplete]

/-- The passes of a loop are complete when each one that is reached is. -/
lemma scriptComplete_flatMap {ι : Type*} {l : List ι} {f : ι → ConfigScript} :
    ScriptComplete (l.flatMap f) ↔ ∀ pre i post, l = pre ++ i :: post →
      (∀ j ∈ pre, Completes (f j)) → ScriptComplete (f i) := forall_reached_flatMap

/-- The same, for passes that go on and are complete under conditions of their own. -/
lemma scriptComplete_flatMap_iff {ι : Type*} {l : List ι} {f : ι → ConfigScript} {C P : ι → Prop}
    (hc : ∀ i, Completes (f i) ↔ C i) (hp : ∀ i ∈ l, (ScriptComplete (f i) ↔ P i)) :
    ScriptComplete (l.flatMap f) ↔ ∀ pre i post, l = pre ++ i :: post → (∀ j ∈ pre, C j) → P i := by
  rw [scriptComplete_flatMap]
  refine forall_congr' fun pre => forall_congr' fun i => forall_congr' fun post =>
    forall_congr' fun hl => ?_
  rw [hp i (by simp [hl])]
  simp only [hc]

lemma scriptComplete_flatMap_of_forall {ι : Type*} {l : List ι} {f : ι → ConfigScript}
    (h : ∀ i ∈ l, ScriptComplete (f i)) : ScriptComplete (l.flatMap f) := by
  rw [scriptComplete_flatMap]
  rintro pre i post rfl -
  exact h i (by simp)

@[simp] lemma scriptComplete_setConfigItem : ScriptComplete (setConfigItem key value) := by
  simp [setConfigItem, LxcCall.Complete]

@[simp] lemma scriptComplete_setOptionalItem : ScriptComplete (setOptionalItem key value) := by
  cases value <;> simp [setOptionalItem]

@[simp] lemma scriptComplete_setCgroupDevice {isAllow : Bool} {value : String} :
    ScriptComplete (setCgroupDevice isAllow value) := by simp [setCgroupDevice, LxcCall.Complete]

@[simp] lemma scriptComplete_otherCall {call : OtherCall} {onFail : ℤ} :
    ScriptComplete (otherCall call onFail) := by simp [otherCall, LxcCall.Complete]

lemma scriptComplete_prints :
    ScriptComplete (prints p) ↔ ∀ a ∈ p.buf.accesses, a.InBounds 1024 := by
  have h : reached (prints p) = p.buf.accesses.map .print := by
    simp only [prints]
    induction p.buf.accesses with
    | nil => rfl
    | cons a l ih => exact congrArg (LxcCall.print a :: ·) ih
  simp [ScriptComplete, h, LxcCall.Complete]

/-- A line that is set is to be complete. -/
lemma scriptComplete_setLine : ScriptComplete (prints p ++ setLine key p) ↔ p.Complete := by
  rw [scriptComplete_append, scriptComplete_prints, setLine, scriptComplete_call]
  simp only [completes_prints, true_imp_iff, LxcCall.Complete, Option.some.injEq,
    scriptComplete_nil, and_true]
  exact ⟨fun h => ⟨h.2, h.1⟩, fun h => ⟨h.inBounds, h.text⟩⟩

lemma scriptComplete_device {isAllow : Bool} {onFail : Option ℤ} :
    ScriptComplete (prints p ++ [.call (.device isAllow p.buf.text p.buf.rendered) onFail]) ↔
      p.Complete := by
  rw [scriptComplete_append, scriptComplete_prints, scriptComplete_call]
  simp only [completes_prints, true_imp_iff, LxcCall.Complete, scriptComplete_nil, and_true]
  exact ⟨fun h => ⟨h.2, h.1⟩, fun h => ⟨h.inBounds, h.text⟩⟩

/-! ### Lines that are not cut -/

/-- A text that is not cut is shorter than the size, since it is shorter than an `int` can say. -/
lemma not_lineCut (h : text.length < 2 ^ 31) : ¬ LineCut size text ↔ text.length < size := by
  rw [LineCut]
  omega

lemma scriptComplete_prints_printLine (h0 : 0 ≤ size) (hn : size ≤ 1024) :
    ScriptComplete (prints (printLine size text)) := by
  rw [scriptComplete_prints]
  simp only [printLine, Line.print, Buffer.snprintf, List.mem_singleton, forall_eq]
  exact ⟨le_rfl, h0, by simpa using hn⟩

/-- A line is complete exactly when it fits with its suffixes. -/
lemma printLine_complete_iff (h0 : 0 < size) (hn : size ≤ 1024) (h : text.length < size)
    {suffixes : List CString} : ((printLine size text).appendAll suffixes).Complete ↔
      text.length + (suffixes.map CString.length).sum < 1024 :=
  Line.appendAll_complete_iff Buffer.zero_sealed h0 hn (by norm_num) h suffixes

/-- A line without a suffix is complete when it is not cut. -/
lemma printLine_complete (h0 : 0 < size) (hn : size ≤ 1024) (h : text.length < size) :
    (printLine size text).Complete := by
  have hfits : text.length + (([] : List CString).map CString.length).sum < 1024 := by
    rw [List.map_nil, List.sum_nil]
    omega
  exact (printLine_complete_iff h0 hn h).mpr hfits

/-- The next part of a script is reached when the line is not cut. -/
lemma scriptComplete_withLine (h0 : 0 ≤ size) (hn : size ≤ 1024) (hb : text.length < 2 ^ 31)
    (hcut : ScriptComplete onCut) : ScriptComplete (withLine size text onCut next) ↔
      (text.length < size → ScriptComplete (next (printLine size text))) := by
  simp only [withLine, printLine_cut h0]
  by_cases hc : LineCut size text
  · rw [if_pos hc]
    have hlen : ¬ (text.length : ℤ) < size := fun hlt => (not_lineCut hb).mpr hlt hc
    simp [scriptComplete_append, scriptComplete_prints_printLine h0 hn, hcut, hlen]
  · rw [if_neg hc]
    simp [(not_lineCut hb).mp hc]

/-- The buffer of most lines leaves out its last byte. -/
lemma scriptComplete_withLine_1023 (hb : text.length < 2 ^ 31) (hcut : ScriptComplete onCut) :
    ScriptComplete (withLine 1023 text onCut next) ↔
      (text.length < 1023 → ScriptComplete (next (printLine 1023 text))) := by
  rw [scriptComplete_withLine (by omega) (by omega) hb hcut]
  exact imp_congr_left (by omega)

/-- A printed text without a suffix is never cut. -/
lemma scriptComplete_setPrinted (h0 : 0 < size) (hn : size ≤ 1024) (hb : text.length < 2 ^ 31)
    (hcut : ScriptComplete onCut) : ScriptComplete (setPrinted key size text onCut) := by
  rw [setPrinted, scriptComplete_withLine h0.le hn hb hcut]
  intro h
  exact scriptComplete_setLine.mpr (printLine_complete h0 hn h)

end Scripts

/-! ### The size of a config -/

/-- The length of a text that may be missing. -/
def optionLength (s : Option CString) : ℕ := s.elim 0 CString.length

/-- The texts of a config that are printed into lines, put together. -/
def InstanceConfig.textSize (cc : InstanceConfig) : ℕ :=
  cc.name.length + optionLength (cc.baseconfig.rootfs.path.map .ofString) +
    optionLength (cc.baseconfig.shmounts.map .ofString) +
    (cc.baseconfig.extradiskList.map fun d =>
      (CString.ofString d.mountFrom).length + (CString.ofString d.mountTo).length).sum +
    (cc.resourcelist.map fun r => r.object.length).sum +
    (cc.fsconfig.mountlist.map fun m =>
      (CString.ofString m.mountFrom).length + (CString.ofString m.mountTo).length +
        (CString.ofString m.fstype).length + (CString.ofString m.option).length).sum +
    (cc.devices.staticDevlist.map fun e => e.mountFrom.length + e.mountTo.length).sum +
    (cc.devices.staticGpiolist.map fun e => e.mountFrom.length + e.mountTo.length).sum +
    (cc.devices.staticIiolist.map fun e => e.sysfrom.length + e.systo.length +
      optionLength e.devfrom + optionLength e.devto).sum

/-- The config of a document. Its texts are parts of what one `read` returned. -/
structure ParsedInstance extends InstanceConfig where
  sizeBound : toInstanceConfig.textSize ≤ 0x7ffff000

/-! ### Static devices -/

section Devices

variable {develem : StaticDeviceElem} {gpioelem : StaticGpioElem} {iioelem : StaticIioElem}

lemma bindText_length (mountFrom mountTo : CString) (option : String) :
    (bindText mountFrom mountTo option).length =
      mountFrom.length + mountTo.length + 1 + (CString.ofString option).length := by
  have hblank : (CString.ofString " ").length = 1 := by decide
  simp only [bindText, CString.length_append, hblank]
  omega

/-- The entry of a device fits the buffer with its suffixes, or not even without them. -/
def StaticDeviceElem.Fits (e : StaticDeviceElem) : Prop :=
  e.isValid → (bindText e.mountFrom e.mountTo " none bind,rw").length < 1023 →
    (bindText e.mountFrom e.mountTo " none bind,rw").length +
      ((devnodeSuffixes e).map CString.length).sum < 1024

/-- The entry of a gpio that is set fits the buffer with its suffix, or not even without it. -/
def StaticGpioElem.Fits (e : StaticGpioElem) : Prop :=
  devgpioDirectionIsvalid e.portdirection = 1 → e.portdirection ≠ 1 →
    (bindText e.mountFrom e.mountTo " none bind").length < 1023 →
      (bindText e.mountFrom e.mountTo " none bind").length +
        (CString.ofString ",rw").length < 1024

/-- The entry of the device node of an iio fits the buffer with its suffixes, or not even without
them. -/
def StaticIioElem.Fits (e : StaticIioElem) : Prop :=
  e.isSysValid → (bindText e.sysfrom e.systo " none bind,rw").length < 1023 → e.isDevValid →
    ∀ devfrom devto devnode, e.devfrom = some devfrom → e.devto = some devto →
      e.devnode = some devnode → (bindText devfrom devto " none bind,rw").length < 1023 →
        (bindText devfrom devto " none bind,rw").length +
          ((iioSuffixes e).map CString.length).sum < 1024

lemma devnodeAllowText_length (e : StaticDeviceElem) : (devnodeAllowText e).length < 1023 := by
  have hkind : (CString.ofString (if e.devtype = .blk then "b" else "c")).length = 1 := by
    split_ifs <;> decide
  have hlits : (CString.ofString " ").length = 1 ∧ (CString.ofString ":").length = 1 ∧
      (CString.ofString " rw").length = 3 ∧ (CString.ofString "*").length = 1 := by decide
  have hmajor := CString.ofInt_length_le e.major
  have hminor : (if e.wideallow = 1 then CString.ofString "*" else .ofInt e.minor).length ≤ 11 := by
    split_ifs
    · omega
    · exact CString.ofInt_length_le e.minor
  simp only [devnodeAllowText, CString.length_append, hkind]
  omega

lemma iioAllowText_length (e : StaticIioElem) : (iioAllowText e).length < 1023 := by
  have hlits : (CString.ofString "c ").length = 2 ∧ (CString.ofString ":").length = 1 ∧
      (CString.ofString " rw").length = 3 := by decide
  have hmajor := CString.ofInt_length_le e.major
  have hminor := CString.ofInt_length_le e.minor
  simp only [iioAllowText, CString.length_append]
  omega

/-- An allowed device is printed completely. -/
lemma scriptComplete_allow {text : CString} (h : text.length < 1023) {onFail : Option ℤ} :
    ScriptComplete (withLine 1023 text [] fun p =>
      prints p ++ [.call (.device true p.buf.text p.buf.rendered) onFail]) := by
  rw [scriptComplete_withLine_1023 (by omega) scriptComplete_nil]
  intro hlt
  exact scriptComplete_device.mpr (printLine_complete (by omega) (by omega) (by omega))

/-- A line with suffixes that is set, and a device that is allowed after it. -/
lemma scriptComplete_suffixes {text allow : CString} {suffixes : List CString} {onFail : Option ℤ}
    (hb : text.length < 2 ^ 31) (hallow : allow.length < 1023) :
    ScriptComplete (withLine 1023 text [] fun p =>
        let p := p.appendAll suffixes
        prints p ++ setLine (.ofString "lxc.mount.entry") p ++ withLine 1023 allow [] fun p =>
          prints p ++ [.call (.device true p.buf.text p.buf.rendered) onFail]) ↔
      (text.length < 1023 → text.length + (suffixes.map CString.length).sum < 1024) := by
  rw [scriptComplete_withLine_1023 hb scriptComplete_nil]
  apply imp_congr_right
  intro hlt
  rw [scriptComplete_append, scriptComplete_setLine,
    printLine_complete_iff (by omega) (by omega) (by omega)]
  exact and_iff_left fun _ => scriptComplete_allow hallow

lemma scriptComplete_setDevnode
    (hb : (bindText develem.mountFrom develem.mountTo " none bind,rw").length < 2 ^ 31) :
    ScriptComplete (setDevnode develem) ↔ develem.Fits := by
  rw [setDevnode, StaticDeviceElem.Fits]
  by_cases hv : develem.isValid = true
  · rw [if_neg (by simp [hv]), if_neg (by simp [hv]),
      scriptComplete_suffixes hb (devnodeAllowText_length develem)]
    simp [hv]
  · by_cases ho : develem.optional = 0 <;> simp [hv, ho]

lemma scriptComplete_setGpio {stale : ℤ}
    (hb : (bindText gpioelem.mountFrom gpioelem.mountTo " none bind").length < 2 ^ 31) :
    ScriptComplete (setGpio stale gpioelem) ↔ (stale ≠ 0 → gpioelem.Fits) := by
  rw [setGpio, StaticGpioElem.Fits]
  by_cases hs : stale = 0
  · simp [hs]
  · rw [if_neg hs, scriptComplete_withLine_1023 hb scriptComplete_nil]
    generalize bindText gpioelem.mountFrom gpioelem.mountTo " none bind" = text
    have hprints : ScriptComplete (prints (printLine 1023 text)) :=
      scriptComplete_prints_printLine (by omega) (by omega)
    by_cases hd : devgpioDirectionIsvalid gpioelem.portdirection = 1
    · by_cases hin : gpioelem.portdirection = 1
      · simp [hin, hprints]
      · simp only [hd, hin, hs, if_true, ne_eq, not_false_eq_true, true_imp_iff]
        rw [scriptComplete_setLine]
        apply imp_congr_right
        intro hlt
        have h : ((printLine 1023 text).appendAll [.ofString ",rw"]).Complete ↔ _ :=
          printLine_complete_iff (by omega) (by omega) (by omega)
        simpa [Line.appendAll] using h
    · simp [hd, hprints]

lemma scriptComplete_setIioDev (hb : ∀ devfrom devto, iioelem.devfrom = some devfrom →
    iioelem.devto = some devto → (bindText devfrom devto " none bind,rw").length < 2 ^ 31) :
    ScriptComplete (setIioDev iioelem) ↔
      (iioelem.isDevValid → ∀ devfrom devto devnode, iioelem.devfrom = some devfrom →
        iioelem.devto = some devto → iioelem.devnode = some devnode →
          (bindText devfrom devto " none bind,rw").length < 1023 →
            (bindText devfrom devto " none bind,rw").length +
              ((iioSuffixes iioelem).map CString.length).sum < 1024) := by
  rw [setIioDev]
  split
  · rename_i devfrom devto devnode hf ht hn
    by_cases hv : iioelem.isDevValid = true
    · rw [if_pos hv, scriptComplete_suffixes (hb _ _ hf ht) (iioAllowText_length iioelem)]
      simp [hf, ht, hn, hv]
    · by_cases ho : iioelem.optional = 0 <;> simp [hv, ho]
  · rename_i hnone
    simp only [scriptComplete_nil, true_iff]
    intro _ devfrom devto devnode hf ht hn
    exact absurd hn (hnone devfrom devto devnode hf ht)

lemma scriptComplete_setIio
    (hb : (bindText iioelem.sysfrom iioelem.systo " none bind,rw").length < 2 ^ 31)
    (hdev : ∀ devfrom devto, iioelem.devfrom = some devfrom → iioelem.devto = some devto →
      (bindText devfrom devto " none bind,rw").length < 2 ^ 31) :
    ScriptComplete (setIio iioelem) ↔ iioelem.Fits := by
  rw [setIio, StaticIioElem.Fits]
  by_cases hv : iioelem.isSysValid = true
  · rw [if_neg (by simp [hv]), scriptComplete_withLine_1023 hb scriptComplete_nil]
    simp only [hv, true_imp_iff]
    apply imp_congr_right
    intro hlt
    have hsys :
        (printLine 1023 (bindText iioelem.sysfrom iioelem.systo " none bind,rw")).Complete :=
      printLine_complete (by omega) (by omega) (by omega)
    rw [scriptComplete_append, scriptComplete_setLine, completes_append,
      scriptComplete_setIioDev hdev]
    simp [hsys]
  · by_cases ho : iioelem.optional = 1 <;> simp [hv, ho]

/-- No entry that is reached is cut, if the list head does not refuse the gpios. -/
structure StaticDevices.NoneCut (devc : StaticDevices) : Prop where
  devnode : ∀ pre e post, devc.staticDevlist = pre ++ e :: post →
    (∀ e' ∈ pre, e'.optional = 0 → e'.isValid) → e.Fits
  gpio : (∀ e ∈ devc.staticDevlist, e.optional = 0 → e.isValid) →
    ∀ e ∈ devc.staticGpiolist, e.Fits
  iio : (∀ e ∈ devc.staticDevlist, e.optional = 0 → e.isValid) →
    ∀ pre e post, devc.staticIiolist = pre ++ e :: post → (∀ e' ∈ pre, ¬ e'.Refused) → e.Fits

/-- Every line that a static device is printed into is shorter than an `int` can say. -/
structure StaticDevices.Printable (devc : StaticDevices) : Prop where
  devnode : ∀ e ∈ devc.staticDevlist,
    (bindText e.mountFrom e.mountTo " none bind,rw").length < 2 ^ 31
  gpio : ∀ e ∈ devc.staticGpiolist, (bindText e.mountFrom e.mountTo " none bind").length < 2 ^ 31
  iioSys : ∀ e ∈ devc.staticIiolist, (bindText e.sysfrom e.systo " none bind,rw").length < 2 ^ 31
  iioDev : ∀ e ∈ devc.staticIiolist, ∀ devfrom devto, e.devfrom = some devfrom →
    e.devto = some devto → (bindText devfrom devto " none bind,rw").length < 2 ^ 31

section

variable {devc : StaticDevices}

lemma scriptComplete_gpiolist {stale : ℤ} (hb : devc.Printable) :
    ScriptComplete (devc.staticGpiolist.flatMap (setGpio stale)) ↔
      (stale ≠ 0 → ∀ e ∈ devc.staticGpiolist, e.Fits) := by
  rw [scriptComplete_flatMap_iff (fun _ => completes_setGpio)
    fun e he => scriptComplete_setGpio (hb.gpio e he)]
  constructor
  · intro h hs e he
    obtain ⟨pre, post, hl⟩ := List.append_of_mem he
    exact h pre e post hl (fun _ _ => hs) hs
  · intro h pre e post hl _ hs
    exact h hs e (by simp [hl])

lemma scriptComplete_lxcutilSetConfigStaticDevice {stale : ℤ} (hb : devc.Printable) :
    ScriptComplete (lxcutilSetConfigStaticDevice stale devc) ↔
      ScriptComplete (devc.staticDevlist.flatMap setDevnode) ∧
        ((∀ e ∈ devc.staticDevlist, e.optional = 0 → e.isValid) →
          (stale ≠ 0 → ∀ e ∈ devc.staticGpiolist, e.Fits) ∧
            ((∀ e ∈ devc.staticGpiolist, stale ≠ 0) →
              ScriptComplete (devc.staticIiolist.flatMap setIio))) := by
  have hdefault : ScriptComplete (if devc.enableProtection = 1 then
      onError (-1) lxcutilSetConfigStaticDeviceDefault else []) := by
    split_ifs
    · rw [scriptComplete_onError, lxcutilSetConfigStaticDeviceDefault, scriptComplete_append]
      exact ⟨by simp, fun _ => scriptComplete_flatMap_of_forall (by simp)⟩
    · exact scriptComplete_nil
  rw [lxcutilSetConfigStaticDevice, scriptComplete_append, scriptComplete_append,
    scriptComplete_append, scriptComplete_gpiolist hb]
  simp [hdefault, completes_protection, completes_setDevnode, completes_setGpio]

lemma scriptComplete_devlist (hb : devc.Printable) :
    ScriptComplete (devc.staticDevlist.flatMap setDevnode) ↔
      ∀ pre e post, devc.staticDevlist = pre ++ e :: post →
        (∀ e' ∈ pre, e'.optional = 0 → e'.isValid) → e.Fits := by
  apply scriptComplete_flatMap_iff fun _ => completes_setDevnode
  intro e he
  exact scriptComplete_setDevnode (hb.devnode e he)

lemma scriptComplete_iiolist (hb : devc.Printable) :
    ScriptComplete (devc.staticIiolist.flatMap setIio) ↔
      ∀ pre e post, devc.staticIiolist = pre ++ e :: post →
        (∀ e' ∈ pre, ¬ e'.Refused) → e.Fits := by
  apply scriptComplete_flatMap_iff fun _ => completes_setIio_iff
  intro e he
  exact scriptComplete_setIio (hb.iioSys e he) (hb.iioDev e he)

/-- The devices are set completely, whatever is read for the list head, exactly when no entry that
is reached is cut. -/
lemma staticDevices_noneCut_iff (hb : devc.Printable) :
    (∀ stale, ScriptComplete (lxcutilSetConfigStaticDevice stale devc)) ↔ devc.NoneCut := by
  simp only [scriptComplete_lxcutilSetConfigStaticDevice hb]
  rw [scriptComplete_devlist hb, scriptComplete_iiolist hb]
  constructor
  · intro h
    obtain ⟨hdev, hrest⟩ := h 1
    exact ⟨hdev, fun hv => (hrest hv).1 one_ne_zero, fun hv => (hrest hv).2 fun _ _ => one_ne_zero⟩
  · intro h stale
    exact ⟨h.devnode, fun hv => ⟨fun _ => h.gpio hv, fun _ => h.iio hv⟩⟩

end

end Devices

/-! ### Base config, resources, mounts and interfaces -/

section Parts

lemma scriptComplete_setCap (key : String) (cap : Option String) :
    ScriptComplete (setCap key cap) := by
  cases cap with
  | none => exact scriptComplete_nil
  | some cap =>
    simp only [setCap]
    split_ifs <;> simp

lemma scriptComplete_setIdmaps (idmaps : IdMaps) : ScriptComplete (setIdmaps idmaps) := by
  have hu : (idmapText "u" idmaps.uid).length < 1023 := idmapText_length (by decide) _
  have hg : (idmapText "g" idmaps.gid).length < 1023 := idmapText_length (by decide) _
  rw [setIdmaps]
  split_ifs
  · rw [scriptComplete_append]
    exact ⟨scriptComplete_setPrinted (by omega) (by omega) (by omega) (by simp),
      fun _ => scriptComplete_setPrinted (by omega) (by omega) (by omega) (by simp)⟩
  · exact scriptComplete_nil

/-- The automatic mounts are not tested for their length. -/
lemma scriptComplete_setMountAuto (shmounts : Option String) :
    ScriptComplete (setMountAuto shmounts) ↔ (mountAutoText shmounts).length < 1024 := by
  rw [setMountAuto, scriptComplete_setLine]
  constructor
  · intro h
    exact h.fits (Buffer.zero_sealed.snprintf (by omega) (by omega) (by norm_num) _) (by omega)
  · intro h
    exact printLine_complete (by omega) (by omega) (by omega)

lemma scriptComplete_setInt (key : CString) (k : ℤ) :
    ScriptComplete (setPrinted key 1024 (.ofInt k) [.leave (-2)]) := by
  have hlen := CString.ofInt_length_le k
  exact scriptComplete_setPrinted (by omega) (by omega) (by omega) (by simp)

lemma scriptComplete_lxcutilSetConfigBase {bc : BaseConfig}
    (hroot : (rootfsPathText bc.rootfs).length < 2 ^ 31)
    (hdisks : ∀ d ∈ bc.extradiskList, ScriptComplete (setExtradisk d)) :
    ScriptComplete (lxcutilSetConfigBase bc) ↔
      (¬ LineCut 1023 (rootfsPathText bc.rootfs) → (mountAutoText bc.shmounts).length < 1024) := by
  have hpath : ScriptComplete (setPrinted (.ofString "lxc.rootfs.path") 1023
      (rootfsPathText bc.rootfs) [.leave (-1)]) :=
    scriptComplete_setPrinted (by omega) (by omega) hroot (by simp)
  rw [lxcutilSetConfigBase, scriptComplete_append, completes_setPrinted (by omega)]
  simp only [scriptComplete_append, scriptComplete_flatMap_of_forall hdisks,
    scriptComplete_setConfigItem, scriptComplete_setCap, scriptComplete_setIdmaps,
    scriptComplete_setMountAuto, scriptComplete_setInt, hpath, completes_append,
    completes_flatMap, completes_setExtradisk, completes_setConfigItem, completes_setCap,
    completes_setIdmaps]
  simp

lemma ofHex_length_le {k : ℕ} (h : k < 16 ^ 16) : (CString.ofHex k).length ≤ 16 := by
  simp only [CString.ofHex, CString.length]
  split_ifs
  · simp
  · simpa using (Nat.digits_length_le_iff (by omega) k).mpr h

lemma scriptComplete_lxcutilCreatePerGuestCgroup {version msTime : ℤ} {name : CString}
    (hname : name.length ≤ 0x7ffff000) :
    ScriptComplete (lxcutilCreatePerGuestCgroup version msTime name) := by
  have htime : (CString.ofHex (msTime % 2 ^ 64).toNat).length ≤ 16 := ofHex_length_le (by omega)
  have hlits : (CString.ofString "-container-").length = 11 ∧
      (CString.ofString "-monitor-").length = 9 ∧ (CString.ofString "-ns").length = 3 := by decide
  have hdir : ∀ (key : String) (text : CString), text.length < 2 ^ 31 → ScriptComplete
      (setPrinted (.ofString key) 1023 text [.leave (-2)] ++ otherCall .strdup (-2)) := by
    intro key text htext
    rw [scriptComplete_append]
    exact ⟨scriptComplete_setPrinted (by omega) (by omega) htext (by simp), fun _ => by simp⟩
  rw [lxcutilCreatePerGuestCgroup]
  split_ifs
  · exact scriptComplete_nil
  · simp only [lxcutilCreatePerGuestCgroupV1]
    rw [scriptComplete_append, scriptComplete_append, scriptComplete_append]
    refine ⟨⟨⟨hdir _ _ ?_, fun _ => hdir _ _ ?_⟩, fun _ => hdir _ _ ?_⟩, fun _ => by simp⟩
    all_goals
      simp only [CString.length_append]
      omega
  · exact scriptComplete_leave

lemma scriptComplete_setResource {cgroupVer : ℤ} {melem : ResourceElem}
    (h : melem.object.length ≤ 0x7ffff000) : ScriptComplete (setResource cgroupVer melem) := by
  have hnode : ∀ node : String, (CString.ofString node).length ≤ 100 → ScriptComplete
      (onError (-1) (lxcutilSetConfigResourceNode node melem.object melem.value)) := by
    intro node hlen
    have hlits : (CString.ofString "lxc.").length = 4 ∧ (CString.ofString ".").length = 1 := by
      decide
    have hkey : (resourceKey node melem.object).length < 2 ^ 31 := by
      simp only [resourceKey, CString.length_append]
      omega
    rw [scriptComplete_onError, lxcutilSetConfigResourceNode,
      scriptComplete_withLine_1023 hkey (by simp), scriptComplete_append]
    intro _
    exact ⟨scriptComplete_prints_printLine (by omega) (by omega), fun _ => by simp⟩
  simp only [setResource]
  cases melem.type with
  | cgroupV1 =>
    dsimp only
    split_ifs
    · exact scriptComplete_nil
    · exact hnode _ (by decide)
  | cgroupV2 =>
    dsimp only
    split_ifs
    · exact scriptComplete_nil
    · exact hnode _ (by decide)
  | prlimit => exact hnode _ (by decide)
  | sysctl => exact hnode _ (by decide)

lemma scriptComplete_setVxcan (msTime : ℤ) (name : CString) (num : ℕ) :
    ScriptComplete (setVxcan msTime name num) := by
  -- the name of the guest's side is shorter than an interface name may be
  have hname : ∀ v,
      (CString.ofString "vxcang" ++ hex8 v).take 15 = .ofString "vxcang" ++ hex8 v := by
    intro v
    have hlen : (CString.ofString "vxcang" ++ hex8 v).bytes.length = 14 := by
      have hhead : (CString.ofString "vxcang").bytes.length = 6 := by decide
      simp [hhead, hex8]
    exact CString.ext (List.take_of_length_le (by omega))
  simp [setVxcan, scriptComplete_append, LxcCall.Complete, peerGuestName, vxcanName, hname]

lemma scriptComplete_lxcutilSetConfigStaticNetif (msTime : ℕ → ℤ) (netifs : List StaticNetifElem) :
    ScriptComplete (lxcutilSetConfigStaticNetif msTime netifs) := by
  apply scriptComplete_flatMap_of_forall
  intro netelem _
  split
  · simp [lxcutilSetConfigStaticNetifVeth, scriptComplete_append]
  · simp [scriptComplete_setVxcan]

end Parts

end ContainerManager

import ContainerManager.Lxc.Rendering

/-!
# What the entries of the devices say

The items a script sets and the devices it allows, with what they were to say. For every static
device these are its entries, told from its fields: the format, the paths, and the options that go
with its flags.
-/

namespace ContainerManager

open Script

/-! ### Entries of a script -/

/-- An item that is set, or a device that is allowed or denied, with the text that was meant. -/
inductive ConfigEntry where
  | item (key : CString) (text : Option CString)
  | device (isAllow : Bool) (text : CString)
deriving DecidableEq

/-- The entry a call makes. -/
def LxcCall.entry : LxcCall → Option ConfigEntry
  | .print _ => none
  | .item key _ rendered => some (.item key rendered)
  | .device isAllow _ rendered => some (.device isAllow rendered)
  | .other _ => none

/-- The entries that are made when no call fails. -/
def entries (ops : ConfigScript) : List ConfigEntry := (reached ops).filterMap LxcCall.entry

section Scripts

variable {ops ops' : ConfigScript} {key : CString} {p : Line 1024} {size : ℤ} {text : CString}
  {onCut : ConfigScript} {next : Line 1024 → ConfigScript}

@[simp] lemma entries_nil : entries [] = [] := rfl

@[simp] lemma entries_leave {ret : ℤ} : entries [.leave ret] = [] := rfl

lemma entries_append (h : Completes ops) : entries (ops ++ ops') = entries ops ++ entries ops' := by
  rw [entries, reached_append h, List.filterMap_append]
  rfl

lemma entries_flatMap {ι : Type*} {l : List ι} {f : ι → ConfigScript}
    (h : ∀ i ∈ l, Completes (f i)) : entries (l.flatMap f) = l.flatMap fun i => entries (f i) := by
  induction l with
  | nil => rfl
  | cons i l ih =>
    rw [List.flatMap_cons, List.flatMap_cons, entries_append (h i (by simp)),
      ih fun j hj => h j (by simp [hj])]

@[simp] lemma entries_prints : entries (prints p) = [] := by
  simp only [prints, entries]
  induction p.buf.accesses with
  | nil => rfl
  | cons a l ih => exact ih

@[simp] lemma entries_setLine : entries (setLine key p) = [.item key (some p.buf.rendered)] := rfl

lemma entries_prints_append : entries (prints p ++ ops) = entries ops := by
  rw [entries_append completes_prints, entries_prints, List.nil_append]

lemma entries_withLine (h : 0 ≤ size) : entries (withLine size text onCut next) =
    if LineCut size text then entries onCut else entries (next (printLine size text)) := by
  simp only [withLine, printLine_cut h]
  split_ifs
  · exact entries_prints_append
  · rfl

/-- A line that is set with its suffixes, and the device that is allowed after it. -/
lemma entries_suffixes {allow : CString} {suffixes : List CString} {onFail : Option ℤ}
    (hallow : allow.length < 1023) :
    entries (withLine 1023 text [] fun p =>
        let p := p.appendAll suffixes
        prints p ++ setLine key p ++ withLine 1023 allow [] fun p =>
          prints p ++ [.call (.device true p.buf.text p.buf.rendered) onFail]) =
      if LineCut 1023 text then []
      else [.item key (some (suffixes.foldl (· ++ ·) text)), .device true allow] := by
  have hrendered : ((printLine 1023 text).appendAll suffixes).buf.rendered =
      suffixes.foldl (· ++ ·) text := Line.appendAll_rendered _ suffixes
  have hcut : ¬ LineCut 1023 allow := (not_lineCut (by omega)).mpr (by omega)
  rw [entries_withLine (by omega)]
  refine if_congr Iff.rfl rfl ?_
  simp only [List.append_assoc, entries_prints_append]
  rw [entries_append completes_setLine, entries_withLine (by omega), if_neg hcut,
    entries_prints_append, entries_setLine, hrendered]
  rfl

end Scripts

/-! ### Devices -/

/-- The mount entry of a device node or directory. -/
def StaticDeviceElem.entryText (e : StaticDeviceElem) : CString :=
  e.mountFrom ++ .ofString " " ++ e.mountTo ++ .ofString (
    match e.type with
    | .devnode =>
      if e.optional = 1 then " none bind,rw,optional,create=file" else " none bind,rw,create=file"
    | .devdir =>
      if e.optional = 1 then " none bind,rw,optional,create=dir" else " none bind,rw,create=dir")

/-- The mount entry of a gpio that is written to. -/
def StaticGpioElem.entryText (e : StaticGpioElem) : CString :=
  e.mountFrom ++ .ofString " " ++ e.mountTo ++ .ofString " none bind,rw"

/-- The mount entry of the sysfs directory of an iio. -/
def StaticIioElem.sysEntryText (e : StaticIioElem) : CString :=
  e.sysfrom ++ .ofString " " ++ e.systo ++ .ofString " none bind,rw"

/-- The mount entry of the device node of an iio. -/
def StaticIioElem.devEntryText (e : StaticIioElem) (devfrom devto : CString) : CString :=
  devfrom ++ .ofString " " ++ devto ++ .ofString (
    if e.optional = 1 then " none bind,rw,optional,create=file" else " none bind,rw,create=file")

/-- The entries of the device node of an iio, if it is there. -/
def StaticIioElem.devEntries (e : StaticIioElem) : List ConfigEntry :=
  match e.devfrom, e.devto, e.devnode with
  | some devfrom, some devto, some _ =>
    if e.isDevValid ∧ ¬ LineCut 1023 (bindText devfrom devto " none bind,rw") then
      [.item (.ofString "lxc.mount.entry") (some (e.devEntryText devfrom devto)),
        .device true (iioAllowText e)]
    else []
  | _, _, _ => []

section Devices

variable {develem : StaticDeviceElem} {gpioelem : StaticGpioElem} {iioelem : StaticIioElem}

lemma devnode_entryText (e : StaticDeviceElem) : (devnodeSuffixes e).foldl (· ++ ·)
    (bindText e.mountFrom e.mountTo " none bind,rw") = e.entryText := by
  simp only [devnodeSuffixes, bindText, StaticDeviceElem.entryText]
  cases e.type <;> split_ifs <;>
    simp only [List.nil_append, List.singleton_append, List.foldl_cons, List.foldl_nil,
      CString.append_assoc] <;>
    congr 3

lemma iio_devEntryText (e : StaticIioElem) (devfrom devto : CString) :
    (iioSuffixes e).foldl (· ++ ·) (bindText devfrom devto " none bind,rw") =
      e.devEntryText devfrom devto := by
  simp only [iioSuffixes, bindText, StaticIioElem.devEntryText]
  split_ifs <;>
    simp only [List.nil_append, List.singleton_append, List.foldl_cons, List.foldl_nil,
      CString.append_assoc] <;>
    congr 3

/-- A device that was found is mounted and allowed, unless its entry is too long. -/
lemma entries_setDevnode : entries (setDevnode develem) =
    if develem.isValid ∧ ¬ LineCut 1023 (bindText develem.mountFrom develem.mountTo " none bind,rw")
    then [.item (.ofString "lxc.mount.entry") (some develem.entryText),
      .device true (devnodeAllowText develem)]
    else [] := by
  rw [setDevnode]
  by_cases hv : develem.isValid = true
  · rw [if_neg (by simp [hv]), if_neg (by simp [hv]),
      entries_suffixes (devnodeAllowText_length develem), devnode_entryText]
    simp [hv, ite_not]
  · by_cases ho : develem.optional = 0 <;> simp [hv, ho]

/-- A gpio with a direction is mounted when it is not an input. -/
lemma entries_setGpio {stale : ℤ} : entries (setGpio stale gpioelem) =
    if stale ≠ 0 ∧ (0 ≤ gpioelem.portdirection ∧ gpioelem.portdirection ≤ 4) ∧
      gpioelem.portdirection ≠ 1 ∧
        ¬ LineCut 1023 (bindText gpioelem.mountFrom gpioelem.mountTo " none bind")
    then [.item (.ofString "lxc.mount.entry") (some gpioelem.entryText)] else [] := by
  have htext : ((printLine 1023 (bindText gpioelem.mountFrom gpioelem.mountTo " none bind")).append
      (.ofString ",rw")).buf.rendered = gpioelem.entryText := by
    simp only [Line.append_rendered, printLine, Line.print, Buffer.snprintf, bindText,
      StaticGpioElem.entryText, CString.append_assoc]
    congr 3
  rw [setGpio]
  by_cases hs : stale = 0
  · simp [hs]
  · rw [if_neg hs, entries_withLine (by omega)]
    by_cases hc : LineCut 1023 (bindText gpioelem.mountFrom gpioelem.mountTo " none bind")
    · simp [hc]
    · by_cases hd : 0 ≤ gpioelem.portdirection ∧ gpioelem.portdirection ≤ 4
      · by_cases hin : gpioelem.portdirection = 1
        · simp [hs, hc, hin]
        · simp [hs, hc, hd, hin, devgpioDirectionIsvalid, entries_prints_append, htext]
      · simp [hs, hc, hd, devgpioDirectionIsvalid]

lemma entries_setIioDev : entries (setIioDev iioelem) = iioelem.devEntries := by
  rw [setIioDev]
  split
  · rename_i devfrom devto devnode hf ht hn
    simp only [StaticIioElem.devEntries, hf, ht, hn]
    by_cases hv : iioelem.isDevValid = true
    · rw [if_pos hv, entries_suffixes (iioAllowText_length iioelem), iio_devEntryText]
      simp [hv, ite_not]
    · by_cases ho : iioelem.optional = 0 <;> simp [hv, ho]
  · rename_i hnone
    rw [StaticIioElem.devEntries]
    split
    · rename_i devfrom devto devnode hf ht hn
      exact (hnone devfrom devto devnode hf ht hn).elim
    · rfl

lemma entries_setIio : entries (setIio iioelem) =
    if iioelem.isSysValid ∧ ¬ iioelem.SysLineCut then
      .item (.ofString "lxc.mount.entry") (some iioelem.sysEntryText) :: iioelem.devEntries
    else [] := by
  rw [setIio]
  by_cases hv : iioelem.isSysValid = true
  · rw [if_neg (by simp [hv]), entries_withLine (by omega)]
    simp only [StaticIioElem.SysLineCut, hv, true_and, ite_not]
    refine if_congr Iff.rfl rfl ?_
    rw [List.append_assoc, entries_prints_append, entries_append completes_setLine,
      entries_setLine, entries_setIioDev]
    rfl
  · by_cases ho : iioelem.optional = 1 <;> simp [hv, ho]

/-- When the devices are gone through, the entries are those of the protection and of each device,
in their order. -/
lemma entries_lxcutilSetConfigStaticDevice {stale : ℤ} {devc : StaticDevices}
    (h : Completes (lxcutilSetConfigStaticDevice stale devc)) :
    entries (lxcutilSetConfigStaticDevice stale devc) =
      (if devc.enableProtection = 1 then
        .device false (.ofString "a") ::
          gDefaultAllowDevices.map fun text => .device true (.ofString text)
      else []) ++
      (devc.staticDevlist.flatMap fun e => entries (setDevnode e)) ++
      (devc.staticGpiolist.flatMap fun e => entries (setGpio stale e)) ++
      devc.staticIiolist.flatMap fun e => entries (setIio e) := by
  rw [lxcutilSetConfigStaticDevice] at h ⊢
  obtain ⟨hprotect, h⟩ := completes_append.mp h
  obtain ⟨hdev, h⟩ := completes_append.mp h
  obtain ⟨hgpio, hiio⟩ := completes_append.mp h
  rw [entries_append hprotect, entries_append hdev, entries_append hgpio,
    entries_flatMap (completes_flatMap.mp hdev), entries_flatMap (completes_flatMap.mp hgpio),
    entries_flatMap (completes_flatMap.mp hiio)]
  simp only [List.append_assoc]
  congr 1
  split_ifs
  · rw [entries, reached_onError]
    rfl
  · rfl

end Devices

end ContainerManager

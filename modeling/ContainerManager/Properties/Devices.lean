import ContainerManager.Control.StartProperties
import ContainerManager.Plugin

/-!
# The repaired device

The recovery of a disk hands `device=` and the configured device to a plugin, which splits the
string at its blanks. The plugin finds the configured device again exactly when the device has no
blank.
-/

namespace ContainerManager

open Plugin

/-! ### The recovery loop -/

/-- What the plugins answer to the recoveries of these disks. -/
def AnsweredByPlugins (sys : ℕ → PluginSys) (l : List ExtraDisk) : Prop :=
  ∀ k d key module, l[k]? = some d → recoveryKey d.redundancy = some key →
    containerWorkqueueGetPlugin key = some module →
      (sys k).setArgs = (setArgs module {} (recoveryOption d)).2

/-- The recovery gets past the disks before this one, and queues its worker. -/
structure Schedules (sys : ℕ → PluginSys) (wq : Workqueue) (before : List ExtraDisk)
    (d : ExtraDisk) : Prop where
  reached : (containerStartPreprocessRecovery sys wq before).2 = 0
  failed : d.isMounted = false ∧ 0 < d.errorCount
  fits : recoveryOptionFits d = true
  scheduled : ∃ key, recoveryKey d.redundancy = some key ∧
    (containerWorkqueueSchedule (sys before.length)
      (containerStartPreprocessRecovery sys wq before).1 key (recoveryOption d) 1).2 = 0

/-- The device of the queued worker, once its plugin took the arguments. -/
def Workqueue.blkdevPath (wq : Workqueue) : Option String :=
  wq.object.bind fun obj => obj.args.bind fun args => (setArgs obj.module {} args).1.blkdevPath

lemma recovery_append {sys : ℕ → PluginSys} {wq : Workqueue} {before : List ExtraDisk}
    (h : (containerStartPreprocessRecovery sys wq before).2 = 0) (l : List ExtraDisk) :
    containerStartPreprocessRecovery sys wq (before ++ l) =
      containerStartPreprocessRecovery (fun k => sys (k + before.length))
        (containerStartPreprocessRecovery sys wq before).1 l := by
  induction before generalizing sys wq with
  | nil => rfl
  | cons d before ih =>
    have hlen : ∀ k, k + (d :: before).length = k + before.length + 1 := fun k => by
      rw [List.length_cons]
      omega
    simp only [containerStartPreprocessRecovery] at h
    rw [List.cons_append]
    conv_lhs => unfold containerStartPreprocessRecovery
    conv_rhs =>
      enter [2, 1]
      simp only [containerStartPreprocessRecovery]
    simp only [hlen]
    by_cases hd : ¬ d.isMounted = true ∧ 0 < d.errorCount
    · rw [if_pos hd] at h ⊢
      rw [if_pos hd]
      by_cases hfits : recoveryOptionFits d = true
      · rw [if_neg (not_not.mpr hfits)] at h ⊢
        rw [if_neg (not_not.mpr hfits)]
        cases hk : recoveryKey d.redundancy with
        | none =>
          simp only [hk] at h ⊢
          exact ih h
        | some key =>
          simp only [hk] at h ⊢
          split_ifs at h ⊢ with h0
          · simp at h
          · exact ih h
      · simp [hfits] at h
    · rw [if_neg hd] at h ⊢
      rw [if_neg hd]
      exact ih h

/-- The worker that is queued is the one of the disk the recovery schedules. -/
lemma Schedules.recovery {sys : ℕ → PluginSys} {wq : Workqueue} {before : List ExtraDisk}
    {d : ExtraDisk} (h : Schedules sys wq before d) (after : List ExtraDisk) :
    ∃ key, recoveryKey d.redundancy = some key ∧
      containerStartPreprocessRecovery sys wq (before ++ d :: after) =
        ((containerWorkqueueSchedule (sys before.length)
          (containerStartPreprocessRecovery sys wq before).1 key (recoveryOption d) 1).1, 1) := by
  obtain ⟨key, hk, h0⟩ := h.scheduled
  refine ⟨key, hk, ?_⟩
  rw [recovery_append h.reached, containerStartPreprocessRecovery,
    if_pos ⟨by simp [h.failed.1], h.failed.2⟩, if_neg (not_not.mpr h.fits)]
  simp only [hk, Nat.zero_add]
  rw [if_pos h0]

/-- A scheduled worker's plugin took the arguments, and they are attached with it. -/
lemma schedule_object {sys : PluginSys} {wq : Workqueue} {key args : String} {l : ℤ}
    (h : (containerWorkqueueSchedule sys wq key args l).2 = 0) :
    sys.setArgs = 0 ∧ ∃ module, containerWorkqueueGetPlugin key = some module ∧
      (containerWorkqueueSchedule sys wq key args l).1.object =
        some ⟨wq.loaded, module, some args⟩ := by
  by_cases hs : wq.status = .inactive
  · cases hk : containerWorkqueueGetPlugin key with
    | none => simp [containerWorkqueueSchedule, containerWorkqueueLoadPlugin, hs, hk] at h
    | some module =>
      cases hl : sys.load <;> by_cases ha : sys.setArgs = 0 <;>
        simp [containerWorkqueueSchedule, containerWorkqueueLoadPlugin, containerWorkqueueSetArgs,
          hs, hk, hl, ha] at h ⊢
  · simp [containerWorkqueueSchedule, hs] at h

/-! ### The option string -/

/-- The option string of a device. -/
def deviceOption (dev : String) : List Char := Plugin.cstrOptionDevice.toList ++ dev.toList

/-- The device has no blank, or it starts with one and none of its words names a device. -/
def Encodable (dev : String) : Prop :=
  ' ' ∉ dev.toList ∨
    dev.toList.head? = some ' ' ∧ ∀ w ∈ Tokens.words ' ' dev.toList, namesDevice w = false

instance (dev : String) : Decidable (Encodable dev) := inferInstanceAs (Decidable (_ ∨ _))

lemma blank_notMem_option : ' ' ∉ Plugin.cstrOptionDevice.toList := by decide

lemma namesDevice_append {p : List Char} :
    namesDevice (Plugin.cstrOptionDevice.toList ++ p) = true ↔ p ≠ [] := by
  have hlen : Plugin.cstrOptionDevice.toList.length = Plugin.cstrOptionDevice.length :=
    String.length_toList
  cases p <;> simp [namesDevice, ← hlen]

lemma optionDevice_append (p : List Char) :
    optionDevice (Plugin.cstrOptionDevice.toList ++ p) = String.ofList p := by
  have hlen : Plugin.cstrOptionDevice.length = Plugin.cstrOptionDevice.toList.length :=
    String.length_toList.symm
  rw [optionDevice, hlen, List.drop_left]

/-- The device of an option has no blank. -/
lemma blank_notMem_device {s substr : List Char}
    (h : (Tokens.words ' ' s).find? namesDevice = some substr) :
    ' ' ∉ (optionDevice substr).toList := by
  intro hm
  rw [optionDevice, String.toList_ofList] at hm
  exact Tokens.notMem_of_mem_words (List.mem_of_find?_eq_some h) (List.mem_of_mem_drop hm)

/-- A device without blank is found again. -/
lemma find_of_notMem {dev : String} (hne : dev ≠ "") (h : ' ' ∉ dev.toList) :
    (Tokens.words ' ' (deviceOption dev)).find? namesDevice = some (deviceOption dev) := by
  have hdev : dev.toList ≠ [] := by simpa using hne
  have hs : ' ' ∉ deviceOption dev := by
    rw [deviceOption, List.mem_append, not_or]
    exact ⟨blank_notMem_option, h⟩
  rw [Tokens.words_of_notMem (by simp [deviceOption, hdev]) hs]
  have hnames : namesDevice (deviceOption dev) = true := namesDevice_append.mpr hdev
  simp [hnames]

lemma find_empty : (Tokens.words ' ' (deviceOption "")).find? namesDevice = none := by decide

/-- The words of a device that starts with a blank follow the bare option. -/
lemma words_of_blank {dev : String} (h : dev.toList.head? = some ' ') :
    Tokens.words ' ' (deviceOption dev) =
      Plugin.cstrOptionDevice.toList :: Tokens.words ' ' dev.toList := by
  obtain ⟨rest, hrest⟩ := List.head?_eq_some_iff.mp h
  rw [deviceOption, hrest, Tokens.words_append_cons (by decide) blank_notMem_option,
    Tokens.words_cons_self]

lemma namesDevice_option : namesDevice Plugin.cstrOptionDevice.toList = false := by decide

/-- A device with a blank is taken for another one, unless no device is found at all. -/
lemma find_of_not_encodable {dev : String} (h : ¬ Encodable dev) :
    ∃ substr, (Tokens.words ' ' (deviceOption dev)).find? namesDevice = some substr := by
  obtain ⟨hblank, hwords⟩ := not_or.mp h
  rw [← Option.isSome_iff_exists, List.find?_isSome]
  by_cases hhead : dev.toList.head? = some ' '
  · rw [words_of_blank hhead]
    by_contra hnone
    refine hwords ⟨hhead, fun w hw => ?_⟩
    by_contra hn
    exact hnone ⟨w, List.mem_cons_of_mem _ hw, by simpa using hn⟩
  · -- the first option names what stands before the first blank
    obtain ⟨p, rest, hdev, hp⟩ := List.eq_append_cons_of_mem (not_not.mp hblank)
    have hpne : p ≠ [] := by
      rintro rfl
      simp [hdev] at hhead
    have hfirst : ' ' ∉ Plugin.cstrOptionDevice.toList ++ p :=
      List.not_mem_append blank_notMem_option hp
    rw [deviceOption, hdev, ← List.append_assoc, Tokens.words_append_cons (by simp [hpne]) hfirst]
    exact ⟨_, List.mem_cons_self, namesDevice_append.mpr hpne⟩

/-! ### Configured devices -/

/-- Whenever the recovery schedules a worker for a disk with this device, the plugin works on the
device. -/
def RepairsConfigured (dev : String) : Prop :=
  ∀ sys wq before d after, AnsweredByPlugins sys (before ++ d :: after) → d.blockdev.1 = dev →
    Schedules sys wq before d →
      (containerStartPreprocessRecovery sys wq (before ++ d :: after)).1.blkdevPath = some dev

/-- A disk with this device whose mount failed. -/
def repairableDisk (dev : String) : ExtraDisk where
  mountFrom := "/opt/container/cluster/data"
  mountTo := "data"
  redundancy := .fsck
  blockdev := (dev, none)
  errorCount := 1

lemma recoveryOption_toList (d : ExtraDisk) :
    (recoveryOption d).toList = deviceOption d.blockdev.1 := String.toList_append

/-- What a plugin makes of the option of a disk. -/
lemma setArgs_recoveryOption (module : String) {d : ExtraDisk} (h : recoveryOptionFits d = true) :
    setArgs module {} (recoveryOption d) =
      match (Tokens.words ' ' (deviceOption d.blockdev.1)).find? namesDevice with
      | none => ({}, -1)
      | some substr => ({ blkdevPath := some (optionDevice substr) }, 0) := by
  have hsize : (recoveryOption d).utf8ByteSize < 1024 := by
    have := of_decide_eq_true h
    omega
  have hset := @setDeviceArgs_eq {} (recoveryOption d) hsize
  rw [recoveryOption_toList] at hset
  rw [setArgs_eq]
  exact hset

/-- The queued worker of a scheduled disk works on what its plugin took for the device. -/
lemma Schedules.blkdevPath {sys : ℕ → PluginSys} {wq : Workqueue} {before : List ExtraDisk}
    {d : ExtraDisk} {after : List ExtraDisk} (h : Schedules sys wq before d)
    (ha : AnsweredByPlugins sys (before ++ d :: after)) :
    ∃ substr, (Tokens.words ' ' (deviceOption d.blockdev.1)).find? namesDevice = some substr ∧
      (containerStartPreprocessRecovery sys wq (before ++ d :: after)).1.blkdevPath =
        some (optionDevice substr) := by
  obtain ⟨key, hk, heq⟩ := h.recovery after
  obtain ⟨key', hk', h0⟩ := h.scheduled
  obtain rfl := Option.some.inj (hk.symm.trans hk')
  obtain ⟨hset, module, hmod, hobj⟩ := schedule_object h0
  have hargs := setArgs_recoveryOption module h.fits
  have hret := ha before.length d key module (by simp) hk hmod
  rw [hset] at hret
  rw [heq]
  cases hfind : (Tokens.words ' ' (deviceOption d.blockdev.1)).find? namesDevice with
  | none =>
    rw [hfind] at hargs
    simp [hargs] at hret
  | some substr =>
    rw [hfind] at hargs
    exact ⟨substr, rfl, by simp [Workqueue.blkdevPath, hobj, hargs]⟩

/-- A disk with a device that some plugin finds an option for is scheduled on an empty queue. -/
lemma repairableDisk_schedules {dev : String}
    (hfits : recoveryOptionFits (repairableDisk dev) = true) :
    Schedules (fun _ => ⟨true, 0⟩) (containerWorkqueueInitialize 0).1 [] (repairableDisk dev) := by
  have hk : containerWorkqueueGetPlugin "fsck" = some "cm-worker-fsck.so" := rfl
  exact ⟨rfl, ⟨rfl, Nat.one_pos⟩, hfits, "fsck", rfl,
    containerWorkqueueSchedule_eq_zero _ _ rfl hk rfl rfl⟩

lemma repairableDisk_answered {dev : String}
    (hfits : recoveryOptionFits (repairableDisk dev) = true) {substr : List Char}
    (hfind : (Tokens.words ' ' (deviceOption dev)).find? namesDevice = some substr) :
    AnsweredByPlugins (fun _ => ⟨true, 0⟩) [repairableDisk dev] := by
  intro k d key module hd _ _
  obtain rfl : d = repairableDisk dev := by
    have := List.mem_of_getElem? hd
    simpa using this
  rw [setArgs_recoveryOption module hfits]
  simp only [repairableDisk, hfind]

/-- The plugins work on the configured device exactly when it has no blank that the option is split
at, or is too long to be scheduled. -/
theorem repairs_configured_iff (dev : String) :
    RepairsConfigured dev ↔ (recoveryOptionFits (repairableDisk dev) = true → Encodable dev) := by
  constructor
  · intro h hfits
    by_contra hn
    obtain ⟨substr, hfind⟩ := find_of_not_encodable hn
    have hanswer := repairableDisk_answered hfits hfind
    have hs := repairableDisk_schedules hfits
    have hdev := h _ _ [] _ [] hanswer rfl hs
    obtain ⟨substr', hfind', hpath⟩ := hs.blkdevPath hanswer
    have e := Option.some.inj (hpath.symm.trans hdev)
    refine hn (Or.inl ?_)
    rw [← e]
    exact blank_notMem_device hfind'
  · rintro h sys wq before d after ha rfl hs
    obtain ⟨substr, hfind, hpath⟩ := hs.blkdevPath ha
    rw [hpath]
    rcases h hs.fits with hblank | ⟨hhead, hwords⟩
    · have hne : d.blockdev.1 ≠ "" := by
        intro e
        rw [e, find_empty] at hfind
        simp at hfind
      obtain rfl := Option.some.inj (hfind.symm.trans (find_of_notMem hne hblank))
      rw [deviceOption, optionDevice_append, String.ofList_toList]
    · -- no word names a device, so the plugin refused the arguments
      rw [words_of_blank hhead, List.find?_cons_of_neg (by simp [namesDevice_option])] at hfind
      have hsome := List.find?_some hfind
      rw [hwords substr (List.mem_of_find?_eq_some hfind)] at hsome
      simp at hsome

/-- A device with a blank: the plugin works on what stands before it. -/
theorem blank_splits_device : ¬ RepairsConfigured "/dev/disk/by-label/my data" := by
  intro h
  have hfits : recoveryOptionFits (repairableDisk "/dev/disk/by-label/my data") = true := by decide
  have hfind : (Tokens.words ' ' (deviceOption "/dev/disk/by-label/my data")).find? namesDevice =
      some "device=/dev/disk/by-label/my".toList := by decide
  have hanswer := repairableDisk_answered hfits hfind
  have hs := repairableDisk_schedules hfits
  obtain ⟨substr, hfind', hpath⟩ := hs.blkdevPath hanswer
  have hdev := Option.some.inj (hpath.symm.trans (h _ _ [] _ [] hanswer rfl hs))
  obtain rfl := Option.some.inj (hfind.symm.trans hfind')
  exact absurd hdev (by decide)

end ContainerManager

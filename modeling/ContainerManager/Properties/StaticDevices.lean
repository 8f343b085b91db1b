import ContainerManager.Lxc.Outcomes

/-!
# Mandatory static devices

When the configuration of the static devices fails exactly if a mandatory device is missing. The
loop over the gpios tests the variable of the loop before it, and an iio whose sysfs entry is too
long is passed over together with its device node.
-/

namespace ContainerManager

open Script

/-- Every mandatory device was found. -/
structure MandatoryAvailable (devc : StaticDevices) : Prop where
  devnode : ∀ e ∈ devc.staticDevlist, e.optional = 0 → e.isValid
  gpio : ∀ e ∈ devc.staticGpiolist, e.isValid
  iio : ∀ e ∈ devc.staticIiolist, e.optional = 0 → e.isSysValid ∧ (e.DevGiven → e.isDevValid)

/-- The return value of `lxcutil_set_config_static_device`, with these answers to its calls. -/
def staticDeviceResult (staleIsValid : ℤ) (devc : StaticDevices) (answer : ℕ → LxcAnswer) : ℤ :=
  (Script.run LxcCall.ok answer (lxcutilSetConfigStaticDevice staleIsValid devc)).ret

/-- The function succeeds only with all mandatory devices, succeeds with them when its calls do, and
refuses a gpio exactly when this gpio is not valid. -/
structure GatesStart (staleIsValid : ℤ) (devc : StaticDevices) : Prop where
  only : ∀ answer, staticDeviceResult staleIsValid devc answer = 0 → MandatoryAvailable devc
  conversely : MandatoryAvailable devc → ∀ answer, AllSucceed answer →
    staticDeviceResult staleIsValid devc answer = 0
  gpio : ∀ e ∈ devc.staticGpiolist, Completes (setGpio staleIsValid e) ↔ e.isValid

/-! ### Iio elements -/

namespace StaticIioElem

/-- A mandatory node of the iio is missing. -/
def Missing (e : StaticIioElem) : Prop :=
  e.optional = 0 ∧ ¬ (e.isSysValid ∧ (e.DevGiven → e.isDevValid))

/-- The device node is missing, but the entry of the sysfs node is too long. -/
def Masked (e : StaticIioElem) : Prop :=
  e.optional = 0 ∧ e.isSysValid ∧ e.SysLineCut ∧ e.DevGiven ∧ ¬ e.isDevValid

/-- The sysfs node is missing, and `optional` is neither 0 nor 1. -/
def Unclear (e : StaticIioElem) : Prop := ¬ e.isSysValid ∧ e.optional ≠ 0 ∧ e.optional ≠ 1

variable {e : StaticIioElem}

lemma masked_iff : e.Masked ↔ e.Missing ∧ ¬ e.Refused := by
  rw [Masked, Missing, Refused]
  have h01 : e.optional = 0 → e.optional ≠ 1 := by omega
  tauto

lemma unclear_iff : e.Unclear ↔ e.Refused ∧ ¬ e.Missing := by
  rw [Unclear, Missing, Refused]
  have h01 : e.optional = 0 → e.optional ≠ 1 := by omega
  tauto

end StaticIioElem

/-- The list head reads as the gpios are. Unless a device or gpio is missing anyway, a masked iio
only occurs with one that is refused, and an unclear iio only with one that is missing. -/
structure GateCondition (staleIsValid : ℤ) (devc : StaticDevices) : Prop where
  gpio : ∀ e ∈ devc.staticGpiolist, staleIsValid ≠ 0 ↔ e.isValid
  masked : (∀ e ∈ devc.staticDevlist, e.optional = 0 → e.isValid) →
    (∀ e ∈ devc.staticGpiolist, e.isValid) →
      (∃ e ∈ devc.staticIiolist, e.Masked) → ∃ e ∈ devc.staticIiolist, e.Refused
  unclear : (∀ e ∈ devc.staticDevlist, e.optional = 0 → e.isValid) →
    (∀ e ∈ devc.staticGpiolist, e.isValid) →
      (∃ e ∈ devc.staticIiolist, e.Unclear) → ∃ e ∈ devc.staticIiolist, e.Missing

section Gate

variable {staleIsValid : ℤ} {devc : StaticDevices}

lemma mandatoryAvailable_iff : MandatoryAvailable devc ↔
    (∀ e ∈ devc.staticDevlist, e.optional = 0 → e.isValid) ∧
      (∀ e ∈ devc.staticGpiolist, e.isValid) ∧ ∀ e ∈ devc.staticIiolist, ¬ e.Missing := by
  have hiio : (∀ e ∈ devc.staticIiolist,
      e.optional = 0 → e.isSysValid ∧ (e.DevGiven → e.isDevValid)) ↔
      ∀ e ∈ devc.staticIiolist, ¬ e.Missing := by
    apply forall₂_congr
    intro e _
    rw [StaticIioElem.Missing]
    tauto
  exact ⟨fun h => ⟨h.devnode, h.gpio, hiio.mp h.iio⟩, fun h => ⟨h.1, h.2.1, hiio.mpr h.2.2⟩⟩

lemma staticDeviceResult_eq_zero {answer : ℕ → LxcAnswer}
    (h : staticDeviceResult staleIsValid devc answer = 0) : GoesOn staleIsValid devc :=
  completes_iff_goesOn.mp (run_ret_eq_zero errors_lxcutilSetConfigStaticDevice h).1

lemma staticDeviceResult_of_allSucceed {answer : ℕ → LxcAnswer} (h : AllSucceed answer) :
    staticDeviceResult staleIsValid devc answer = 0 ↔ GoesOn staleIsValid devc :=
  (run_ret_of_ok errors_lxcutilSetConfigStaticDevice h.ok).trans completes_iff_goesOn

/-- The tests of the function are the mandatory devices. -/
lemma gatesStart_iff_goesOn : GatesStart staleIsValid devc ↔
    (GoesOn staleIsValid devc ↔ MandatoryAvailable devc) ∧
      ∀ e ∈ devc.staticGpiolist, staleIsValid ≠ 0 ↔ e.isValid := by
  have hok : AllSucceed fun _ => ⟨1, true⟩ := fun _ => ⟨rfl, .inl rfl⟩
  constructor
  · intro h
    refine ⟨⟨fun hg => ?_, fun hm => ?_⟩, fun e he => completes_setGpio.symm.trans (h.gpio e he)⟩
    · exact h.only _ ((staticDeviceResult_of_allSucceed hok).mpr hg)
    · exact (staticDeviceResult_of_allSucceed hok).mp (h.conversely hm _ hok)
  · rintro ⟨h, hgpio⟩
    constructor
    · intro answer hret
      exact h.mp (staticDeviceResult_eq_zero hret)
    · intro hm answer hans
      exact (staticDeviceResult_of_allSucceed hans).mpr (h.mpr hm)
    · intro e he
      exact completes_setGpio.trans (hgpio e he)

/-- For every scan of every configuration: a missing mandatory device, and nothing else, keeps the
guest from being configured exactly when the condition holds. -/
theorem static_device_gates_start_iff (sys : ScanSys) (sdevc : StaticDevices) (staleIsValid : ℤ) :
    GatesStart staleIsValid (devcEarlyDeviceSetup sys sdevc) ↔
      GateCondition staleIsValid (devcEarlyDeviceSetup sys sdevc) := by
  generalize devcEarlyDeviceSetup sys sdevc = devc
  rw [gatesStart_iff_goesOn, mandatoryAvailable_iff, GoesOn]
  have hgpio : (∀ e ∈ devc.staticGpiolist, staleIsValid ≠ 0 ↔ e.isValid) →
      ((∀ e ∈ devc.staticGpiolist, staleIsValid ≠ 0) ↔ ∀ e ∈ devc.staticGpiolist, e.isValid) :=
    fun h => forall₂_congr h
  constructor
  · rintro ⟨h, hg⟩
    refine ⟨hg, fun hd hv => ?_, fun hd hv => ?_⟩
    · rintro ⟨e, he, hm⟩
      by_contra hnone
      have hmissing := (h.mp ⟨hd, (hgpio hg).mpr hv, by simpa using hnone⟩).2.2
      exact hmissing e he (StaticIioElem.masked_iff.mp hm).1
    · rintro ⟨e, he, hu⟩
      by_contra hnone
      have hrefused := (h.mpr ⟨hd, hv, by simpa using hnone⟩).2.2
      exact hrefused e he (StaticIioElem.unclear_iff.mp hu).1
  · intro h
    refine ⟨⟨?_, ?_⟩, h.gpio⟩
    · rintro ⟨hd, hs, hi⟩
      have hv := (hgpio h.gpio).mp hs
      refine ⟨hd, hv, fun e he hm => ?_⟩
      obtain ⟨e', he', hr⟩ := h.masked hd hv ⟨e, he, StaticIioElem.masked_iff.mpr ⟨hm, hi e he⟩⟩
      exact hi e' he' hr
    · rintro ⟨hd, hv, hi⟩
      refine ⟨hd, (hgpio h.gpio).mpr hv, fun e he hr => ?_⟩
      obtain ⟨e', he', hm⟩ := h.unclear hd hv ⟨e, he, StaticIioElem.unclear_iff.mpr ⟨hr, hi e he⟩⟩
      exact hi e' he' hm

end Gate

/-! ### A missing gpio -/

/-- A guest with one gpio. -/
def gpioDevices : StaticDevices where
  staticGpiolist := [{
    port := 12
    portdirection := 2
    mountFrom := .ofString "/sys/class/gpio/gpio12"
    mountTo := .ofString "sys/devices/gpio12" }]

/-- The port is not exported, and it is not there after the export. -/
def scanNoGpio : ScanSys where
  devnode _ := none
  gpio _ := ⟨-1, 0, -1, 0⟩
  iio _ := ⟨-1, none⟩

/-- The guest is configured without its gpio when the upper half of an address is read for its
validity. -/
theorem gpio_missing_configured :
    (∀ e ∈ (devcEarlyDeviceSetup scanNoGpio gpioDevices).staticGpiolist, e.isValid = false) ∧
      staticDeviceResult 0x5555 (devcEarlyDeviceSetup scanNoGpio gpioDevices)
        (fun _ => ⟨1, true⟩) = 0 ∧
      ¬ GatesStart 0x5555 (devcEarlyDeviceSetup scanNoGpio gpioDevices) := by
  have hinvalid : ∀ e ∈ (devcEarlyDeviceSetup scanNoGpio gpioDevices).staticGpiolist,
      e.isValid = false := by decide
  refine ⟨hinvalid, ?_, fun h => ?_⟩
  · apply (staticDeviceResult_of_allSucceed fun _ => ⟨rfl, .inl rfl⟩).mpr
    exact ⟨by decide, by decide, fun e he => nomatch he⟩
  · have hgpio := h.gpio _ (List.mem_singleton.mpr rfl)
    rw [completes_setGpio] at hgpio
    simpa using (hgpio.mp (by decide)).symm.trans (hinvalid _ (List.mem_singleton.mpr rfl))

end ContainerManager

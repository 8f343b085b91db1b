import ContainerManager.Properties.CompleteConfig

/-!
# Independent entries of the base section

Whether the extra disks of a base section leave the rest of it alone. The result of the extra disk
parser says that something was added, but the base parser takes it for an error and ends.
-/

namespace ContainerManager

/-- The two objects differ at most in the values of this name. -/
def SameBut (name : String) (base base' : CJson) : Prop :=
  ∀ name' ≠ name, base.getObjectItemCaseSensitive name' = base'.getObjectItemCaseSensitive name'

instance : DecidablePred ExtradiskComplete := fun disk =>
  decidable_of_iff _ (parseExtradiskEntry_isSome disk)

/-- The complete entries of the extra disks, in the order of the document. -/
def completeDisks (base : CJson) : List CJson :=
  ((base.getArray "extradisk").getD []).filter fun disk => ExtradiskComplete disk

/-- The extra disks of the config are the complete entries. -/
def DisksListed (base : CJson) : Prop :=
  (cmparserParseBase {} base).1.extradiskList.map some =
    (completeDisks base).map parseExtradiskEntry

/-- The configs of the two objects agree on everything but the extra disks, and these are the
complete entries of each. -/
structure EntriesIndependent (base base' : CJson) : Prop where
  agree : { (cmparserParseBase {} base).1 with extradiskList := [] } =
    { (cmparserParseBase {} base').1 with extradiskList := [] }
  listed : DisksListed base
  listed' : DisksListed base'

/-- There is an array of extra disks, and none of its entries is complete. -/
def DisksDropped (base : CJson) : Prop :=
  ∃ disks, base.getArray "extradisk" = some disks ∧ ∀ disk ∈ disks, ¬ ExtradiskComplete disk

/-! ### The parts of the section -/

/-- What is set before the root file system. -/
def beforeRootfs (base : CJson) : BaseConfig where
  autoboot := CJson.isTrue (base.getObjectItemCaseSensitive "autoboot")
  bootpriority := (base.getNumber "bootpriority").getD 1000

/-- What is set before the extra disks. -/
def beforeDisks (base : CJson) : BaseConfig := (parseBaseRootfs (beforeRootfs base) base).1

/-- What is set when the parser goes on behind the extra disks. -/
def behindDisks (base : CJson) : BaseConfig :=
  parseBaseRest (cmparserParseBaseExtended (beforeDisks base) (base.getObject "extended")).1 base

/-- The extra disks that are added. -/
def addedDisks (base : CJson) : List ExtraDisk :=
  ((base.getArray "extradisk").getD []).filterMap parseExtradiskEntry

section Parts

variable {base base' : CJson}

lemma beforeDisks_extradiskList (base : CJson) : (beforeDisks base).extradiskList = [] := by
  simp only [beforeDisks, parseBaseRootfs]
  split <;> rfl

lemma parseBaseExtradisk_eq (bc : BaseConfig) (base : CJson) :
    (parseBaseExtradisk bc base).1 =
      { bc with extradiskList := bc.extradiskList ++ addedDisks base } := by
  simp only [parseBaseExtradisk, addedDisks]
  cases base.getArray "extradisk" with
  | none => simp
  | some disks => rfl

lemma parseBaseExtradisk_eq_zero_iff (bc : BaseConfig) (base : CJson) :
    (parseBaseExtradisk bc base).2 = 0 ↔ ¬ DisksDropped base := by
  rw [parseBaseExtradisk_eq_zero, DisksDropped]
  push Not
  rfl

/-- A section whose disks are all dropped is not parsed behind them. -/
lemma cmparserParseBase_of_dropped (hr : RootfsGiven base) (hd : DisksDropped base) :
    (cmparserParseBase {} base).1 =
      { beforeDisks base with extradiskList := addedDisks base } := by
  have hbefore := beforeDisks_extradiskList base
  have hroot := (parseBaseRootfs_eq_zero (beforeRootfs base) base).mpr hr
  rw [cmparserParseBase]
  show (parseThen (parseBaseRootfs (beforeRootfs base) base) _).1 = _
  rw [parseThen_of_eq_zero hroot,
    parseThen_of_ne_zero fun h0 => (parseBaseExtradisk_eq_zero_iff _ base).mp h0 hd,
    parseBaseExtradisk_eq, ← beforeDisks, hbefore, List.nil_append]

/-- Any other section is parsed to its end. -/
lemma cmparserParseBase_of_not_dropped (hr : RootfsGiven base) (hd : ¬ DisksDropped base) :
    (cmparserParseBase {} base).1 =
      { behindDisks base with extradiskList := addedDisks base } := by
  have hbefore := beforeDisks_extradiskList base
  have hroot := (parseBaseRootfs_eq_zero (beforeRootfs base) base).mpr hr
  rw [cmparserParseBase]
  show (parseThen (parseBaseRootfs (beforeRootfs base) base) _).1 = _
  rw [parseThen_of_eq_zero hroot,
    parseThen_of_eq_zero ((parseBaseExtradisk_eq_zero_iff _ base).mpr hd),
    parseThen_of_eq_zero rfl, parseBaseExtradisk_eq, ← beforeDisks, hbefore, List.nil_append]
  rfl

lemma beforeDisks_congr (h : SameBut "extradisk" base base') :
    beforeDisks base = beforeDisks base' := by
  simp only [beforeDisks, beforeRootfs, parseBaseRootfs, CJson.getNumber, CJson.getValue,
    CJson.getObject, h "autoboot" (by decide), h "bootpriority" (by decide),
    h "rootfs" (by decide)]

lemma behindDisks_congr (h : SameBut "extradisk" base base') :
    behindDisks base = behindDisks base' := by
  simp only [behindDisks, parseBaseRest, CJson.getArray, CJson.getObject, beforeDisks_congr h,
    h "extended" (by decide), h "lifecycle" (by decide), h "cap" (by decide), h "tty" (by decide),
    h "idmap" (by decide), h "environment" (by decide)]

lemma beforeDisks_halt (base : CJson) : (beforeDisks base).lifecycle.halt = none := by
  rw [beforeDisks, parseBaseRootfs_lifecycle, beforeRootfs]

lemma behindDisks_halt (base : CJson) : (behindDisks base).lifecycle.halt ≠ none := by
  simp [behindDisks, parseBaseRest]

lemma disksListed (hr : RootfsGiven base) : DisksListed base := by
  have hlist : (cmparserParseBase {} base).1.extradiskList = addedDisks base := by
    by_cases hd : DisksDropped base
    · rw [cmparserParseBase_of_dropped hr hd]
    · rw [cmparserParseBase_of_not_dropped hr hd]
  rw [DisksListed, hlist, completeDisks, addedDisks,
    List.map_filterMap_some_eq_filter_map_isSome, List.filter_map]
  simp only [← parseExtradiskEntry_isSome, Function.comp_def, Bool.decide_eq_true]

end Parts

/-- Two base sections that differ in their extra disks agree on everything else exactly when both or
neither of them have an array without a complete entry. -/
theorem entries_independent_iff {base base' : CJson} (h : SameBut "extradisk" base base')
    (hr : RootfsGiven base) (hr' : RootfsGiven base') :
    EntriesIndependent base base' ↔ (DisksDropped base ↔ DisksDropped base') := by
  have hhalt : ∀ l l', ({ beforeDisks base with extradiskList := l } : BaseConfig) ≠
      { behindDisks base with extradiskList := l' } := by
    intro l l' e
    have ehalt := congrArg (fun bc : BaseConfig => bc.lifecycle.halt) e
    exact behindDisks_halt base (ehalt.symm.trans (beforeDisks_halt base))
  constructor
  · intro hi
    have hagree := hi.agree
    by_cases hd : DisksDropped base
    · refine ⟨fun _ => ?_, fun _ => hd⟩
      by_contra hd'
      rw [cmparserParseBase_of_dropped hr hd, cmparserParseBase_of_not_dropped hr' hd',
        ← behindDisks_congr h] at hagree
      exact hhalt [] [] hagree
    · refine ⟨fun hd' => absurd hd' hd, fun hd' => ?_⟩
      rw [cmparserParseBase_of_not_dropped hr hd, cmparserParseBase_of_dropped hr' hd',
        ← beforeDisks_congr h] at hagree
      exact absurd hagree.symm (hhalt [] [])
  · intro hdd
    refine ⟨?_, disksListed hr, disksListed hr'⟩
    by_cases hd : DisksDropped base
    · rw [cmparserParseBase_of_dropped hr hd, cmparserParseBase_of_dropped hr' (hdd.mp hd),
        beforeDisks_congr h]
    · rw [cmparserParseBase_of_not_dropped hr hd,
        cmparserParseBase_of_not_dropped hr' fun hd' => hd (hdd.mpr hd'), behindDisks_congr h]

/-! ### A section without disks, with disks, and with an empty array -/

/-- A base section with a root file system, and with these extra disks. -/
def diskSection (disks : Option (List CJson)) : CJson :=
  .object (("rootfs", .object [("path", .string "/rootfs"),
      ("hostpath", .array [.string "/opt/root"])]) ::
    (disks.map fun disks => ("extradisk", CJson.array disks)).toList)

lemma diskSection_sameBut (disks disks' : Option (List CJson)) :
    SameBut "extradisk" (diskSection disks) (diskSection disks') := by
  intro name hname
  have hne : ¬ "extradisk" = name := fun e => hname e.symm
  cases disks <;> cases disks' <;>
    simp [diskSection, CJson.getObjectItemCaseSensitive, List.find?_cons, hne]

lemma diskSection_rootfsGiven (disks : Option (List CJson)) : RootfsGiven (diskSection disks) :=
  ⟨_, rfl, rfl, .inr ⟨rfl, _, rfl, rfl⟩⟩

/-- An entry with the mandatory values. -/
def diskEntry : CJson :=
  .object [("from", .string "/disk"), ("to", .string "data"),
    ("blockdev", .array [.string "/dev/mmcblk1p7"])]

theorem entries_independent_disk :
    EntriesIndependent (diskSection none) (diskSection (some [.null, diskEntry])) := by
  refine (entries_independent_iff (diskSection_sameBut _ _) (diskSection_rootfsGiven _)
    (diskSection_rootfsGiven _)).mpr ?_
  constructor
  · rintro ⟨disks, hdisks, -⟩
    cases hdisks
  · rintro ⟨disks, hdisks, hnone⟩
    cases hdisks
    exact absurd (⟨rfl, rfl, _, rfl, rfl⟩ : ExtradiskComplete diskEntry) (hnone _ (by simp))

/-- With an empty array of extra disks the guest has no halt signal. -/
theorem empty_disks_change_lifecycle :
    (cmparserParseBase {} (diskSection none)).1.lifecycle.halt = some "SIGTERM" ∧
      (cmparserParseBase {} (diskSection (some []))).1.lifecycle.halt = none ∧
      ¬ EntriesIndependent (diskSection none) (diskSection (some [])) := by
  refine ⟨rfl, rfl, fun h => ?_⟩
  have hhalt := congrArg (fun bc : BaseConfig => bc.lifecycle.halt) h.agree
  exact absurd hhalt (by decide)

end ContainerManager

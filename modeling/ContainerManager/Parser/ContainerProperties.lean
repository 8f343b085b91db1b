import ContainerManager.Control.StartProperties
import ContainerManager.Parser.Container

/-!
# What the container config parser accepts

The base section is parsed to its end exactly when its mandatory values are there. The config is
accepted in both cases; in the other case it keeps what was set before.
-/

namespace ContainerManager

/-- The root file system section has its mandatory values. -/
def RootfsComplete (rootfs : CJson) : Prop :=
  (rootfs.getString "path").isSome ∧
    ((∃ devs, rootfs.getArray "blockdev" = some devs ∧ (rootfs.getString "filesystem").isSome ∧
        (CJson.string? devs[0]?).isSome) ∨
      rootfs.getArray "blockdev" = none ∧
        ∃ devs, rootfs.getArray "hostpath" = some devs ∧ (CJson.string? devs[0]?).isSome)

/-- The entry of an extra disk has its mandatory values. -/
def ExtradiskComplete (disk : CJson) : Prop :=
  (disk.getString "from").isSome ∧ (disk.getString "to").isSome ∧
    ∃ devs, disk.getArray "blockdev" = some devs ∧ (CJson.string? devs[0]?).isSome

/-- The sections that can fail do not end the parser: the root file system is complete, and a list
of extra disks has a complete entry. -/
structure BaseComplete (base : CJson) : Prop where
  rootfs : ∃ rootfs, base.getObject "rootfs" = some rootfs ∧ RootfsComplete rootfs
  extradisk : ∀ disks, base.getArray "extradisk" = some disks →
    ∃ disk ∈ disks, ExtradiskComplete disk

/-! ### Sections -/

lemma parseThen_eq_zero (r : BaseConfig × ℤ) (next : BaseConfig → BaseConfig × ℤ) :
    (parseThen r next).2 = 0 ↔ r.2 = 0 ∧ (next r.1).2 = 0 := by
  simp only [parseThen]
  split_ifs with h
  · exact ⟨fun h0 => absurd h0 h, fun h0 => h0.1⟩
  · exact ⟨fun h0 => ⟨not_not.mp h, h0⟩, fun h0 => h0.2⟩

/-- What every section keeps, the parser keeps. -/
lemma parseThen_invariant {P : BaseConfig → Prop} {r : BaseConfig × ℤ}
    {next : BaseConfig → BaseConfig × ℤ} (hr : P r.1) (hnext : ∀ bc, P bc → P (next bc).1) :
    P (parseThen r next).1 := by
  simp only [parseThen]
  split_ifs
  · exact hr
  · exact hnext _ hr

lemma cmparserParseBaseRootfs_eq_zero (r : RootFs) (rootfs : CJson) :
    (cmparserParseBaseRootfs r rootfs).2 = 0 ↔ RootfsComplete rootfs := by
  simp only [cmparserParseBaseRootfs, RootfsComplete]
  cases hp : rootfs.getString "path" with
  | none => simp
  | some path =>
    cases hb : rootfs.getArray "blockdev" with
    | some devs =>
      cases hf : rootfs.getString "filesystem" with
      | none => simp
      | some fs => cases hd : CJson.string? devs[0]? <;> simp [CJson.firstTwo, hd]
    | none =>
      cases hh : rootfs.getArray "hostpath" with
      | none => simp
      | some devs => cases hd : CJson.string? devs[0]? <;> simp [CJson.firstTwo, hd]

lemma parseExtradiskEntry_isSome (disk : CJson) :
    (parseExtradiskEntry disk).isSome ↔ ExtradiskComplete disk := by
  simp only [parseExtradiskEntry, ExtradiskComplete]
  cases hf : disk.getString "from" with
  | none => simp
  | some mountFrom =>
    cases ht : disk.getString "to" with
    | none => simp
    | some mountTo =>
      cases hb : disk.getArray "blockdev" with
      | none => simp
      | some devs => cases hd : CJson.string? devs[0]? <;> simp [hd]

lemma cmparserParseBaseExtradisk_eq_zero (bc : BaseConfig) (disks : List CJson) :
    (cmparserParseBaseExtradisk bc disks).2 = 0 ↔ ∃ disk ∈ disks, ExtradiskComplete disk := by
  have hempty : disks.filterMap parseExtradiskEntry ≠ [] ↔
      ∃ disk ∈ disks, ExtradiskComplete disk := by
    rw [Ne, List.filterMap_eq_nil_iff]
    push Not
    simp only [← parseExtradiskEntry_isSome, Option.isSome_iff_ne_none]
  rw [← hempty]
  simp only [cmparserParseBaseExtradisk]
  split_ifs with h <;> simp [h]

lemma parseBaseRootfs_eq_zero (bc : BaseConfig) (base : CJson) :
    (parseBaseRootfs bc base).2 = 0 ↔
      ∃ rootfs, base.getObject "rootfs" = some rootfs ∧ RootfsComplete rootfs := by
  simp only [parseBaseRootfs]
  cases base.getObject "rootfs" with
  | none => simp
  | some rootfs => simp [cmparserParseBaseRootfs_eq_zero]

lemma parseBaseExtradisk_eq_zero (bc : BaseConfig) (base : CJson) :
    (parseBaseExtradisk bc base).2 = 0 ↔
      ∀ disks, base.getArray "extradisk" = some disks → ∃ disk ∈ disks, ExtradiskComplete disk := by
  simp only [parseBaseExtradisk]
  cases base.getArray "extradisk" with
  | none => simp
  | some disks => simp [cmparserParseBaseExtradisk_eq_zero]

/-- The base section is parsed to its end exactly when it is complete. -/
lemma cmparserParseBase_eq_zero (bc : BaseConfig) (base : CJson) :
    (cmparserParseBase bc base).2 = 0 ↔ BaseComplete base := by
  simp only [cmparserParseBase]
  rw [parseThen_eq_zero, parseThen_eq_zero, parseThen_eq_zero, parseBaseRootfs_eq_zero,
    parseBaseExtradisk_eq_zero]
  constructor
  · rintro ⟨hr, hd, -⟩
    exact ⟨hr, hd⟩
  · rintro ⟨hr, hd⟩
    exact ⟨hr, hd, rfl, rfl⟩

/-! ### The lifecycle -/

lemma parseBaseRootfs_lifecycle (bc : BaseConfig) (base : CJson) :
    (parseBaseRootfs bc base).1.lifecycle = bc.lifecycle := by
  simp only [parseBaseRootfs]
  split <;> rfl

lemma parseBaseExtradisk_lifecycle (bc : BaseConfig) (base : CJson) :
    (parseBaseExtradisk bc base).1.lifecycle = bc.lifecycle := by
  simp only [parseBaseExtradisk]
  split <;> rfl

lemma parseBaseRest_timeout (bc : BaseConfig) (base : CJson) :
    (parseBaseRest bc base).lifecycle.timeout =
      match base.getObject "lifecycle" with
      | some lifecycle =>
        ((lifecycle.getNumber "timeout").filter fun timeout => 0 < timeout).getD 10000
      | none => bc.lifecycle.timeout := by
  simp only [parseBaseRest, parseLifecycle]
  cases base.getObject "lifecycle" <;> rfl

/-- A base section that is not parsed to its end leaves the lifecycle as it was, and so does one
whose lifecycle is not an object. -/
lemma cmparserParseBase_timeout (bc : BaseConfig) (base : CJson) :
    (cmparserParseBase bc base).1.lifecycle.timeout =
      if (cmparserParseBase bc base).2 = 0 then
        match base.getObject "lifecycle" with
        | some lifecycle =>
          ((lifecycle.getNumber "timeout").filter fun timeout => 0 < timeout).getD 10000
        | none => bc.lifecycle.timeout
      else bc.lifecycle.timeout := by
  simp only [cmparserParseBase, parseThen]
  split_ifs with hr hd he
  all_goals
    simp_all [parseBaseRootfs_lifecycle, parseBaseExtradisk_lifecycle, parseBaseRest_timeout,
      cmparserParseBaseExtended]

/-! ### The disks -/

lemma cmparserParseBaseRootfs_isMounted (r : RootFs) (rootfs : CJson) :
    (cmparserParseBaseRootfs r rootfs).1.isMounted = r.isMounted := by
  rw [cmparserParseBaseRootfs, rootfsErrRet]
  split
  · rfl
  · dsimp only
    split
    · split_ifs <;> rfl
    · split
      · split_ifs <;> rfl
      · rfl

lemma cmparserParseBaseExtradisk_unmounted {bc : BaseConfig} (h : bc.Unmounted)
    (disks : List CJson) : (cmparserParseBaseExtradisk bc disks).1.Unmounted := by
  refine ⟨h.rootfs, fun d hd => ?_⟩
  rcases List.mem_append.mp hd with hd | hd
  · exact h.extradisk d hd
  · obtain ⟨disk, -, e⟩ := List.mem_filterMap.mp hd
    simp only [parseExtradiskEntry] at e
    split at e
    · obtain rfl := Option.some.inj e
      rfl
    · simp at e

/-- The parser mounts nothing. -/
lemma cmparserParseBase_unmounted {bc : BaseConfig} (h : bc.Unmounted) (base : CJson) :
    (cmparserParseBase bc base).1.Unmounted := by
  refine parseThen_invariant ?_ fun bc h => parseThen_invariant ?_ fun bc h =>
    parseThen_invariant ?_ fun bc h => ?_
  · simp only [parseBaseRootfs]
    split
    · exact ⟨h.rootfs, h.extradisk⟩
    · exact ⟨(cmparserParseBaseRootfs_isMounted _ _).trans h.rootfs, h.extradisk⟩
  · simp only [parseBaseExtradisk]
    split
    · exact cmparserParseBaseExtradisk_unmounted h _
    · exact h
  · exact ⟨h.rootfs, h.extradisk⟩
  · exact ⟨h.rootfs, h.extradisk⟩

/-! ### The config -/

/-- An accepted config has the base section as it was parsed. -/
lemma cmparserCreateFromFile_base {json : CJson} {cc : ContainerConfig}
    (h : cmparserCreateFromFile json = (some cc, 0)) :
    ∃ base, json.getObject "base" = some base ∧
      cc.baseconfig = (cmparserParseBase {} base).1 ∧ cc.runtimeStat = {} ∧ cc.history = [] := by
  rw [cmparserCreateFromFile] at h
  split at h
  · simp at h
  · dsimp only at h
    split at h
    · simp at h
    · rename_i base hb
      split at h
      · simp at h
      · split_ifs at h
        · simp at h
        · obtain rfl := Option.some.inj (Prod.mk.inj h).1
          exact ⟨base, hb, rfl, rfl, rfl⟩

/-- An accepted config has the fs section as it was parsed. -/
lemma cmparserCreateFromFile_fs {json : CJson} {cc : ContainerConfig}
    (h : cmparserCreateFromFile json = (some cc, 0)) :
    ∃ fs, json.getObject "fs" = some fs ∧ cc.fsconfig = (cmparserParseFs {} fs).1 := by
  rw [cmparserCreateFromFile] at h
  split at h
  · simp at h
  · dsimp only at h
    split at h
    · simp at h
    · split at h
      · simp at h
      · rename_i fs hfs
        split_ifs at h
        · simp at h
        · obtain rfl := Option.some.inj (Prod.mk.inj h).1
          exact ⟨fs, hfs, rfl⟩

end ContainerManager

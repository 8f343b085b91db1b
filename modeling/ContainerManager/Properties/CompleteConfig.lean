import ContainerManager.Parser.ContainerProperties

/-!
# Complete configs

When an accepted config has the values that the launch of its guest relies on. The result of the
base section is not looked at, so a config whose base section could not be parsed is accepted with
what was set before.
-/

namespace ContainerManager

/-! ### Documents and configs -/

/-- The parser insists on these sections. -/
structure SectionsPresent (json : CJson) : Prop where
  name : (json.getString "name").isSome
  base : (json.getObject "base").isSome
  fs : (json.getObject "fs").isSome
  device : (json.getObject "device").isSome

/-- The base section has the values that `cmparser_parse_base_rootfs` treats as mandatory. -/
def RootfsGiven (base : CJson) : Prop :=
  ∃ rootfs, base.getObject "rootfs" = some rootfs ∧ RootfsComplete rootfs

/-- The disk has the values of an entry of the base section. -/
def ReadExtradisk (base : CJson) (d : ExtraDisk) : Prop :=
  ∃ disks, base.getArray "extradisk" = some disks ∧ ∃ disk ∈ disks,
    disk.getString "from" = some d.mountFrom ∧ disk.getString "to" = some d.mountTo ∧
      ∃ devs, disk.getArray "blockdev" = some devs ∧ CJson.string? devs[0]? = some d.blockdev.1

/-- Every disk of the base config was read from a complete entry of the section. -/
def BaseConfig.DisksRead (base : CJson) (bc : BaseConfig) : Prop :=
  ∀ d ∈ bc.extradiskList, ReadExtradisk base d

/-- The base config has the values that the launch relies on. -/
structure BaseConfig.Complete (bc : BaseConfig) : Prop where
  path : bc.rootfs.path ≠ none
  rootfsDev : bc.rootfs.rootfsDev.1 ≠ none
  filesystem : bc.rootfs.deviceType = .block → bc.rootfs.filesystem ≠ none
  halt : bc.lifecycle.halt ≠ none
  reboot : bc.lifecycle.reboot ≠ none
  ttyMax : 1 ≤ bc.tty.ttyMax
  ptyMax : 1 ≤ bc.tty.ptyMax

/-- The config is complete. Its name, its role and the values of its disks, which its type leaves no
way to omit, are those of the document. -/
structure CompleteConfig (json : CJson) (cc : ContainerConfig) : Prop where
  name : json.getString "name" = some cc.name
  role : cc.role = (json.getString "role").getD cc.name
  base : cc.baseconfig.Complete
  extradisk : ∃ base, json.getObject "base" = some base ∧ cc.baseconfig.DisksRead base

/-- An accepted config is complete, and a document without the mandatory values of the root file
system is rejected. -/
structure ParsesComplete (json : CJson) : Prop where
  complete : ∀ cc, cmparserCreateFromFile json = (some cc, 0) → CompleteConfig json cc
  rejected : (∀ base, json.getObject "base" = some base → ¬ RootfsGiven base) →
    (cmparserCreateFromFile json).2 < 0

/-! ### The base section -/

section Base

variable {bc : BaseConfig} {base : CJson}

lemma parseThen_of_eq_zero {r : BaseConfig × ℤ} {next : BaseConfig → BaseConfig × ℤ} (h : r.2 = 0) :
    parseThen r next = next r.1 := by simp [parseThen, h]

lemma parseThen_of_ne_zero {r : BaseConfig × ℤ} {next : BaseConfig → BaseConfig × ℤ} (h : r.2 ≠ 0) :
    parseThen r next = r := by simp [parseThen, h]

/-- A root file system that was parsed has its mandatory values. -/
lemma cmparserParseBaseRootfs_complete {r : RootFs} {rootfs : CJson}
    (h : (cmparserParseBaseRootfs r rootfs).2 = 0) :
    let r' := (cmparserParseBaseRootfs r rootfs).1
    r'.path ≠ none ∧ r'.rootfsDev.1 ≠ none ∧
      (r'.deviceType = .block → r'.filesystem ≠ none) := by
  unfold cmparserParseBaseRootfs at h ⊢
  split at h
  · simp at h
  · dsimp only at h ⊢
    split at h
    · split_ifs at h ⊢ with hf hd
      · simp at h
      · simp at h
      · exact ⟨by simp, by simpa using hd, fun _ => by simpa using hf⟩
    · split at h
      · split_ifs at h ⊢ with hd
        · simp at h
        · exact ⟨by simp, by simpa using hd, fun e => nomatch e⟩
      · simp at h

/-- The error exit leaves no path. -/
lemma cmparserParseBaseRootfs_failed {r : RootFs} {rootfs : CJson}
    (h : (cmparserParseBaseRootfs r rootfs).2 ≠ 0) :
    (cmparserParseBaseRootfs r rootfs).1.path = none := by
  unfold cmparserParseBaseRootfs at h ⊢
  split at h
  · rfl
  · dsimp only at h ⊢
    split at h
    · split_ifs at h ⊢
      · rfl
      · rfl
      · simp at h
    · split at h
      · split_ifs at h ⊢
        · rfl
        · simp at h
      · rfl

lemma parseBaseRootfs_failed (h : (parseBaseRootfs bc base).2 ≠ 0) (hbc : bc.rootfs.path = none) :
    (parseBaseRootfs bc base).1.rootfs.path = none := by
  simp only [parseBaseRootfs] at h ⊢
  split at h
  · exact hbc
  · exact cmparserParseBaseRootfs_failed h

lemma parseBaseExtradisk_rootfs (bc : BaseConfig) (base : CJson) :
    (parseBaseExtradisk bc base).1.rootfs = bc.rootfs := by
  simp only [parseBaseExtradisk]
  split <;> rfl

lemma getD_filter_pos (k : Option ℤ) : 1 ≤ ((k.filter fun k => 0 < k).getD 1) := by
  cases k with
  | none => simp
  | some k => by_cases hk : 0 < k <;> simp [Option.filter, hk]; omega

/-- The rest of the section sets what it is responsible for. -/
lemma parseBaseRest_complete {r : RootFs} {rootfs : CJson}
    (h : (cmparserParseBaseRootfs r rootfs).2 = 0)
    (hbc : bc.rootfs = (cmparserParseBaseRootfs r rootfs).1) :
    (parseBaseRest bc base).Complete := by
  obtain ⟨hpath, hdev, hfs⟩ := cmparserParseBaseRootfs_complete h
  rw [← hbc] at hpath hdev hfs
  have hor : ∀ signal : Option String, signal.or (some "SIGTERM") ≠ none := by simp
  exact ⟨hpath, hdev, hfs, hor _, hor _, getD_filter_pos _, getD_filter_pos _⟩

/-- The base config is complete exactly when the section is. -/
lemma cmparserParseBase_complete (base : CJson) :
    (cmparserParseBase {} base).1.Complete ↔ BaseComplete base := by
  rw [← cmparserParseBase_eq_zero {} base]
  simp only [cmparserParseBase]
  generalize hbc : ({ autoboot := _, bootpriority := _ } : BaseConfig) = bc
  have hlife : bc.lifecycle.halt = none := by rw [← hbc]
  have hpath : bc.rootfs.path = none := by rw [← hbc]
  by_cases hr : (parseBaseRootfs bc base).2 = 0
  · rw [parseThen_of_eq_zero hr]
    by_cases he : (parseBaseExtradisk (parseBaseRootfs bc base).1 base).2 = 0
    · rw [parseThen_of_eq_zero he, parseThen_of_eq_zero rfl]
      refine ⟨fun _ => rfl, ?_⟩
      intro _
      obtain ⟨rootfs, hobj, -⟩ := (parseBaseRootfs_eq_zero bc base).mp hr
      have hrootfs : parseBaseRootfs bc base =
          ({ bc with rootfs := (cmparserParseBaseRootfs bc.rootfs rootfs).1 },
            (cmparserParseBaseRootfs bc.rootfs rootfs).2) := by
        simp only [parseBaseRootfs]
        rw [hobj]
      rw [hrootfs] at hr
      apply parseBaseRest_complete hr
      rw [hrootfs]
      exact parseBaseExtradisk_rootfs _ _
    · -- the lifecycle was not reached
      rw [parseThen_of_ne_zero he]
      refine ⟨fun h => absurd ?_ h.halt, fun h => absurd h he⟩
      rw [parseBaseExtradisk_lifecycle, parseBaseRootfs_lifecycle]
      exact hlife
  · rw [parseThen_of_ne_zero hr]
    exact ⟨fun h => absurd (parseBaseRootfs_failed hr hpath) h.path, fun h => absurd h hr⟩

lemma cmparserParseBaseExtradisk_read {disks : List CJson}
    (hdisks : base.getArray "extradisk" = some disks)
    (h : bc.DisksRead base) : (cmparserParseBaseExtradisk bc disks).1.DisksRead base := by
  intro d hd
  rcases List.mem_append.mp hd with hd | hd
  · exact h d hd
  · obtain ⟨disk, hdisk, e⟩ := List.mem_filterMap.mp hd
    simp only [parseExtradiskEntry] at e
    split at e
    · rename_i mountFrom mountTo bdev hfrom hto hbdev
      obtain rfl := Option.some.inj e
      obtain ⟨devs, hdevs, hdev⟩ := Option.bind_eq_some_iff.mp hbdev
      exact ⟨disks, hdisks, disk, hdisk, hfrom, hto, devs, hdevs, hdev⟩
    · simp at e

lemma cmparserParseBase_disksRead (base : CJson) :
    (cmparserParseBase {} base).1.DisksRead base := by
  refine parseThen_invariant ?_ fun bc h => parseThen_invariant ?_ fun bc h =>
    parseThen_invariant ?_ fun bc h => ?_
  · simp only [parseBaseRootfs]
    split <;> simp [BaseConfig.DisksRead]
  · simp only [parseBaseExtradisk]
    split
    · rename_i disks hdisks
      exact cmparserParseBaseExtradisk_read hdisks h
    · exact h
  · exact h
  · exact h

end Base

/-! ### Whole documents -/

/-- The parser accepts a document with the sections it insists on, whatever its base section
holds. -/
lemma cmparserCreateFromFile_accepted {json : CJson} (h : SectionsPresent json) :
    ∃ cc, cmparserCreateFromFile json = (some cc, 0) := by
  obtain ⟨name, hname⟩ := Option.isSome_iff_exists.mp h.name
  obtain ⟨base, hbase⟩ := Option.isSome_iff_exists.mp h.base
  obtain ⟨fs, hfs⟩ := Option.isSome_iff_exists.mp h.fs
  obtain ⟨device, hdevice⟩ := Option.isSome_iff_exists.mp h.device
  exact ⟨_, by simp [cmparserCreateFromFile, hname, hbase, hfs, hdevice]; rfl⟩

lemma cmparserCreateFromFile_rejected {json : CJson} (h : ¬ SectionsPresent json) :
    cmparserCreateFromFile json = (none, -2) := by
  rw [cmparserCreateFromFile]
  split
  · rfl
  · rename_i name hname
    dsimp only
    split
    · rfl
    · rename_i base hbase
      split
      · rfl
      · rename_i fs hfs
        rw [if_pos]
        by_contra hdevice
        refine h ⟨by simp [hname], by simp [hbase], by simp [hfs], ?_⟩
        simpa [Option.isNone_iff_eq_none, Option.isSome_iff_ne_none] using hdevice

lemma cmparserCreateFromFile_names {json : CJson} {cc : ContainerConfig}
    (h : cmparserCreateFromFile json = (some cc, 0)) :
    json.getString "name" = some cc.name ∧ cc.role = (json.getString "role").getD cc.name := by
  rw [cmparserCreateFromFile] at h
  split at h
  · simp at h
  · rename_i name hname
    dsimp only at h
    split at h
    · simp at h
    · split at h
      · simp at h
      · split_ifs at h
        · simp at h
        · obtain rfl := Option.some.inj (Prod.mk.inj h).1
          exact ⟨hname, rfl⟩

/-- Documents are parsed completely or rejected exactly when the base section of an accepted one is
complete. -/
theorem parses_complete_iff (json : CJson) :
    ParsesComplete json ↔
      (SectionsPresent json → ∀ base, json.getObject "base" = some base → BaseComplete base) := by
  constructor
  · intro h hs base hbase
    obtain ⟨cc, hcc⟩ := cmparserCreateFromFile_accepted hs
    obtain ⟨base', hbase', hbc, -, -⟩ := cmparserCreateFromFile_base hcc
    obtain rfl := Option.some.inj (hbase.symm.trans hbase')
    exact (cmparserParseBase_complete base).mp (hbc ▸ (h.complete cc hcc).base)
  · intro h
    by_cases hs : SectionsPresent json
    · have hbase := h hs
      constructor
      · intro cc hcc
        obtain ⟨base, hb, hbc, -, -⟩ := cmparserCreateFromFile_base hcc
        obtain ⟨hname, hrole⟩ := cmparserCreateFromFile_names hcc
        refine ⟨hname, hrole, ?_, base, hb, ?_⟩
        · rw [hbc]
          exact (cmparserParseBase_complete base).mpr (hbase base hb)
        · rw [hbc]
          exact cmparserParseBase_disksRead base
      · intro hmissing
        obtain ⟨base, hb⟩ := Option.isSome_iff_exists.mp hs.base
        exact absurd (hbase base hb).rootfs (hmissing base hb)
    · have hrejected := cmparserCreateFromFile_rejected hs
      refine ⟨?_, fun _ => by simp [hrejected]⟩
      intro cc hcc
      simp [hrejected] at hcc

/-- A root file system without a path. -/
def pathlessJson : CJson :=
  .object [
    ("name", .string "cluster"),
    ("base", .object [
      ("rootfs", .object [
        ("filesystem", .string "ext4"),
        ("blockdev", .array [.string "/dev/mmcblk1p5"])])]),
    ("fs", .object []),
    ("device", .object [])]

/-- It is accepted, and the config has no path. -/
theorem pathless_accepted :
    (∃ cc, cmparserCreateFromFile pathlessJson = (some cc, 0) ∧
      cc.baseconfig.rootfs.path = none) ∧ ¬ ParsesComplete pathlessJson :=
  ⟨⟨_, rfl, rfl⟩, fun h => absurd rfl (h.complete _ rfl).base.path⟩

end ContainerManager

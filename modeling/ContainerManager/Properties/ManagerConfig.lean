import ContainerManager.Parser.Manager
import ContainerManager.System

/-!
# The manager config

Whether the manager config is accepted. The result of the parser of the mounts says that something
was added, but the config parser takes it for an error.
-/

namespace ContainerManager

/-- The entry has its mandatory values. -/
def MountComplete (elem : CJson) : Prop :=
  (elem.getString "type").isSome ∧ (elem.getString "to").isSome ∧
    (elem.getString "filesystem").isSome ∧
    ∃ devs, elem.getArray "blockdev" = some devs ∧ (CJson.string? devs[0]?).isSome

/-- The element was read from this entry. -/
structure MountRead (elem : CJson) (e : MountElem) : Prop where
  type : (elem.getString "type").map cmparserManagerParserGetFstype = some e.type
  mountTo : elem.getString "to" = some e.mountTo
  filesystem : elem.getString "filesystem" = some e.filesystem
  mode : e.mode =
    ((elem.getString "mode").map cmparserManagerParserGetDiskmountmode).getD .ro
  option : e.option = elem.getString "option"
  redundancy : e.redundancy =
    ((elem.getString "redundancy").map cmparserManagerParserGetDiskmountfailop).getD .failover
  blockdev : ∃ devs, elem.getArray "blockdev" = some devs ∧
    CJson.string? devs[0]? = some e.blockdev.1 ∧ CJson.string? devs[1]? = e.blockdev.2

/-- The entries of the mounts of the document. -/
def mountEntries (json : CJson) : Option (List CJson) :=
  (json.getObject "operation").bind fun operation => operation.getArray "mount"

lemma parseMountEntry_isSome (index : ℕ) (elem : CJson) :
    (parseMountEntry index elem).isSome ↔ MountComplete elem := by
  simp only [parseMountEntry, MountComplete]
  cases elem.getString "type" with
  | none => simp
  | some type =>
    cases elem.getString "to" with
    | none => simp
    | some mountTo =>
      cases elem.getString "filesystem" with
      | none => simp
      | some filesystem =>
        cases hb : elem.getArray "blockdev" with
        | none => simp
        | some devs => cases hd : CJson.string? devs[0]? <;> simp [hd]

instance : DecidablePred MountComplete := fun elem =>
  decidable_of_iff _ (parseMountEntry_isSome 0 elem)

/-- The mounts are the complete entries, in the order of the document, numbered from 0. -/
structure MountsListed (entries : List CJson) (cmo : ManagerOperation) : Prop where
  read : List.Forall₂ MountRead (entries.filter fun elem => MountComplete elem) cmo.mountList
  index : cmo.mountList.map MountElem.index = List.range cmo.mountList.length
  fresh : FreshOperation cmo

/-- The document is accepted with its bridges and its mounts. -/
def ManagerConfigAccepted (json : CJson) : Prop :=
  ∃ cm, cmparserManagerCreateFromFile json = (some cm, 0) ∧
    json.getString "configdir" = some cm.configdir ∧
    cm.bridgelist = ((json.getArray "etherbridge").getD []).filterMap
      (fun elem => elem.getString "name") ∧
    MountsListed ((mountEntries json).getD []) cm.operation

/-! ### The loop over the mounts -/

lemma parseMountEntry_read {index : ℕ} {elem : CJson} {e : MountElem}
    (h : parseMountEntry index elem = some e) : MountRead elem e ∧ e.index = index ∧
      ¬ e.isMounted ∧ ¬ e.isDispatched ∧ e.state = .nop := by
  simp only [parseMountEntry] at h
  split at h
  · rename_i type mountTo filesystem bdev htype hto hfs hbdev
    obtain rfl := Option.some.inj h
    obtain ⟨devs, hdevs, hdev⟩ := Option.bind_eq_some_iff.mp hbdev
    refine ⟨⟨by simp [htype], hto, hfs, rfl, rfl, rfl, devs, hdevs, hdev, by simp [hdevs]⟩, rfl, ?_⟩
    exact ⟨by simp, by simp, rfl⟩
  · cases h

/-- What holds of the loop: the list is numbered, its elements are those of the complete entries so
far, and the result says whether there are any. -/
structure MountLoop.Inv (entries : List CJson) (s : MountLoop) : Prop where
  read : List.Forall₂ MountRead (entries.filter fun elem => MountComplete elem) s.mountList
  index : s.mountList.map MountElem.index = List.range s.index
  elems : ∀ e ∈ s.mountList, ¬ e.isMounted ∧ ¬ e.isDispatched ∧ e.state = .nop
  result : s.result = if ∃ elem ∈ entries, MountComplete elem then 0 else -1

lemma MountLoop.Inv.pass {entries : List CJson} {s : MountLoop} (h : s.Inv entries) (elem : CJson) :
    (s.pass elem).Inv (entries ++ [elem]) := by
  have hcomplete := parseMountEntry_isSome s.index elem
  rw [MountLoop.pass]
  cases he : parseMountEntry s.index elem with
  | none =>
    have hnot : ¬ MountComplete elem := by simpa [he] using hcomplete
    refine ⟨?_, h.index, h.elems, ?_⟩
    · simpa [List.filter_append, hnot] using h.read
    · simpa [or_and_right, exists_or, hnot] using h.result
  | some e =>
    obtain ⟨hread, hindex, hfresh⟩ := parseMountEntry_read he
    have hc : MountComplete elem := by simpa [he] using hcomplete
    constructor
    · rw [List.filter_append, List.filter_cons_of_pos (by simpa using hc)]
      exact List.rel_append h.read (.cons hread .nil)
    · simp [h.index, hindex, List.range_succ]
    · intro e' he'
      rcases List.mem_append.mp he' with he' | he'
      · exact h.elems e' he'
      · obtain rfl := List.mem_singleton.mp he'
        exact hfresh
    · rw [if_pos ⟨elem, by simp, hc⟩]

lemma MountLoop.Inv.foldl {entries : List CJson} {s : MountLoop} (h : s.Inv entries)
    (mount : List CJson) : (mount.foldl MountLoop.pass s).Inv (entries ++ mount) := by
  induction mount generalizing entries s with
  | nil => simpa using h
  | cons elem mount ih =>
    rw [List.foldl_cons, ← List.singleton_append, ← List.append_assoc]
    exact ih (h.pass elem)

/-- The parser of the mounts lists the complete entries; its result is 0 when there is one. -/
lemma cmparserManagerParseOperationMount_spec (mount : List CJson) :
    MountsListed mount (cmparserManagerParseOperationMount {} mount).1 ∧
      ((cmparserManagerParseOperationMount {} mount).2 < 0 ↔
        ¬ ∃ elem ∈ mount, MountComplete elem) := by
  have hstart : ({ mountList := [] } : MountLoop).Inv [] :=
    ⟨.nil, rfl, by simp, by simp⟩
  have h := hstart.foldl mount
  rw [List.nil_append] at h
  simp only [cmparserManagerParseOperationMount]
  generalize mount.foldl MountLoop.pass { mountList := [] } = s at h ⊢
  have hlen : s.index = s.mountList.length := by
    simpa using (congrArg List.length h.index).symm
  refine ⟨⟨h.read, hlen ▸ h.index, ⟨?_, h.elems, rfl, rfl⟩⟩, ?_⟩
  · rw [h.index]
    exact List.nodup_range
  · rw [h.result]
    split_ifs with hc <;> simp [hc]

/-! ### The config -/

/-- A document with a config directory is accepted unless it has an array of mounts without a
complete entry. -/
theorem manager_config_accepted_iff {json : CJson} (h : (json.getString "configdir").isSome) :
    ManagerConfigAccepted json ↔
      ∀ mount, mountEntries json = some mount → ∃ elem ∈ mount, MountComplete elem := by
  obtain ⟨configdir, hdir⟩ := Option.isSome_iff_exists.mp h
  rw [ManagerConfigAccepted, cmparserManagerCreateFromFile, hdir]
  dsimp only
  rw [← mountEntries]
  cases hm : mountEntries json with
  | none =>
    have hempty : MountsListed [] {} := ⟨.nil, rfl, ⟨.nil, by simp, rfl, rfl⟩⟩
    exact iff_of_true ⟨_, rfl, rfl, rfl, hempty⟩ fun mount hmount => nomatch hmount
  | some mount =>
    obtain ⟨hlisted, hret⟩ := cmparserManagerParseOperationMount_spec mount
    dsimp only
    constructor
    · rintro ⟨cm, hcm, -⟩ mount' hmount'
      obtain rfl := Option.some.inj hmount'
      by_contra hnone
      rw [if_pos (hret.mpr hnone)] at hcm
      simp at hcm
    · intro hc
      rw [if_neg fun hlt => hret.mp hlt (hc mount rfl)]
      exact ⟨_, rfl, rfl, rfl, hlisted⟩

/-! ### A config with a dropped mount, and the minimum config -/

/-- The document of the minimum configuration, with these mounts. -/
def minimumConfig (mount : List CJson) : CJson :=
  .object [
    ("configdir", .string "/opt/container/conf/"),
    ("etherbridge", .array [.object [("name", .string "lxcbr0")]]),
    ("operation", .object [("mount", .array mount)])]

/-- A mount with the mandatory values. -/
def mountEntry : CJson :=
  .object [("type", .string "delayed"), ("to", .string "/mnt"), ("filesystem", .string "ext4"),
    ("blockdev", .array [.string "/dev/mmcblk1p8"])]

theorem manager_config_accepted_mount :
    ManagerConfigAccepted (minimumConfig [.object [], mountEntry]) := by
  refine (manager_config_accepted_iff rfl).mpr fun mount hmount => ?_
  obtain rfl := Option.some.inj hmount
  exact ⟨mountEntry, by simp, rfl, rfl, rfl, _, rfl, rfl⟩

/-- The minimum configuration is rejected. -/
theorem minimum_config_rejected :
    cmparserManagerCreateFromFile (minimumConfig []) = (none, -2) ∧
      ¬ ManagerConfigAccepted (minimumConfig []) := by
  have hret : cmparserManagerCreateFromFile (minimumConfig []) = (none, -2) := rfl
  refine ⟨hret, ?_⟩
  rintro ⟨cm, hcm, -⟩
  rw [hret] at hcm
  simp at hcm

end ContainerManager

import ContainerManager.Lxc.Rendering
import ContainerManager.Properties.CompleteConfig

/-!
# User namespace mapping

Whether a guest runs with the id mapping of its document or with none. The group map is parsed when
the user map is an object, and the parser of a map accepts a map that is not there.
-/

namespace ContainerManager

open Script

/-! ### Documents and items -/

/-- The numbers of a map in a document. -/
@[ext] structure MapNumbers where
  guestroot : ℚ
  hostidstart : ℚ
  num : ℚ

/-- The object has the three numbers of this map. -/
structure MapGiven (json : CJson) (map : MapNumbers) : Prop where
  guestroot : json.getValue "guestroot" = some map.guestroot
  hostidstart : json.getValue "hostidstart" = some map.hostidstart
  num : json.getValue "num" = some map.num

/-- The three integers of a map, as numbers. -/
def IdMap.numbers (map : IdMap) : MapNumbers :=
  ⟨map.guestRootId, map.hostStartId, map.numOfId⟩

/-- The base section has an id mapping of these two maps. -/
def IdmapGiven (base : CJson) (uid gid : MapNumbers) : Prop :=
  ∃ idmap u g, base.getObject "idmap" = some idmap ∧ idmap.getObject "uid" = some u ∧
    idmap.getObject "gid" = some g ∧ MapGiven u uid ∧ MapGiven g gid

/-- The value of an item of the id mapping. -/
def idmapValue : LxcCall → Option (Option CString)
  | .item key value _ => if key = .ofString "lxc.idmap" then some value else none
  | _ => none

/-- The values of the id mapping that are set, in this order. -/
def idmapItems (calls : List LxcCall) : List (Option CString) := calls.filterMap idmapValue

/-- The items of the id mapping that `lxcutil_set_config_base` sets with these answers. -/
def baseIdmapItems (bc : BaseConfig) (answer : ℕ → LxcAnswer) : List (Option CString) :=
  idmapItems ((run LxcCall.ok answer (lxcutilSetConfigBase bc)).calls.map Prod.fst)

/-- The kind and the three integers of a map, in decimal. -/
def mappingText (kind : String) (map : IdMap) : CString :=
  .ofString kind ++ .ofString " " ++ .decimal map.guestRootId ++ .ofString " " ++
    .decimal map.hostStartId ++ .ofString " " ++ .decimal map.numOfId

/-- The two items of a mapping. -/
def mappingItems (uid gid : IdMap) : List (Option CString) :=
  [some (mappingText "u" uid), some (mappingText "g" gid)]

/-- The guest is given the mapping of its document or none. -/
structure MappingAllOrNothing (base : CJson) : Prop where
  enabled : (cmparserParseBase {} base).1.idmaps.enabled ↔ ∃ uid gid, IdmapGiven base uid gid
  values : ∀ uid gid, IdmapGiven base uid gid →
    (cmparserParseBase {} base).1.idmaps.uid.numbers = uid ∧
      (cmparserParseBase {} base).1.idmaps.gid.numbers = gid
  set : ∀ uid gid : IdMap, IdmapGiven base uid.numbers gid.numbers → ∀ answer,
    baseIdmapItems (cmparserParseBase {} base).1 answer <+: mappingItems uid gid ∧
      (AllSucceed answer → ¬ LineCut 1023 (rootfsPathText (cmparserParseBase {} base).1.rootfs) →
        baseIdmapItems (cmparserParseBase {} base).1 answer = mappingItems uid gid)
  notSet : (¬ ∃ uid gid, IdmapGiven base uid gid) → ∀ answer,
    baseIdmapItems (cmparserParseBase {} base).1 answer = []

/-! ### The numbers of a map -/

/-- A number that is an `int`. -/
def IsInt (q : ℚ) : Prop := ∃ k : ℤ, q = k ∧ -2147483648 ≤ k ∧ k ≤ 2147483647

/-- The three numbers of a map are of the type `int`. -/
def MapNumbers.Readable (m : MapNumbers) : Prop :=
  IsInt m.guestroot ∧ IsInt m.hostidstart ∧ IsInt m.num

/-- What the parser reads of a map. -/
def MapNumbers.read (m : MapNumbers) : IdMap where
  guestRootId := CJson.valueint m.guestroot
  hostStartId := CJson.valueint m.hostidstart
  numOfId := CJson.valueint m.num

/-- A map is read as it is exactly when its numbers are of the type `int`. -/
lemma MapNumbers.numbers_read_iff (m : MapNumbers) : m.read.numbers = m ↔ m.Readable := by
  simp only [MapNumbers.ext_iff, IdMap.numbers, read, CJson.valueint_eq_iff, Readable, IsInt]

lemma IdMap.numbers_injective : Function.Injective IdMap.numbers := by
  rintro ⟨_, _, _⟩ ⟨_, _, _⟩ h
  simpa [numbers] using h

/-- Nothing is lost when a map that was read is printed. -/
lemma idmapText_read (kind : String) (m : MapNumbers) :
    idmapText kind m.read = mappingText kind m.read := by
  have h (q : ℚ) : CString.ofInt (CJson.valueint q) = .decimal (CJson.valueint q) :=
    CString.ofInt_eq_decimal (CJson.valueint_bounds q).1 (CJson.valueint_bounds q).2
  simp only [idmapText, mappingText, MapNumbers.read, h]

/-! ### The items of the base config -/

/-- No item of the id mapping can be reached. -/
def NoIdmap (ops : ConfigScript) : Prop := ∀ call ∈ reached ops, idmapValue call = none

section Items

variable {ops ops' : ConfigScript} {key : CString} {value : Option CString} {size : ℤ}
  {text : CString} {onCut : ConfigScript} {p : Line 1024}

lemma idmapItems_of_noIdmap (h : NoIdmap ops) : idmapItems (reached ops) = [] :=
  List.filterMap_eq_nil_iff.mpr h

lemma idmapItems_append (h : Completes ops) : idmapItems (reached (ops ++ ops')) =
    idmapItems (reached ops) ++ idmapItems (reached ops') := by
  rw [reached_append h, idmapItems, List.filterMap_append]
  rfl

@[simp] lemma noIdmap_nil : NoIdmap [] := by simp [NoIdmap, reached]

@[simp] lemma noIdmap_leave {ret : ℤ} : NoIdmap [.leave ret] := by simp [NoIdmap, reached]

lemma noIdmap_append (h : NoIdmap ops) (h' : NoIdmap ops') : NoIdmap (ops ++ ops') :=
  forall_reached_append.mpr ⟨h, fun _ => h'⟩

lemma noIdmap_flatMap {ι : Type*} {l : List ι} {f : ι → ConfigScript}
    (h : ∀ i ∈ l, NoIdmap (f i)) : NoIdmap (l.flatMap f) :=
  forall_reached_flatMap.mpr fun _ i _ e _ => h i (by simp [e])

@[simp] lemma noIdmap_prints : NoIdmap (prints p) := by
  intro call hc
  obtain ⟨onFail, hc⟩ := (mem_reached_of_completes completes_prints).mp hc
  obtain ⟨access, -, e⟩ := List.mem_map.mp hc
  obtain ⟨rfl, -⟩ := Op.call.inj e
  rfl

lemma noIdmap_setConfigItem (h : key ≠ .ofString "lxc.idmap") :
    NoIdmap (setConfigItem key value) := by
  simp [NoIdmap, setConfigItem, reached, idmapValue, h]

lemma noIdmap_setLine (h : key ≠ .ofString "lxc.idmap") : NoIdmap (setLine key p) := by
  simp [NoIdmap, setLine, reached, idmapValue, h]

lemma noIdmap_setPrinted (h : key ≠ .ofString "lxc.idmap") (hcut : NoIdmap onCut) :
    NoIdmap (setPrinted key size text onCut) := by
  simp only [setPrinted, withLine]
  split_ifs
  · exact noIdmap_append noIdmap_prints hcut
  · exact noIdmap_append noIdmap_prints (noIdmap_setLine h)

lemma noIdmap_setCap {key : String} (h : CString.ofString key ≠ .ofString "lxc.idmap")
    (cap : Option String) : NoIdmap (setCap key cap) := by
  cases cap with
  | none => exact noIdmap_nil
  | some cap =>
    simp only [setCap]
    split_ifs
    · exact noIdmap_setConfigItem h
    · exact noIdmap_nil

/-- One line of the mapping. -/
lemma idmapItems_setIdmap {kind : String} (h : (CString.ofString kind).length = 1) (map : IdMap) :
    idmapItems (reached (setPrinted (.ofString "lxc.idmap") 1024 (idmapText kind map)
      [.leave (-2)])) = [some (idmapText kind map)] := by
  have hlen := idmapText_length h map
  have hcut : ¬ LineCut 1024 (idmapText kind map) := not_lineCut_of_lt (by omega)
  have htext : (printLine 1024 (idmapText kind map)).buf.text = idmapText kind map :=
    (printLine_complete (by omega) (by omega) (by omega)).text
  simp only [setPrinted, withLine, printLine_cut (show (0 : ℤ) ≤ 1024 by omega), if_neg hcut]
  rw [idmapItems_append completes_prints, idmapItems_of_noIdmap noIdmap_prints]
  simp [idmapItems, setLine, reached, idmapValue, htext]

/-- The two items as they are printed. -/
def printedItems (uid gid : IdMap) : List (Option CString) :=
  [some (idmapText "u" uid), some (idmapText "g" gid)]

lemma idmapItems_setIdmaps (idmaps : IdMaps) : idmapItems (reached (setIdmaps idmaps)) =
    if idmaps.enabled then printedItems idmaps.uid idmaps.gid else [] := by
  have hu : (idmapText "u" idmaps.uid).length < 1023 := idmapText_length (by decide) _
  rw [setIdmaps]
  split_ifs
  · rw [idmapItems_append, idmapItems_setIdmap (by decide), idmapItems_setIdmap (by decide)]
    · rfl
    · rw [completes_setPrinted (by omega)]
      exact fun hc => absurd hc (not_lineCut_of_lt (by omega))
  · rfl

/-- The base config sets no other item of the mapping. -/
lemma idmapItems_lxcutilSetConfigBase (bc : BaseConfig) :
    idmapItems (reached (lxcutilSetConfigBase bc)) =
      if LineCut 1023 (rootfsPathText bc.rootfs) then []
      else if bc.idmaps.enabled then printedItems bc.idmaps.uid bc.idmaps.gid else [] := by
  have hroot : NoIdmap (setPrinted (.ofString "lxc.rootfs.path") 1023 (rootfsPathText bc.rootfs)
      [.leave (-1)]) := noIdmap_setPrinted (by decide) noIdmap_leave
  rw [lxcutilSetConfigBase]
  by_cases hc : LineCut 1023 (rootfsPathText bc.rootfs)
  · rw [if_pos hc, reached_append_of_not_completes, idmapItems_of_noIdmap hroot]
    rw [completes_setPrinted (by omega)]
    exact fun h => not_completes_leave (h hc)
  · -- the mapping is set behind the disks, the signals and the capabilities
    have hbefore : NoIdmap (bc.extradiskList.flatMap setExtradisk ++
        setConfigItem (.ofString "lxc.signal.halt") (bc.lifecycle.halt.map .ofString) ++
        setConfigItem (.ofString "lxc.signal.reboot") (bc.lifecycle.reboot.map .ofString) ++
        setCap "lxc.cap.drop" bc.cap.drop ++ setCap "lxc.cap.keep" bc.cap.keep) := by
      refine noIdmap_append (noIdmap_append (noIdmap_append (noIdmap_append ?_ ?_) ?_) ?_) ?_
      · exact noIdmap_flatMap fun d _ => noIdmap_setPrinted (by decide) noIdmap_nil
      · exact noIdmap_setConfigItem (by decide)
      · exact noIdmap_setConfigItem (by decide)
      · exact noIdmap_setCap (by decide) _
      · exact noIdmap_setCap (by decide) _
    have hauto : NoIdmap (setMountAuto bc.shmounts) :=
      noIdmap_append noIdmap_prints (noIdmap_setLine (by decide))
    have htty : NoIdmap (setPrinted (.ofString "lxc.tty.max") 1024 (.ofInt bc.tty.ttyMax)
        [.leave (-2)]) := noIdmap_setPrinted (by decide) noIdmap_leave
    have hpty : NoIdmap (setPrinted (.ofString "lxc.pty.max") 1024 (.ofInt bc.tty.ptyMax)
        [.leave (-2)]) := noIdmap_setPrinted (by decide) noIdmap_leave
    rw [if_neg hc, idmapItems_append ((completes_setPrinted (by omega)).mpr fun h => absurd h hc),
      idmapItems_of_noIdmap hroot, List.nil_append]
    rw [idmapItems_append (by simp [completes_setInt]), idmapItems_append (by simp),
      idmapItems_append (by simp), idmapItems_append (by simp), idmapItems_of_noIdmap hbefore,
      idmapItems_of_noIdmap hauto, idmapItems_of_noIdmap htty, idmapItems_of_noIdmap hpty,
      idmapItems_setIdmaps]
    simp

/-- What is set is the start of the mapping, and all of it when the calls succeed. -/
lemma baseIdmapItems_prefix (bc : BaseConfig) (answer : ℕ → LxcAnswer) :
    baseIdmapItems bc answer <+:
      if bc.idmaps.enabled then printedItems bc.idmaps.uid bc.idmaps.gid else [] := by
  have hitems : baseIdmapItems bc answer <+: idmapItems (reached (lxcutilSetConfigBase bc)) :=
    run_calls_prefix.filterMap idmapValue
  rw [idmapItems_lxcutilSetConfigBase] at hitems
  split_ifs at hitems ⊢ with hc
  · exact hitems.trans List.nil_prefix
  · exact hitems
  · exact hitems
  · exact hitems

lemma baseIdmapItems_of_allSucceed {bc : BaseConfig} {answer : ℕ → LxcAnswer}
    (h : AllSucceed answer) (hc : ¬ LineCut 1023 (rootfsPathText bc.rootfs)) :
    baseIdmapItems bc answer =
      if bc.idmaps.enabled then printedItems bc.idmaps.uid bc.idmaps.gid else [] := by
  rw [baseIdmapItems, run_calls_of_ok h.ok, idmapItems_lxcutilSetConfigBase, if_neg hc]

end Items

/-! ### The mapping of a base section -/

section Base

variable {base json : CJson}

/-- The object of a name is an object. -/
lemma object?_of_getObject {name : String} {value : CJson} (h : json.getObject name = some value) :
    CJson.object? (some value) = some value := by
  simp only [CJson.getObject, CJson.object?] at h
  split at h
  · obtain rfl := Option.some.inj h
    rfl
  · cases h

lemma getObjectItem_of_getObject {name : String} {value : CJson}
    (h : json.getObject name = some value) : json.getObjectItemCaseSensitive name = some value := by
  simp only [CJson.getObject, CJson.object?] at h
  split at h
  · rename_i items hitem
    rw [hitem]
    exact h
  · cases h

/-- The parser of a map accepts an object exactly when it has the three numbers. -/
lemma cmparserParseBasesubIdmap_enabled (map : IdMap) (h : CJson.object? (some json) = some json) :
    (cmparserParseBasesubIdmap map (some json)).2 ↔ ∃ m, MapGiven json m := by
  simp only [cmparserParseBasesubIdmap, h, decide_eq_true_eq, CJson.getNumber, Option.isSome_map]
  constructor
  · rintro ⟨hroot, hstart, hnum⟩
    obtain ⟨root, hroot⟩ := Option.isSome_iff_exists.mp hroot
    obtain ⟨start, hstart⟩ := Option.isSome_iff_exists.mp hstart
    obtain ⟨num, hnum⟩ := Option.isSome_iff_exists.mp hnum
    exact ⟨⟨root, start, num⟩, hroot, hstart, hnum⟩
  · rintro ⟨m, hm⟩
    simp [hm.guestroot, hm.hostidstart, hm.num]

lemma cmparserParseBasesubIdmap_eq (map : IdMap) {m : MapNumbers}
    (h : CJson.object? (some json) = some json) (hm : MapGiven json m) :
    (cmparserParseBasesubIdmap map (some json)).1 = m.read := by
  simp [cmparserParseBasesubIdmap, CJson.getNumber, MapNumbers.read, h, hm.guestroot,
    hm.hostidstart, hm.num]

lemma parseBaseRootfs_idmaps (bc : BaseConfig) (base : CJson) :
    (parseBaseRootfs bc base).1.idmaps = bc.idmaps := by
  simp only [parseBaseRootfs]
  split <;> rfl

lemma parseBaseExtradisk_idmaps (bc : BaseConfig) (base : CJson) :
    (parseBaseExtradisk bc base).1.idmaps = bc.idmaps := by
  simp only [parseBaseExtradisk]
  split <;> rfl

/-- The mapping is parsed with the last part of the section. -/
lemma cmparserParseBase_idmaps (base : CJson) : (cmparserParseBase {} base).1.idmaps =
    if (cmparserParseBase {} base).2 = 0 then
      parseIdmaps {} (base.getObjectItemCaseSensitive "idmap")
    else {} := by
  simp only [cmparserParseBase, parseThen]
  split_ifs
  all_goals
    simp_all [parseBaseRootfs_idmaps, parseBaseExtradisk_idmaps, cmparserParseBaseExtended,
      parseBaseRest]

/-- The maps that are parsed. -/
lemma parseIdmaps_of_getObject {idmap u : CJson} (hi : base.getObject "idmap" = some idmap)
    (hu : idmap.getObject "uid" = some u) (maps : IdMaps) :
    parseIdmaps maps (base.getObjectItemCaseSensitive "idmap") =
      { enabled := (cmparserParseBasesubIdmap maps.uid (some u)).2 ∧
          (cmparserParseBasesubIdmap maps.gid (idmap.getObjectItemCaseSensitive "gid")).2
        uid := (cmparserParseBasesubIdmap maps.uid (some u)).1
        gid := (cmparserParseBasesubIdmap maps.gid
          (idmap.getObjectItemCaseSensitive "gid")).1 } := by
  simp only [CJson.getObject] at hi
  simp only [parseIdmaps, hi, hu]

/-- A mapping is only enabled with an object for the user map. -/
lemma exists_of_parseIdmaps_enabled {maps : IdMaps}
    (h : (parseIdmaps maps (base.getObjectItemCaseSensitive "idmap")).enabled = true) :
    ∃ idmap u, base.getObject "idmap" = some idmap ∧ idmap.getObject "uid" = some u := by
  simp only [parseIdmaps] at h
  split at h
  · simp at h
  · rename_i idmap hi
    split at h
    · simp at h
    · rename_i u hu
      exact ⟨idmap, u, hi, hu⟩

/-- A group map that is not an object is accepted as it is. -/
lemma cmparserParseBasesubIdmap_of_none (map : IdMap) {json : Option CJson}
    (h : CJson.object? json = none) : cmparserParseBasesubIdmap map json = (map, true) := by
  simp only [cmparserParseBasesubIdmap, h]

/-- When the mapping of the document is the one that is set. -/
structure MappingCondition (base : CJson) : Prop where
  /-- a section that is not parsed to its end has no mapping -/
  ends : ¬ BaseComplete base → ¬ ∃ uid gid, IdmapGiven base uid gid
  /-- with a complete user map there is an object for the group map -/
  gid : BaseComplete base → ∀ idmap u uid, base.getObject "idmap" = some idmap →
    idmap.getObject "uid" = some u → MapGiven u uid → (idmap.getObject "gid").isSome
  /-- the numbers of the mapping are of the type `int` -/
  readable : BaseComplete base → ∀ uid gid, IdmapGiven base uid gid → uid.Readable ∧ gid.Readable

lemma parseIdmaps_eq {uid gid : MapNumbers} (h : IdmapGiven base uid gid) :
    parseIdmaps {} (base.getObjectItemCaseSensitive "idmap") = ⟨true, uid.read, gid.read⟩ := by
  obtain ⟨idmap, u, g, hi, hu, hg, hmu, hmg⟩ := h
  have hu' := object?_of_getObject hu
  have hg' := object?_of_getObject hg
  rw [parseIdmaps_of_getObject hi hu, getObjectItem_of_getObject hg,
    cmparserParseBasesubIdmap_eq _ hu' hmu,
    cmparserParseBasesubIdmap_eq _ hg' hmg,
    (cmparserParseBasesubIdmap_enabled _ hu').mpr ⟨uid, hmu⟩,
    (cmparserParseBasesubIdmap_enabled _ hg').mpr ⟨gid, hmg⟩]
  simp

/-- A section that is parsed to its end enables the mapping exactly when the user map is complete
and the group map is complete or not an object. -/
lemma parseIdmaps_enabled :
    (parseIdmaps {} (base.getObjectItemCaseSensitive "idmap")).enabled ↔
      ∃ idmap u uid, base.getObject "idmap" = some idmap ∧ idmap.getObject "uid" = some u ∧
        MapGiven u uid ∧ ∀ g, idmap.getObject "gid" = some g → ∃ gid, MapGiven g gid := by
  constructor
  · intro h
    obtain ⟨idmap, u, hi, hu⟩ := exists_of_parseIdmaps_enabled h
    simp only [parseIdmaps_of_getObject hi hu, decide_eq_true_eq] at h
    obtain ⟨uid, huid⟩ := (cmparserParseBasesubIdmap_enabled _ (object?_of_getObject hu)).mp h.1
    refine ⟨idmap, u, uid, hi, hu, huid, fun g hg => ?_⟩
    rw [getObjectItem_of_getObject hg] at h
    exact (cmparserParseBasesubIdmap_enabled _ (object?_of_getObject hg)).mp h.2
  · rintro ⟨idmap, u, uid, hi, hu, huid, hgid⟩
    simp only [parseIdmaps_of_getObject hi hu, decide_eq_true_eq]
    refine ⟨(cmparserParseBasesubIdmap_enabled _ (object?_of_getObject hu)).mpr ⟨uid, huid⟩, ?_⟩
    cases hg : idmap.getObject "gid" with
    | none => rw [cmparserParseBasesubIdmap_of_none _ hg]
    | some g =>
      rw [getObjectItem_of_getObject hg]
      exact (cmparserParseBasesubIdmap_enabled _ (object?_of_getObject hg)).mpr (hgid g hg)

/-- The mapping is the one of the document or none when the parsed one is. -/
lemma mappingAllOrNothing_of {base : CJson}
    (henabled : (cmparserParseBase {} base).1.idmaps.enabled ↔ ∃ uid gid, IdmapGiven base uid gid)
    (hvalues : ∀ uid gid, IdmapGiven base uid gid → uid.Readable ∧ gid.Readable ∧
      (cmparserParseBase {} base).1.idmaps = ⟨true, uid.read, gid.read⟩) :
    MappingAllOrNothing base := by
  constructor
  · exact henabled
  · intro uid gid h
    obtain ⟨hu, hg, hmaps⟩ := hvalues uid gid h
    rw [hmaps]
    exact ⟨uid.numbers_read_iff.mpr hu, gid.numbers_read_iff.mpr hg⟩
  · intro uid gid h answer
    obtain ⟨hu, hg, hmaps⟩ := hvalues _ _ h
    have hu' : uid.numbers.read = uid :=
      IdMap.numbers_injective (uid.numbers.numbers_read_iff.mpr hu)
    have hg' : gid.numbers.read = gid :=
      IdMap.numbers_injective (gid.numbers.numbers_read_iff.mpr hg)
    have hprinted : printedItems uid gid = mappingItems uid gid := by
      rw [printedItems, mappingItems, ← hu', ← hg', idmapText_read, idmapText_read]
    rw [hu', hg'] at hmaps
    rw [← hprinted]
    constructor
    · simpa only [hmaps, if_true] using baseIdmapItems_prefix (cmparserParseBase {} base).1 answer
    · intro hans hc
      simpa only [hmaps, if_true] using baseIdmapItems_of_allSucceed hans hc
  · intro hnone answer
    have hitems := baseIdmapItems_prefix (cmparserParseBase {} base).1 answer
    rw [if_neg fun he => hnone (henabled.mp he)] at hitems
    exact List.prefix_nil.mp hitems

/-- A guest is given the mapping of its document or none exactly when the section is parsed to its
end, or has no mapping, a group map stands beside a complete user map, and the numbers are of the
type `int`. -/
theorem mapping_all_or_nothing_iff (base : CJson) :
    MappingAllOrNothing base ↔ MappingCondition base := by
  have hidmaps := cmparserParseBase_idmaps base
  by_cases hb : BaseComplete base
  · rw [if_pos ((cmparserParseBase_eq_zero {} base).mpr hb)] at hidmaps
    constructor
    · intro h
      refine ⟨fun hnot => absurd hb hnot, ?_, ?_⟩
      · intro _ idmap u uid hi hu huid
        by_contra hg
        -- the mapping is enabled without a group map
        have henabled := h.enabled.mp (hidmaps ▸ parseIdmaps_enabled.mpr
          ⟨idmap, u, uid, hi, hu, huid, fun g hg' => absurd (by simp [hg']) hg⟩)
        obtain ⟨uid', gid', idmap', u', g', hi', hu', hg', -⟩ := henabled
        obtain rfl := Option.some.inj (hi.symm.trans hi')
        exact hg (by simp [hg'])
      · intro _ uid gid hgiven
        obtain ⟨hu, hg⟩ := h.values uid gid hgiven
        rw [hidmaps, parseIdmaps_eq hgiven] at hu hg
        exact ⟨uid.numbers_read_iff.mp hu, gid.numbers_read_iff.mp hg⟩
    · intro h
      apply mappingAllOrNothing_of
      · rw [hidmaps, parseIdmaps_enabled]
        constructor
        · rintro ⟨idmap, u, uid, hi, hu, huid, hgid⟩
          obtain ⟨g, hg⟩ := Option.isSome_iff_exists.mp (h.gid hb idmap u uid hi hu huid)
          obtain ⟨gid, hgid⟩ := hgid g hg
          exact ⟨uid, gid, idmap, u, g, hi, hu, hg, huid, hgid⟩
        · rintro ⟨uid, gid, idmap, u, g, hi, hu, hg, huid, hgid⟩
          refine ⟨idmap, u, uid, hi, hu, huid, fun g' hg' => ?_⟩
          obtain rfl := Option.some.inj (hg.symm.trans hg')
          exact ⟨gid, hgid⟩
      · intro uid gid hgiven
        obtain ⟨hu, hg⟩ := h.readable hb uid gid hgiven
        exact ⟨hu, hg, by rw [hidmaps, parseIdmaps_eq hgiven]⟩
  · rw [if_neg fun h0 => hb ((cmparserParseBase_eq_zero {} base).mp h0)] at hidmaps
    constructor
    · intro h
      refine ⟨fun _ hgiven => ?_, fun hb' => absurd hb' hb, fun hb' => absurd hb' hb⟩
      have henabled := h.enabled.mpr hgiven
      simp [hidmaps] at henabled
    · intro h
      have hnone := h.ends hb
      apply mappingAllOrNothing_of
      · simp [hidmaps, hnone]
      · intro uid gid hgiven
        exact absurd ⟨uid, gid, hgiven⟩ hnone

end Base

/-! ### A user map without a group map -/

/-- A base section whose mapping has no group map. -/
def userMapSection : CJson :=
  .object [
    ("rootfs", .object [("path", .string "/rootfs"), ("hostpath", .array [.string "/opt/root"])]),
    ("idmap", .object [("uid", .object [
      ("guestroot", .number 0), ("hostidstart", .number 100000), ("num", .number 65536)])])]

/-- The guest is given the user map, and an empty group map. -/
theorem user_map_enabled :
    (cmparserParseBase {} userMapSection).1.idmaps = ⟨true, ⟨0, 100000, 65536⟩, ⟨0, 0, 0⟩⟩ ∧
      (∀ answer, AllSucceed answer → baseIdmapItems (cmparserParseBase {} userMapSection).1 answer =
        mappingItems ⟨0, 100000, 65536⟩ ⟨0, 0, 0⟩) ∧
      ¬ MappingAllOrNothing userMapSection := by
  have hidmaps : (cmparserParseBase {} userMapSection).1.idmaps =
    ⟨true, ⟨0, 100000, 65536⟩, ⟨0, 0, 0⟩⟩ := rfl
  refine ⟨hidmaps, fun answer hans => ?_, fun h => ?_⟩
  · rw [baseIdmapItems_of_allSucceed hans (not_lineCut_of_lt (by decide)), hidmaps]
    rfl
  · obtain ⟨uid, gid, idmap, u, g, hi, -, hg, -⟩ := h.enabled.mp (by rw [hidmaps])
    cases hi
    cases hg

end ContainerManager

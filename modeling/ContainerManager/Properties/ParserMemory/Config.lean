import ContainerManager.Properties.ParserMemory.Dynamic
import ContainerManager.Properties.ParserMemory.Base

/-!
# What a config holds

The sections of a document put together, and the release of the config they make.
-/

namespace ContainerManager.Memory

open Ownership

variable {mem : ℕ → Bool} {E : Fault → Prop}

def ConfigMem.own (cc : ConfigMem) : Blocks :=
  {(.config, cc.self)} + one .string cc.name + one .string cc.role + cc.baseconfig.own +
    nodesOwn .resource cc.resourcelist + cc.fsconfig.own + cc.staticDevice.own +
    entriesOwn cc.dynamicDevlist + netifsOwn cc.staticNetiflist +
    nodesOwn .dynamicNetif cc.dynamicNetiflist

/-- The kinds of a config: one record for each element, one string for each value. -/
def configKinds (cc : ParsedConfig) : Multiset Block :=
  {.config} + {.string} + {.string} + baseKinds cc.baseconfig + resourceKinds cc.resourcelist +
    fsKinds cc.fsconfig + staticKinds cc.deviceconfig.staticDevice +
    dynamicKinds cc.deviceconfig.dynamicDevlist + netifKinds cc.staticNetiflist +
    dynamicNetifKinds cc.dynamicNetiflist

lemma BaseMem.free_owns (bc : BaseMem) : Owns bc.own bc.free (fun _ R => R = 0) E := by
  have hsplit : bc.own = nodesOwn .env bc.envlist + (one .string bc.drop + (one .string bc.keep +
      (one .string bc.halt + (one .string bc.reboot + (one .string bc.shmounts +
        (nodesOwn .extradisk bc.extradiskList + (one .string bc.rootfs.rootfsDev.1 +
          (one .string bc.rootfs.rootfsDev.2 + (one .string bc.rootfs.option +
            (one .string bc.rootfs.filesystem + one .string bc.rootfs.path)))))))))) := by
    rw [BaseMem.own, RootfsMem.own]
    abel
  apply (freeNodes_owns _ _).call hsplit fun _ he => he
  rintro _ _ rfl
  iterate 5
    apply (Owns.releaseOpt _ _).call (zero_add _) fun _ he => he
    rintro _ _ rfl
  apply (freeNodes_owns _ _).call (zero_add _) fun _ he => he
  rintro _ _ rfl
  iterate 4
    apply (Owns.releaseOpt _ _).call (zero_add _) fun _ he => he
    rintro _ _ rfl
  rw [zero_add]
  exact Owns.releaseOpt _ _

lemma cmparserReleaseConfig_owns (cc : ConfigMem) :
    Owns cc.own (cmparserReleaseConfig cc) (fun _ R => R = 0) E := by
  have hsplit : cc.own = cc.staticDevice.own + (entriesOwn cc.dynamicDevlist +
      (netifsOwn cc.staticNetiflist + (nodesOwn .dynamicNetif cc.dynamicNetiflist +
        (cc.fsconfig.own + (nodesOwn .resource cc.resourcelist + (cc.baseconfig.own +
          (one .string cc.name + (one .string cc.role + {(.config, cc.self)})))))))) := by
    rw [ConfigMem.own]
    abel
  have hentries : Owns (entriesOwn cc.dynamicDevlist)
      (cc.dynamicDevlist.reverse.forM EntryMem.free) (fun _ R => R = 0) E :=
    Owns.forM_reverse EntryMem.free_owns cc.dynamicDevlist
  apply (StaticMem.free_owns _).call hsplit fun _ he => he
  rintro _ _ rfl
  apply hentries.call (zero_add _) fun _ he => he
  rintro _ _ rfl
  apply (freeNetifs_owns _).call (zero_add _) fun _ he => he
  rintro _ _ rfl
  apply (freeNodes_owns _ _).call (zero_add _) fun _ he => he
  rintro _ _ rfl
  apply (FsMem.free_owns _).call (zero_add _) fun _ he => he
  rintro _ _ rfl
  apply (freeNodes_owns _ _).call (zero_add _) fun _ he => he
  rintro _ _ rfl
  apply (BaseMem.free_owns _).call (zero_add _) fun _ he => he
  rintro _ _ rfl
  apply (Owns.releaseOpt _ _).call (zero_add _) fun _ he => he
  rintro _ _ rfl
  apply (Owns.releaseOpt _ _).call (zero_add _) fun _ he => he
  rintro _ _ rfl
  rw [zero_add]
  exact Owns.release_last _ _

/-- Without a role the name is read, which is null when its copy failed. -/
lemma parseRole_owns {name : Option ℕ} (hname : NeverFails mem → name.isSome = true)
    (json : CJson) :
    Owns 0 (parseRole mem name json)
      (fun q R => R = one .string q ∧ (NeverFails mem → q.isSome = true))
      (fun f => f = .null ∧ json.getString "role" = none ∧ ¬ NeverFails mem) := by
  rw [parseRole]
  cases json.getString "role" with
  | some role => exact strdup_owns true
  | none =>
    cases name with
    | none => exact Owns.null ⟨rfl, rfl, fun hfull => by simpa using hname hfull⟩
    | some id => exact strdup_owns true

/-- The kinds of the network section of a document. -/
def networkKinds (json : CJson) : Multiset Block :=
  (json.getObject "network").elim 0 fun network =>
    netifKinds (ContainerManager.cmparserParseStaticNetif [] (network.elements "static")).1 +
      dynamicNetifKinds
        (ContainerManager.cmparserParseDynamicNetif [] (network.elements "dynamic")).1

lemma parseNetwork_owns (ccfg : ConfigMem) (hs : ccfg.staticNetiflist = [])
    (hd : ccfg.dynamicNetiflist = []) (json : CJson) :
    Owns ccfg.own (parseNetwork mem ccfg json)
      (Built Nothing (NeverFails mem) ConfigMem.own (ccfg.own.map Prod.fst + networkKinds json)
        fun _ => True) E := by
  rw [parseNetwork, networkKinds]
  cases json.getObject "network" with
  | none => exact Owns.pure (.mk_nothing rfl fun _ => ⟨(add_zero _).symm, trivial⟩)
  | some network =>
    apply (cmparserParseStaticNetif_owns (network.elements "static")).call (zero_add _).symm
      fun _ he => he
    intro s R hR
    rw [hR.eq]
    apply (cmparserParseDynamicNetif_owns (network.elements "dynamic")).call (zero_add _).symm
      fun _ he => he
    intro d R' hR'
    rw [hR'.eq]
    refine Owns.pure (.mk_nothing ?_ fun hfull => ⟨?_, trivial⟩)
    · simp only [ConfigMem.own, hs, hd, netifsOwn, nodesOwn, List.map_nil, List.sum_nil]
      abel
    · rw [Multiset.map_add, Multiset.map_add, hR.kinds_own hfull, hR'.kinds_own hfull,
        Option.elim_some]
      abel

/-- A device of the document has an item without a rule. -/
def RulelessDevice (json : CJson) : Prop :=
  ∃ device ∈ json.getObject "device", ∃ elem ∈ device.elements "dynamic", RulelessEntry elem

/-- The kinds of the device and the network section of a document. -/
def deviceKinds (json : CJson) : Multiset Block :=
  (json.getObject "device").elim 0 fun device =>
    staticKinds (cmparserParseDevice {} device).1.staticDevice +
      dynamicKinds (cmparserParseDevice {} device).1.dynamicDevlist + networkKinds json

lemma parseDevices_owns {ccfg : ConfigMem} (hstatic : ccfg.staticDevice = {})
    (hdynamic : ccfg.dynamicDevlist = []) (hs : ccfg.staticNetiflist = [])
    (hd : ccfg.dynamicNetiflist = []) (json : CJson) (n : ℕ) :
    OwnsFrom ccfg.own n (parseDevices mem ccfg json)
      (fun r R m => Built (LostItems mem n m) (NeverFails mem) (fun r => r.1.own)
        (ccfg.own.map Prod.fst + deviceKinds json)
        (fun r => r.2 = (if (json.getObject "device").isSome then 0 else -2) ∧
          ¬ RulelessDevice json) r R)
      (fun f => f = .dangling ∧ RulelessDevice json) := by
  rw [parseDevices, deviceKinds]
  cases hdevice : json.getObject "device" with
  | none =>
    apply OwnsFrom.pure
    apply Built.of_nothing (lostItems_zero n n)
    refine .mk_nothing rfl fun _ => ⟨(add_zero _).symm, rfl, ?_⟩
    rintro ⟨device, h, -⟩
    simp [hdevice] at h
  | some device =>
    have hruleless : RulelessDevice json ↔
        ∃ elem ∈ device.elements "dynamic", RulelessEntry elem := by
      simp [RulelessDevice, hdevice]
    apply ((cmparserParseStaticDev_owns { ({} : StaticDevices) with
      enableProtection :=
        if device.getCString "protection" = some (.ofString "disable") then 0 else 1 } rfl
      (device.elements "static")).from_next n).call (zero_add _).symm fun _ he => he
    intro s R m hm hR
    rw [hR.eq]
    apply (cmparserParseDynamicDev_owns (device.elements "dynamic") m).call (zero_add _).symm
      fun f hf => ⟨hf.1, hruleless.mpr hf.2⟩
    intro d R' k hk hR'
    obtain ⟨L, hL, rfl, hnone⟩ := hR'.split
    have hsplit : entriesOwn d.1 + L + (s.1.own + ccfg.own) =
        { ccfg with staticDevice := s.1, dynamicDevlist := d.1 }.own + L := by
      simp only [ConfigMem.own, hstatic, hdynamic, StaticMem.own, entriesOwn, nodesOwn_nil,
        List.map_nil, List.sum_nil]
      abel
    apply ((parseNetwork_owns { ccfg with staticDevice := s.1, dynamicDevlist := d.1 } hs hd
      json).from_next k).call hsplit fun _ he => he
    intro cc R'' k' hk' hcc
    rw [hcc.eq]
    apply OwnsFrom.pure
    refine ⟨⟨L, hL.widen hm hk hk', rfl⟩, fun hfull => ?_⟩
    obtain ⟨-, hkinds, -, hrules⟩ := hR'.exact hfull
    simp only [hnone hfull, add_zero] at hkinds hsplit
    refine ⟨by rw [hnone hfull, add_zero], ?_, rfl, fun h => ?_⟩
    · have hstaticKinds : s.1.own.map Prod.fst =
          staticKinds (cmparserParseDevice {} device).1.staticDevice := hR.kinds_own hfull
      have hdynamicKinds : (entriesOwn d.1).map Prod.fst =
          dynamicKinds (cmparserParseDevice {} device).1.dynamicDevlist := hkinds
      rw [hnone hfull, add_zero, hcc.kinds_own hfull, ← hsplit, Multiset.map_add,
        Multiset.map_add, hstaticKinds, hdynamicKinds, Option.elim_some]
      abel
    · obtain ⟨elem, helem, hr⟩ := hruleless.mp h
      exact hrules elem helem hr

/-- The document is accepted, and a device has an item without a rule. -/
def RulelessDocument (json : CJson) : Prop :=
  (cmparserCreateConfig json).1.isSome = true ∧ RulelessDevice json

/-- The sections were parsed as they should be. -/
structure SectionsParsed (mem : ℕ → Bool) (json : CJson) (n : ℕ) (r : ConfigMem × ℤ) (R : Blocks)
    (m : ℕ) : Prop where
  lost : ∃ L, LostItems mem n m L ∧ R = r.1.own + L
  exact : NeverFails mem → R = r.1.own ∧ r.2 = (cmparserCreateConfig json).2 ∧
    ¬ RulelessDocument json ∧ ∀ cc ∈ (cmparserCreateConfig json).1, R.map Prod.fst = configKinds cc

/-- A mandatory section is missing. -/
lemma SectionsParsed.failed {json : CJson} {ccfg : ConfigMem} {R : Blocks} (hR : R = ccfg.own)
    (h : cmparserCreateConfig json = (none, -2)) (n m : ℕ) :
    SectionsParsed mem json n (ccfg, -2) R m := by
  refine ⟨⟨0, lostItems_zero n m, by rw [hR, add_zero]⟩,
    fun _ => ⟨hR, by rw [h], fun hr => ?_, ?_⟩⟩
  · simp [RulelessDocument, h] at hr
  · simp [h]

/-- The value of an accepted document. -/
lemma cmparserCreateConfig_accepted {json base fs device : CJson} {name : String}
    (hname : json.getString "name" = some name) (hbase : json.getObject "base" = some base)
    (hfs : json.getObject "fs" = some fs) (hdevice : json.getObject "device" = some device) :
    ∃ cc, cmparserCreateConfig json = (some cc, 0) ∧
      cc.baseconfig = (ContainerManager.cmparserParseBase {} base).1 ∧
      cc.resourcelist =
        (ContainerManager.cmparserParseResource [] (json.elements "resource")).1 ∧
      cc.fsconfig = (ContainerManager.cmparserParseFs {} fs).1 ∧
      cc.deviceconfig = (cmparserParseDevice {} device).1 ∧
      netifKinds cc.staticNetiflist + dynamicNetifKinds cc.dynamicNetiflist =
        networkKinds json := by
  refine ⟨_, by simp [cmparserCreateConfig, ContainerManager.cmparserCreateFromFile, hname, hbase,
    hfs, hdevice]; rfl, rfl, rfl, rfl, by simp [ContainerConfig.withSections, hdevice], ?_⟩
  simp only [ContainerConfig.withSections, networkKinds]
  cases json.getObject "network" with
  | none => rfl
  | some network =>
    simp only [cmparserParseNetif, CJson.elements, Option.map_some, Option.getD_some,
      Option.elim_some]
    cases network.getArray "dynamic" <;> rfl

/-- The value of a document without a mandatory section. -/
lemma cmparserCreateConfig_rejected {json : CJson} (h : json.getString "name" = none ∨
    json.getObject "base" = none ∨ json.getObject "fs" = none ∨
    json.getObject "device" = none) : cmparserCreateConfig json = (none, -2) := by
  simp only [cmparserCreateConfig, ContainerManager.cmparserCreateFromFile]
  cases hname : json.getString "name" with
  | none => rfl
  | some name =>
    cases hbase : json.getObject "base" with
    | none => rfl
    | some base =>
      cases hfs : json.getObject "fs" with
      | none => rfl
      | some fs =>
        cases hdevice : json.getObject "device" with
        | none => rfl
        | some device => simp [hname, hbase, hfs, hdevice] at h

@[simp] lemma baseMem_own_empty : ({} : BaseMem).own = 0 := by simp [BaseMem.own]

@[simp] lemma fsMem_own_empty : ({} : FsMem).own = 0 := by simp [FsMem.own]

@[simp] lemma staticMem_own_empty : ({} : StaticMem).own = 0 := by simp [StaticMem.own]

@[simp] lemma entriesOwn_nil : entriesOwn [] = 0 := rfl

@[simp] lemma netifsOwn_nil : netifsOwn [] = 0 := rfl

/-- What a config owns before its devices and its interfaces are read. -/
lemma ConfigMem.own_noDevices {cc : ConfigMem} (hstatic : cc.staticDevice = {})
    (hdynamic : cc.dynamicDevlist = []) (hs : cc.staticNetiflist = [])
    (hd : cc.dynamicNetiflist = []) :
    cc.own = cc.fsconfig.own + (nodesOwn .resource cc.resourcelist + (cc.baseconfig.own +
      (one .string cc.role + (one .string cc.name + {(.config, cc.self)})))) := by
  simp only [ConfigMem.own, hstatic, hdynamic, hs, hd, staticMem_own_empty, entriesOwn_nil,
    netifsOwn_nil, nodesOwn_nil]
  abel

lemma parseSections_owns (self : ℕ) (json : CJson) (n : ℕ) :
    OwnsFrom {(.config, self)} n (parseSections mem self json) (SectionsParsed mem json n)
      (fun f => f = .dangling ∧ RulelessDocument json ∨
        f = .null ∧ json.getString "role" = none ∧ ¬ NeverFails mem) := by
  rw [parseSections]
  cases hname : json.getString "name" with
  | none =>
    refine OwnsFrom.pure (.failed ?_ (cmparserCreateConfig_rejected (.inl hname)) _ _)
    simp [ConfigMem.own_noDevices]
  | some s =>
    apply ((strdup_owns true).from_next n).call (zero_add _).symm fun _ he => he
    rintro name _ m hm ⟨rfl, hn⟩
    apply ((parseRole_owns hn json).from_next m).call (zero_add _).symm fun f hf => .inr hf
    rintro role _ m hm' ⟨rfl, hrole⟩
    replace hm := hm.trans hm'
    cases hbase : json.getObject "base" with
    | none =>
      refine OwnsFrom.pure (.failed ?_ (cmparserCreateConfig_rejected (.inr (.inl hbase))) _ _)
      simp [ConfigMem.own_noDevices]
    | some base =>
      apply ((cmparserParseBase_owns base).from_next m).call (zero_add _).symm fun _ he => he
      intro b R m hm' hb
      replace hm := hm.trans hm'
      rw [hb.eq]
      apply ((cmparserParseResource_owns _).from_next m).call (zero_add _).symm fun _ he => he
      intro r R m hm' hr
      replace hm := hm.trans hm'
      rw [hr.eq]
      cases hfs : json.getObject "fs" with
      | none =>
        have hrejected := cmparserCreateConfig_rejected (.inr (.inr (.inl hfs)))
        refine OwnsFrom.pure (.failed ?_ hrejected _ _)
        simp [ConfigMem.own_noDevices]
      | some fs =>
        apply ((cmparserParseFs_owns fs).from_next m).call (zero_add _).symm fun _ he => he
        intro f R m hm' hf
        replace hm := hm.trans hm'
        rw [hf.eq]
        let ccfg : ConfigMem :=
          { self, name, role, baseconfig := b.1, resourcelist := r.1, fsconfig := f.1 }
        have hsplit : ccfg.own = f.1.own + (nodesOwn .resource r.1 + (b.1.own +
            (one .string role + (one .string name + {(.config, self)})))) :=
          ConfigMem.own_noDevices rfl rfl rfl rfl
        have hkinds (hfull : NeverFails mem) : ccfg.own.map Prod.fst =
            {.config} + {.string} + {.string} +
              baseKinds (ContainerManager.cmparserParseBase {} base).1 +
              resourceKinds (ContainerManager.cmparserParseResource []
                (json.elements "resource")).1 +
              fsKinds (ContainerManager.cmparserParseFs {} fs).1 := by
          simp only [hsplit, Multiset.map_add, hf.kinds_own hfull, hr.kinds_own hfull,
            hb.kinds_own hfull, kinds_string, hn hfull, hrole hfull, stringKind_true,
            Multiset.map_singleton]
          abel
        rw [← hsplit]
        apply (parseDevices_owns rfl rfl rfl rfl json m).mono
        · intro d R k hk hd
          obtain ⟨L, hL, hR⟩ := hd.lost
          refine ⟨⟨L, hL.widen hm hk le_rfl, hR⟩, fun hfull => ?_⟩
          obtain ⟨hown, hdkinds, hret, hruleless⟩ := hd.exact hfull
          cases hdevice : json.getObject "device" with
          | none =>
            have hvalue := cmparserCreateConfig_rejected (.inr (.inr (.inr hdevice)))
            refine ⟨hown, by simp [hvalue, hret, hdevice], fun h => hruleless h.2, ?_⟩
            simp [hvalue]
          | some device =>
            obtain ⟨cc, hvalue, hvbase, hvresource, hvfs, hvdevice, hvnetwork⟩ :=
              cmparserCreateConfig_accepted hname hbase hfs hdevice
            refine ⟨hown, by simp [hvalue, hret, hdevice], fun h => hruleless h.2, ?_⟩
            intro c hc
            obtain rfl : cc = c := by simpa [hvalue] using hc
            rw [hdkinds, hkinds hfull, deviceKinds, hdevice, Option.elim_some, ← hvnetwork,
              configKinds, hvbase, hvresource, hvfs, hvdevice]
            abel
        · rintro e ⟨rfl, hruleless⟩
          obtain ⟨device, hdevice, -⟩ := id hruleless
          obtain ⟨cc, hvalue, -⟩ := cmparserCreateConfig_accepted hname hbase hfs hdevice
          exact .inl ⟨rfl, by simp [hvalue], hruleless⟩

/-- A document is accepted or rejected. -/
lemma cmparserCreateConfig_ret (json : CJson) :
    (cmparserCreateConfig json).2 = 0 ↔ (cmparserCreateConfig json).1.isSome = true := by
  by_cases h : json.getString "name" = none ∨ json.getObject "base" = none ∨
      json.getObject "fs" = none ∨ json.getObject "device" = none
  · simp [cmparserCreateConfig_rejected h]
  · simp only [not_or, ← ne_eq, Option.ne_none_iff_exists'] at h
    obtain ⟨⟨name, hname⟩, ⟨base, hbase⟩, ⟨fs, hfs⟩, device, hdevice⟩ := h
    obtain ⟨cc, hvalue, -⟩ := cmparserCreateConfig_accepted hname hbase hfs hdevice
    simp [hvalue]

end ContainerManager.Memory

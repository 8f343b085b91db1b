import ContainerManager.Properties.ParserMemory.Records

/-!
# What the lists of a config hold

The resources, the mounts, the static devices and the network interfaces: one record for each
element, one string for each value.
-/

namespace ContainerManager.Memory

open Ownership

variable {mem : ℕ → Bool} {E : Fault → Prop}

/-! ### Resources, mounts and static devices -/

/-- A record of one of several types. -/
def recordOwn {τ : Type} (block : τ → Block) (elem : τ × Node) : Blocks :=
  elem.2.own (block elem.1)

/-- The kinds of the record of an entry. -/
def elemKinds {τ : Type} (block : τ → Block) (record : Option (τ × List Bool)) :
    Multiset Block :=
  record.elim 0 fun r => recordKinds (block r.1) r.2

lemma makeRecord_owns {τ : Type} (block : τ → Block) (record : Option (τ × List Bool)) :
    Owns 0 (makeRecord mem block record)
      (Built Nothing (NeverFails mem) (Made.own (recordOwn block)) (elemKinds block record)
        fun m => m ≠ .aborted ∧ True) E := by
  cases record with
  | none => exact Owns.pure (.mk_nothing rfl fun _ => ⟨rfl, by simp⟩)
  | some record =>
    apply (newNode_owns (block record.1) record.2).call (zero_add _).symm fun _ he => he
    intro o R ho
    rw [ho.eq, add_zero]
    apply Owns.pure
    refine .mk_nothing ?_ fun hfull => ⟨ho.kinds_own hfull, ?_, trivial⟩
    · cases o <;> rfl
    · apply orAbort_ne_aborted
      simpa using (ho.exact hfull).2.2

/-- The kinds of the resources of a config. -/
def resourceKinds : List ResourceElem → Multiset Block :=
  listKinds fun _ => recordKinds .resource resourceStrings

lemma cmparserParseResource_owns (res : List CJson) :
    Owns 0 (cmparserParseResource mem res)
      (Built Nothing (NeverFails mem) (fun r => nodesOwn .resource r.1)
        (resourceKinds (ContainerManager.cmparserParseResource [] res).1) fun r => r.2 = 0) E := by
  have hkinds : (res.map fun elem =>
      ((parseResourceElem elem).map fun _ => resourceStrings).elim 0
        (recordKinds .resource)).sum =
      resourceKinds (ContainerManager.cmparserParseResource [] res).1 := by
    simp only [Option.elim_map]
    exact listKinds_filterMap _ _ res
  rw [← hkinds]
  exact parseOrFree_owns (nodesOwn_addTail _) rfl (freeNodes_owns _)
    (fun elem => makeNode_owns _ _ (orAbort_own _) fun _ => orAbort_ne_aborted) res

def FsMem.own (fc : FsMem) : Blocks :=
  nodesOwn .fsMount fc.mountlist + nodesOwn .delayedMount fc.initialList

lemma FsMem.own_add (fc : FsMem) (elem : FsMountType × Node) :
    (fc.add elem).own = fc.own + recordOwn fsBlock elem := by
  obtain ⟨type, node⟩ := elem
  cases type with
  | filesystem | directory =>
    simp only [FsMem.add, FsMem.own, nodesOwn_addTail, recordOwn, fsBlock]
    abel
  | delayed => simp only [FsMem.add, FsMem.own, nodesOwn_addTail, recordOwn, fsBlock, add_assoc]

lemma FsMem.free_owns (fc : FsMem) : Owns fc.own fc.free (fun _ R => R = 0) E := by
  apply (freeNodes_owns .fsMount _).call rfl fun _ he => he
  rintro _ _ rfl
  rw [zero_add]
  exact freeNodes_owns .delayedMount _

/-- The kinds of the mounts of a config. -/
def fsKinds (fc : FsConfig) : Multiset Block :=
  listKinds (fun _ => recordKinds .fsMount [true, true, true, true]) fc.mountlist +
    listKinds (fun _ => recordKinds .delayedMount [true, true]) fc.delayed.initialList

@[simp] lemma listKinds_singleton {α : Type} (kinds : α → Multiset Block) (a : α) :
    listKinds kinds [a] = kinds a := by
  simp [listKinds]

lemma parseFsMount_kinds (fc : FsConfig) (elem : CJson) :
    fsKinds (parseFsMount fc elem) = fsKinds fc + elemKinds fsBlock (fsMountRecord elem) := by
  simp only [parseFsMount, fsMountRecord]
  generalize (elem.getString "type").bind cmparserParserGetFstype = type
  cases elem.getString "from" with
  | none => cases type <;> simp [elemKinds]
  | some mountFrom =>
    cases elem.getString "to" with
    | none => cases type <;> simp [elemKinds]
    | some mountTo =>
      cases elem.getString "fstype" <;> cases elem.getString "option" <;>
        rcases type with _ | _ | _ | _ <;>
        simp [fsKinds, elemKinds, fsBlock, add_assoc, add_comm, add_left_comm]

lemma cmparserParseFs_owns (fs : CJson) :
    Owns 0 (cmparserParseFs mem fs)
      (Built Nothing (NeverFails mem) (fun r => r.1.own)
        (fsKinds (ContainerManager.cmparserParseFs {} fs).1) fun r => r.2 = 0) E := by
  have hkinds : ((fs.elements "mount").map fun elem =>
      elemKinds fsBlock (fsMountRecord elem)).sum =
      fsKinds (ContainerManager.cmparserParseFs {} fs).1 := by
    rw [ContainerManager.cmparserParseFs, kinds_foldl parseFsMount_kinds, fsKinds]
    simp [CJson.elements]
  rw [← hkinds]
  exact parseOrFree_owns FsMem.own_add rfl FsMem.free_owns
    (fun elem => makeRecord_owns _ _) (fs.elements "mount")

def StaticMem.own (sdc : StaticMem) : Blocks :=
  nodesOwn .staticDevice sdc.staticDevlist + nodesOwn .staticGpio sdc.staticGpiolist +
    nodesOwn .staticIio sdc.staticIiolist

lemma StaticMem.own_add (sdc : StaticMem) (elem : StaticType × Node) :
    (sdc.add elem).own = sdc.own + recordOwn staticBlock elem := by
  obtain ⟨type, node⟩ := elem
  cases type <;>
    simp only [StaticMem.add, StaticMem.own, nodesOwn_addTail, recordOwn, staticBlock] <;> abel

lemma StaticMem.free_owns (sdc : StaticMem) : Owns sdc.own sdc.free (fun _ R => R = 0) E := by
  rw [StaticMem.own, add_assoc]
  apply (freeNodes_owns .staticDevice _).call rfl fun _ he => he
  rintro _ _ rfl
  rw [zero_add]
  apply (freeNodes_owns .staticGpio _).call rfl fun _ he => he
  rintro _ _ rfl
  rw [zero_add]
  exact freeNodes_owns .staticIio _

/-- The kinds of an element of a static device list. -/
def staticElemKinds (elem : StaticElem) : Multiset Block :=
  elemKinds staticBlock (some (staticRecord elem))

/-- The kinds of the static devices of a config. -/
def staticKinds (sdc : StaticDevices) : Multiset Block :=
  listKinds (fun e => staticElemKinds (.device e)) sdc.staticDevlist +
    listKinds (fun e => staticElemKinds (.gpio e)) sdc.staticGpiolist +
    listKinds (fun e => staticElemKinds (.iio e)) sdc.staticIiolist

lemma staticKinds_add (sdc : StaticDevices) (elem : StaticElem) :
    staticKinds (sdc.add elem) = staticKinds sdc + staticElemKinds elem := by
  cases elem <;>
    simp only [StaticDevices.add, staticKinds, listKinds_append, listKinds_singleton] <;> abel

lemma cmparserParseStaticDev_owns (sdc : StaticDevices) (hsdc : staticKinds sdc = 0)
    (sd : List CJson) :
    Owns 0 (cmparserParseStaticDev mem sd)
      (Built Nothing (NeverFails mem) (fun r => r.1.own)
        (staticKinds (ContainerManager.cmparserParseStaticDev sdc sd).1) fun r => r.2 = 0) E := by
  have hkinds : (sd.map fun elem =>
      elemKinds staticBlock ((parseStaticElem elem).map staticRecord)).sum =
      staticKinds (ContainerManager.cmparserParseStaticDev sdc sd).1 := by
    rw [ContainerManager.cmparserParseStaticDev, kinds_foldl staticKinds_add, hsdc, zero_add]
    simp only [elemKinds, Option.elim_map]
    exact listKinds_filterMap parseStaticElem staticElemKinds sd
  rw [← hkinds]
  exact parseOrFree_owns StaticMem.own_add rfl StaticMem.free_owns
    (fun elem => makeRecord_owns _ _) sd

/-- The kinds of the dynamic network interfaces of a config. -/
def dynamicNetifKinds : List DynamicNetifElem → Multiset Block :=
  listKinds fun _ => recordKinds .dynamicNetif [true]

lemma cmparserParseDynamicNetif_owns (dni : List CJson) :
    Owns 0 (cmparserParseDynamicNetif mem dni)
      (Built Nothing (NeverFails mem) (fun r => nodesOwn .dynamicNetif r.1)
        (dynamicNetifKinds (ContainerManager.cmparserParseDynamicNetif [] dni).1) fun r => r.2 = 0)
      E := by
  have hkinds : (dni.map fun elem =>
      ((elem.getString "ifname").map fun _ => [true]).elim 0 (recordKinds .dynamicNetif)).sum =
      dynamicNetifKinds (ContainerManager.cmparserParseDynamicNetif [] dni).1 := by
    rw [ContainerManager.cmparserParseDynamicNetif, List.nil_append, dynamicNetifKinds,
      ← listKinds_filterMap]
    simp only [Option.elim_map]
    rfl
  rw [← hkinds]
  exact parseOrFree_owns (nodesOwn_addTail _) rfl (freeNodes_owns _)
    (fun elem => makeNode_owns _ _ (orAbort_own _) fun _ => orAbort_ne_aborted) dni

/-! ### Static network interfaces -/

def NetifMem.own (p : NetifMem) : Blocks :=
  {(.staticNetif, p.self)} + p.setting.own (netifBlock p.type)

/-- The kinds of the setting of an interface. -/
def settingKinds : StaticNetifElem → Multiset Block
  | .veth v => recordKinds .veth [v.link.isSome, v.name.isSome, v.flags.isSome, v.hwaddr.isSome,
      v.mode.isSome, v.address.isSome, v.gateway.isSome]
  | .vxcan _ => recordKinds .vxcan [true, true]

/-- The kinds of an interface. -/
def netifElemKinds (elem : StaticNetifElem) : Multiset Block := {.staticNetif} + settingKinds elem

/-- The setting is made of what it should be. -/
abbrev SettingBuilt (mem : ℕ → Bool) (type : NetifType) (param : CJson) :
    Option Node → Blocks → Prop :=
  Built Nothing (NeverFails mem) (fun o => o.elim 0 (Node.own (netifBlock type)))
    ((createNetif type param).elim 0 settingKinds)
    fun o => o.isSome = (createNetif type param).isSome

lemma cmparserParseStaticNetifVethCreate_owns (param : CJson) :
    Owns 0 (cmparserParseStaticNetifVethCreate mem param) (SettingBuilt mem .veth param) E := by
  have hvalue : createNetif .veth param = (param.getCString "link").map fun link => .veth {
      link := some link
      name := param.getCString "name"
      flags := param.getCString "flags"
      hwaddr := param.getCString "hwaddr"
      mode := param.getCString "mode"
      address := param.getCString "address"
      gateway := param.getCString "gateway" } := by
    simp only [createNetif, ContainerManager.cmparserParseStaticNetifVethCreate]
    cases param.getCString "link" <;> rfl
  apply malloc_bind
  intro p hp
  cases p with
  | none => exact Owns.pure (.mk_nothing rfl fun hfull => absurd rfl (hp hfull))
  | some self =>
    cases hlink : param.getString "link" with
    | none =>
      apply Owns.release rfl
      refine Owns.pure (.mk_nothing rfl fun _ => ?_)
      simp [hvalue, CJson.getCString, hlink]
    | some link =>
      apply (strings_owns _).call (add_comm _ _) fun _ he => he
      intro l R hl
      apply Owns.pure
      rw [hl.eq]
      refine .mk_nothing ?_ fun hfull => ?_
      · simp [Node.own, netifBlock, add_comm]
      · rw [Multiset.map_add, hl.kinds_own hfull, add_comm]
        simp [hvalue, CJson.getCString, hlink, settingKinds, recordKinds]

lemma cmparserParseStaticNetifVxcanCreate_owns (param : CJson) :
    Owns 0 (cmparserParseStaticNetifVxcanCreate mem param) (SettingBuilt mem .vxcan param) E := by
  have hvalue : createNetif .vxcan param = (param.getCString "name").bind fun name =>
      (param.getCString "upstream").map fun _ => .vxcan name := by
    simp only [createNetif, ContainerManager.cmparserParseStaticNetifVxcanCreate]
    cases param.getCString "name" <;> cases param.getCString "upstream" <;> rfl
  apply malloc_bind
  intro p hp
  cases p with
  | none => exact Owns.pure (.mk_nothing rfl fun hfull => absurd rfl (hp hfull))
  | some self =>
    cases hname : param.getString "name" with
    | none =>
      apply Owns.release rfl
      refine Owns.pure (.mk_nothing rfl fun _ => ?_)
      simp [hvalue, CJson.getCString, hname]
    | some name =>
      apply strdup_bind
      intro q hq
      rw [add_zero]
      cases hupstream : param.getString "upstream" with
      | none =>
        apply (Owns.releaseOpt Block.string q).call rfl fun _ he => he
        rintro _ _ rfl
        apply Owns.release (add_comm _ _)
        refine Owns.pure (.mk_nothing rfl fun _ => ?_)
        simp [hvalue, CJson.getCString, hupstream]
      | some upstream =>
        apply strdup_bind
        intro q' hq'
        apply Owns.pure
        refine .mk_nothing ?_ fun hfull => ?_
        · simp only [Option.elim_some, Node.own, netifBlock, List.map_cons, List.map_nil,
            List.sum_cons, List.sum_nil, one_some]
          abel
        · simp [hvalue, CJson.getCString, hname, hupstream, settingKinds, recordKinds, hq hfull,
            hq' hfull, add_left_comm, add_comm]

lemma createSetting_owns (type : NetifType) (param : CJson) :
    Owns 0 (createSetting mem type param) (SettingBuilt mem type param) E := by
  cases type with
  | veth => exact cmparserParseStaticNetifVethCreate_owns param
  | vxcan => exact cmparserParseStaticNetifVxcanCreate_owns param

lemma newNetif_owns (elem : CJson) :
    Owns 0 (newNetif mem elem)
      (Built Nothing (NeverFails mem) (Made.own NetifMem.own)
        ((parseStaticNetifElem elem).elim 0 netifElemKinds) fun m => m ≠ .aborted ∧ True) E := by
  rw [newNetif, parseStaticNetifElem]
  cases netifParam elem with
  | none => exact Owns.pure (.mk_nothing rfl fun _ => ⟨rfl, by simp⟩)
  | some netif =>
    obtain ⟨type, param⟩ := netif
    apply (createSetting_owns type param).call (zero_add _).symm fun _ he => he
    intro o R ho
    rw [ho.eq, add_zero]
    cases o with
    | none =>
      refine Owns.pure (.mk_nothing rfl fun hfull => ⟨?_, by simp⟩)
      have hnone : createNetif type param = none := by
        simpa using (ho.exact hfull).2.2.symm
      rw [Option.bind_some, hnone]
      rfl
    | some setting =>
      apply malloc_bind
      intro p hp
      cases p with
      | none =>
        apply (freeNode_owns (netifBlock type) setting).call (add_comm _ _) fun _ he => he
        rintro _ _ rfl
        exact Owns.pure (.mk_nothing rfl fun hfull => absurd rfl (hp hfull))
      | some self =>
        refine Owns.pure (.mk_nothing rfl fun hfull => ⟨?_, by simp⟩)
        rw [Multiset.map_add]
        have hkinds := ho.kinds_own hfull
        obtain ⟨e, he⟩ := Option.isSome_iff_exists.mp (ho.exact hfull).2.2.symm
        rw [he] at hkinds
        rw [Option.bind_some, he]
        exact congrArg (_ + ·) hkinds

lemma NetifMem.free_owns (p : NetifMem) : Owns p.own p.free (fun _ R => R = 0) E := by
  apply (freeNode_owns _ p.setting).call (add_comm _ _) fun _ he => he
  rintro _ _ rfl
  rw [zero_add]
  exact Owns.release_last _ _

/-- The interfaces of a list. -/
def netifsOwn (l : List NetifMem) : Blocks := (l.map NetifMem.own).sum

/-- The kinds of the static network interfaces of a config. -/
def netifKinds : List StaticNetifElem → Multiset Block := listKinds netifElemKinds

lemma freeNetifs_owns (l : List NetifMem) :
    Owns (netifsOwn l) (freeNetifs l) (fun _ R => R = 0) E :=
  Owns.forM_reverse NetifMem.free_owns l

lemma cmparserParseStaticNetif_owns (sni : List CJson) :
    Owns 0 (cmparserParseStaticNetif mem sni)
      (Built Nothing (NeverFails mem) (fun r => netifsOwn r.1)
        (netifKinds (ContainerManager.cmparserParseStaticNetif [] sni).1) fun r => r.2 = 0) E := by
  rw [ContainerManager.cmparserParseStaticNetif, List.nil_append, netifKinds, ← listKinds_filterMap]
  have hown (l : List NetifMem) (p : NetifMem) :
      netifsOwn (addTail l p) = netifsOwn l + p.own :=
    sum_addTail _ _ _
  exact parseOrFree_owns hown rfl freeNetifs_owns newNetif_owns sni

end ContainerManager.Memory

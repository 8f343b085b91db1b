import ContainerManager.Properties.ParserMemory.Sections

/-!
# What the base section holds

The root file system, the extra disks and the settings of the base section.
-/

namespace ContainerManager.Memory

open Ownership

variable {mem : ℕ → Bool} {E : Fault → Prop}

def RootfsMem.own (r : RootfsMem) : Blocks :=
  one .string r.path + one .string r.filesystem + one .string r.option +
    one .string r.rootfsDev.1 + one .string r.rootfsDev.2

def BaseMem.own (bc : BaseMem) : Blocks :=
  bc.rootfs.own + nodesOwn .extradisk bc.extradiskList + one .string bc.shmounts +
    one .string bc.halt + one .string bc.reboot + one .string bc.drop + one .string bc.keep +
    nodesOwn .env bc.envlist

/-- The kinds of the root file system of a config. -/
def rootfsKinds (r : RootFs) : Multiset Block :=
  stringKind r.path.isSome + stringKind r.filesystem.isSome + stringKind r.option.isSome +
    stringKind r.rootfsDev.1.isSome + stringKind r.rootfsDev.2.isSome

/-- The kinds of the extra disks of a config. -/
def extradiskKinds : List ExtraDisk → Multiset Block :=
  listKinds fun d => recordKinds .extradisk (extradiskStrings d)

/-- The kinds of the base section of a config. -/
def baseKinds (bc : BaseConfig) : Multiset Block :=
  rootfsKinds bc.rootfs + extradiskKinds bc.extradiskList + stringKind bc.shmounts.isSome +
    stringKind bc.lifecycle.halt.isSome + stringKind bc.lifecycle.reboot.isSome +
    stringKind bc.cap.drop.isSome + stringKind bc.cap.keep.isSome +
    listKinds (fun _ => recordKinds .env [true]) bc.envlist

@[simp] lemma rootfsMem_own_empty : ({} : RootfsMem).own = 0 := by simp [RootfsMem.own]

lemma RootfsMem.free_owns (r : RootfsMem) : Owns r.own r.free (fun _ R => R = 0) E := by
  have hsplit : r.own = one .string r.rootfsDev.2 + (one .string r.rootfsDev.1 +
      (one .string r.option + (one .string r.filesystem + one .string r.path))) := by
    rw [RootfsMem.own]
    abel
  apply (Owns.releaseOpt _ _).call hsplit fun _ he => he
  rintro _ _ rfl
  apply (Owns.releaseOpt _ _).call (zero_add _) fun _ he => he
  rintro _ _ rfl
  apply (Owns.releaseOpt _ _).call (zero_add _) fun _ he => he
  rintro _ _ rfl
  apply (Owns.releaseOpt _ _).call (zero_add _) fun _ he => he
  rintro _ _ rfl
  rw [zero_add]
  exact Owns.releaseOpt _ _

/-- The root file system was parsed as it should be. -/
abbrev RootfsBuilt (mem : ℕ → Bool) (value : RootFs × ℤ) : RootfsMem × ℤ → Blocks → Prop :=
  Built Nothing (NeverFails mem) (fun r => r.1.own) (rootfsKinds value.1) fun r => r.2 = value.2

lemma rootfsErrRet_owns (r : RootfsMem) {value : RootFs × ℤ}
    (h : NeverFails mem → rootfsKinds value.1 = 0 ∧ value.2 = -2) :
    Owns r.own (rootfsErrRet r) (RootfsBuilt mem value) E := by
  apply (RootfsMem.free_owns r).call (add_zero _).symm fun _ he => he
  rintro _ _ rfl
  rw [add_zero]
  refine Owns.pure (.mk_nothing rootfsMem_own_empty.symm fun hfull => ?_)
  obtain ⟨hkinds, hret⟩ := h hfull
  exact ⟨by rw [hkinds]; rfl, hret.symm⟩

@[simp] lemma rootfsKinds_errRet (r : RootFs) :
    rootfsKinds (ContainerManager.rootfsErrRet r) = 0 := by
  simp [rootfsKinds, ContainerManager.rootfsErrRet]

/-- The value that the two devices complete. -/
def devsValue (r : RootFs) (items : List CJson) : RootFs × ℤ :=
  if (CJson.firstTwo items).1.isNone then (ContainerManager.rootfsErrRet r, -2) else (r, 0)

lemma rootfsDevs_owns {r : RootfsMem} (hdev : r.rootfsDev = (none, none)) (items : List CJson)
    (value : RootFs) (hvalue : NeverFails mem → rootfsKinds value =
      r.own.map Prod.fst + stringKind (CJson.firstTwo items).1.isSome +
        stringKind (CJson.firstTwo items).2.isSome) :
    Owns r.own (rootfsDevs mem r items) (RootfsBuilt mem (devsValue value items)) E := by
  apply strdup_bind
  intro dev0 h0
  apply strdup_bind
  intro dev1 h1
  have hown : one .string dev1 + (one .string dev0 + r.own) =
      { r with rootfsDev := (dev0, dev1) }.own := by
    simp only [RootfsMem.own, hdev, one_none, add_zero]
    abel
  apply Owns.ite
  · intro hnone
    rw [hown]
    apply rootfsErrRet_owns
    intro hfull
    have hgiven : (CJson.firstTwo items).1.isNone := by
      rw [← Option.not_isSome, ← h0 hfull, hnone]
      rfl
    rw [devsValue, if_pos hgiven]
    exact ⟨rootfsKinds_errRet value, rfl⟩
  · intro hsome
    refine Owns.pure (.mk_nothing hown fun hfull => ?_)
    have hgiven : ¬ (CJson.firstTwo items).1.isNone = true := by
      rw [← Option.not_isSome, ← h0 hfull]
      simpa [Option.isSome_iff_ne_none] using hsome
    rw [devsValue, if_neg hgiven, hvalue hfull]
    simp only [Multiset.map_add, kinds_string, h0 hfull, h1 hfull]
    exact ⟨by abel, trivial⟩

lemma cmparserParseBaseRootfs_owns (rootfs : CJson) :
    Owns 0 (cmparserParseBaseRootfs mem rootfs)
      (RootfsBuilt mem (ContainerManager.cmparserParseBaseRootfs {} rootfs)) E := by
  rw [cmparserParseBaseRootfs, ContainerManager.cmparserParseBaseRootfs]
  cases rootfs.getString "path" with
  | none =>
    rw [← rootfsMem_own_empty]
    exact rootfsErrRet_owns {} fun _ => ⟨rootfsKinds_errRet {}, rfl⟩
  | some path =>
    apply strdup_bind
    intro p hp
    apply strdup_bind
    intro q hq
    apply strdup_bind
    intro o ho
    have hown : one .string o + (one .string q + (one .string p + 0)) =
        ({ path := p, filesystem := q, option := o } : RootfsMem).own := by
      simp only [RootfsMem.own, one_none, add_zero]
      abel
    -- what is given is what was copied
    have hkinds (hfull : NeverFails mem) (mode : DiskMountType) (type : DeviceType)
        (items : List CJson) : rootfsKinds
          { path := some path, filesystem := rootfs.getString "filesystem", mode := mode,
            option := rootfs.getString "option", deviceType := type,
            rootfsDev := CJson.firstTwo items } =
        ({ path := p, filesystem := q, option := o } : RootfsMem).own.map Prod.fst +
          stringKind (CJson.firstTwo items).1.isSome +
          stringKind (CJson.firstTwo items).2.isSome := by
      simp [RootfsMem.own, rootfsKinds, hp hfull, hq hfull, ho hfull]
    rw [hown]
    cases rootfs.getArray "blockdev" with
    | some blockdev =>
      apply Owns.ite
      · intro hnone
        apply rootfsErrRet_owns
        intro hfull
        have hgiven : (rootfs.getString "filesystem").isNone := by
          rw [← Option.not_isSome, ← hq hfull, hnone]
          rfl
        simp [hgiven]
      · intro hsome
        by_cases hgiven : (rootfs.getString "filesystem").isNone
        · have hfails : ¬ NeverFails mem := fun hfull => hsome (by
            rw [← Option.not_isSome_iff_eq_none, hq hfull]
            simpa using hgiven)
          apply (rootfsDevs_owns rfl blockdev {} fun hfull =>
            absurd hfull hfails).mono _ fun _ he => he
          intro r R hr
          exact ⟨hr.lost, fun hfull => absurd hfull hfails⟩
        · simp only [hgiven]
          exact rootfsDevs_owns rfl blockdev _ fun hfull => hkinds hfull _ _ _
    | none =>
      cases rootfs.getArray "hostpath" with
      | some hostpath => exact rootfsDevs_owns rfl hostpath _ fun hfull => hkinds hfull _ _ _
      | none => exact rootfsErrRet_owns _ fun _ => ⟨rootfsKinds_errRet _, rfl⟩

lemma nodesOwn_eq_zero {k : Block} {l : List Node} : nodesOwn k l = 0 ↔ l = [] := by
  cases l <;> simp [nodesOwn, Node.own]

lemma extradiskKinds_eq_zero {l : List ExtraDisk} : extradiskKinds l = 0 ↔ l = [] := by
  cases l <;> simp [extradiskKinds, listKinds, recordKinds]

lemma cmparserParseBaseExtradisk_owns (extradisk : List CJson) :
    Owns 0 (cmparserParseBaseExtradisk mem extradisk)
      (Built Nothing (NeverFails mem) (fun r => nodesOwn .extradisk r.1)
        (extradiskKinds (extradisk.filterMap parseExtradiskEntry))
        fun r => r.2 = if extradisk.filterMap parseExtradiskEntry = [] then -1 else 0) E := by
  have hdisk (disk : CJson) := @makeNode_owns mem E .extradisk
    ((parseExtradiskEntry disk).map extradiskStrings) _ (orAbort_own _)
    fun _ => orAbort_ne_aborted
  apply (collectList_owns hdisk extradisk).call (zero_add _).symm fun _ he => he
  rintro ⟨l, complete⟩ R hR
  rw [hR.eq, add_zero]
  refine Owns.pure (.mk_nothing rfl fun hfull => ?_)
  have hkinds : (nodesOwn .extradisk l).map Prod.fst =
      extradiskKinds (extradisk.filterMap parseExtradiskEntry) := by
    rw [extradiskKinds, ← listKinds_filterMap, nodesOwn, hR.kinds_own hfull]
    simp only [Option.elim_map]
    rfl
  have hempty : l = [] ↔ extradisk.filterMap parseExtradiskEntry = [] := by
    rw [← extradiskKinds_eq_zero, ← hkinds, Multiset.map_eq_zero, nodesOwn_eq_zero]
  have hcomplete : complete = true := (hR.exact hfull).2.2
  refine ⟨hkinds, ?_⟩
  simp [hcomplete, hempty]

lemma strdupDefault_bind {p : Option ℕ} {G : Blocks} {g : Option ℕ → Owning Block β}
    (hP : P = one .string p + G)
    (h : ∀ q, (NeverFails mem → q.isSome = true) → Owns (one .string q + G) (g q) S E) :
    Owns P (strdupDefault mem p >>= g) S E := by
  subst hP
  cases p with
  | none =>
    rw [one_none, zero_add]
    exact strdup_bind h
  | some id => exact h (some id) fun _ => rfl

lemma parseBaseRest_owns {rootfs : RootfsMem} {extradiskList : List Node} {bc : BaseConfig}
    {base : CJson} (hcap : bc.cap = {}) (henvlist : bc.envlist = [])
    (hshmounts : bc.shmounts = (base.getObject "extended").bind fun e => e.getString "shmounts")
    (hstart : NeverFails mem → (rootfs.own + nodesOwn .extradisk extradiskList).map Prod.fst =
      rootfsKinds bc.rootfs + extradiskKinds bc.extradiskList) :
    Owns (rootfs.own + nodesOwn .extradisk extradiskList)
      (parseBaseRest mem rootfs extradiskList base)
      (Built Nothing (NeverFails mem) BaseMem.own
        (baseKinds (ContainerManager.parseBaseRest bc base)) fun _ => True) E := by
  apply strdup_bind
  intro shmounts h1
  apply strdup_bind
  intro halt h2
  apply strdup_bind
  intro reboot h3
  apply strdupDefault_bind (add_left_comm _ _ _)
  intro halt' h2'
  apply strdupDefault_bind (add_left_comm _ _ _)
  intro reboot' h3'
  apply strdup_bind
  intro drop h4
  apply strdup_bind
  intro keep h5
  have henv (env : CJson) := @makeNode_owns mem E .env
    ((CJson.string? (some env)).map fun _ => [true]) _ (orSkip_own _)
    fun o _ => orSkip_ne_aborted o
  apply (collectList_owns henv (base.elements "environment")).call (zero_add _).symm fun _ he => he
  rintro ⟨env, complete⟩ R hR
  rw [hR.eq]
  apply Owns.pure
  refine .mk_nothing ?_ fun hfull => ⟨?_, trivial⟩
  · simp only [BaseMem.own, nodesOwn]
    abel
  · have henvKinds : ((env.map (Node.own .env)).sum).map Prod.fst =
        listKinds (fun _ => recordKinds .env [true])
          ((base.elements "environment").filterMap fun env => CJson.string? (some env)) := by
      rw [← listKinds_filterMap, hR.kinds_own hfull]
      simp only [Option.elim_map]
      rfl
    have hvalue : baseKinds (ContainerManager.parseBaseRest bc base) =
        rootfsKinds bc.rootfs + extradiskKinds bc.extradiskList +
          stringKind bc.shmounts.isSome + stringKind true + stringKind true +
          stringKind ((base.getObject "cap").bind fun c => c.getString "drop").isSome +
          stringKind ((base.getObject "cap").bind fun c => c.getString "keep").isSome +
          listKinds (fun _ => recordKinds .env [true])
            ((base.elements "environment").filterMap fun env => CJson.string? (some env)) := by
      simp [baseKinds, ContainerManager.parseBaseRest, hcap, henvlist, CJson.elements]
    simp only [hvalue, hshmounts, ← hstart hfull, Multiset.map_add, kinds_string, henvKinds,
      h1 hfull, h2' hfull, h3' hfull, h4 hfull, h5 hfull]
    abel

lemma parseBaseExtradisk_owns {bc : BaseConfig} (hbc : bc.extradiskList = []) (base : CJson) :
    Owns 0 (parseBaseExtradisk mem base)
      (Built Nothing (NeverFails mem) (fun r => nodesOwn .extradisk r.1)
        (extradiskKinds (ContainerManager.parseBaseExtradisk bc base).1.extradiskList)
        fun r => r.2 = (ContainerManager.parseBaseExtradisk bc base).2) E := by
  rw [parseBaseExtradisk, ContainerManager.parseBaseExtradisk]
  cases base.getArray "extradisk" with
  | none => exact Owns.pure (.mk_nothing rfl fun _ => ⟨by rw [hbc]; rfl, rfl⟩)
  | some extradisk =>
    simp only [ContainerManager.cmparserParseBaseExtradisk, hbc, List.nil_append]
    exact cmparserParseBaseExtradisk_owns extradisk

/-- The extra disks do not touch the rest of the section. -/
lemma parseBaseExtradisk_frame (bc : BaseConfig) (base : CJson) :
    (ContainerManager.parseBaseExtradisk bc base).1 =
      { bc with
        extradiskList := (ContainerManager.parseBaseExtradisk bc base).1.extradiskList } := by
  rw [ContainerManager.parseBaseExtradisk]
  cases base.getArray "extradisk" <;> rfl

/-- The value of `cmparser_parse_base` before its sections that can fail. -/
def baseStart (base : CJson) : BaseConfig where
  autoboot := CJson.isTrue (base.getObjectItemCaseSensitive "autoboot")
  bootpriority := (base.getNumber "bootpriority").getD 1000

/-- The value of `cmparser_parse_base` when there is a root file system. -/
lemma cmparserParseBase_rootfs {base rootfs : CJson} (h : base.getObject "rootfs" = some rootfs) :
    ContainerManager.cmparserParseBase {} base =
      parseThen (({ baseStart base with
          rootfs := (ContainerManager.cmparserParseBaseRootfs {} rootfs).1 } : BaseConfig),
        (ContainerManager.cmparserParseBaseRootfs {} rootfs).2) fun bc =>
        parseThen (ContainerManager.parseBaseExtradisk bc base) fun bc =>
          (ContainerManager.parseBaseRest { bc with
            shmounts := (base.getObject "extended").bind fun e => e.getString "shmounts" }
            base, 0) := by
  have hstart : ContainerManager.cmparserParseBase {} base =
      parseThen (parseBaseRootfs (baseStart base) base) fun bc =>
        parseThen (ContainerManager.parseBaseExtradisk bc base) fun bc =>
          parseThen (cmparserParseBaseExtended bc (base.getObject "extended")) fun bc =>
            (ContainerManager.parseBaseRest bc base, 0) := rfl
  rw [hstart, parseBaseRootfs, h]
  rfl

lemma cmparserParseBase_owns (base : CJson) :
    Owns 0 (cmparserParseBase mem base)
      (Built Nothing (NeverFails mem) (fun r => r.1.own)
        (baseKinds (ContainerManager.cmparserParseBase {} base).1) fun _ => True) E := by
  rw [cmparserParseBase]
  cases hrootfs : base.getObject "rootfs" with
  | none =>
    refine Owns.pure (.mk_nothing (by simp [BaseMem.own]) fun _ => ⟨?_, trivial⟩)
    simp [ContainerManager.cmparserParseBase, parseBaseRootfs, hrootfs, parseThen, baseKinds,
      rootfsKinds, extradiskKinds]
  | some rootfs =>
    rw [cmparserParseBase_rootfs hrootfs]
    apply (cmparserParseBaseRootfs_owns rootfs).call (zero_add _).symm fun _ he => he
    intro r R hr
    rw [hr.eq, add_zero]
    generalize ContainerManager.cmparserParseBaseRootfs {} rootfs = value at hr ⊢
    apply Owns.ite
    · intro hfail
      refine Owns.pure (.mk_nothing (by simp [BaseMem.own]) fun hfull => ⟨?_, trivial⟩)
      have hret : value.2 ≠ 0 := (hr.exact hfull).2.2 ▸ hfail
      rw [hr.kinds_own hfull, parseThen, if_pos hret]
      simp [baseKinds, baseStart, extradiskKinds]
    · intro hok
      let bc : BaseConfig := { baseStart base with rootfs := value.1 }
      have hbc : bc.extradiskList = [] := rfl
      apply (parseBaseExtradisk_owns hbc base).call (zero_add _).symm fun _ he => he
      intro e R' he
      rw [he.eq, add_comm]
      -- what the two sections left when no allocation fails
      have hret (hfull : NeverFails mem) : ¬ value.2 ≠ 0 := (hr.exact hfull).2.2 ▸ hok
      have hkinds (hfull : NeverFails mem) :
          (r.1.own + nodesOwn .extradisk e.1).map Prod.fst =
            rootfsKinds value.1 +
              extradiskKinds (ContainerManager.parseBaseExtradisk bc base).1.extradiskList := by
        rw [Multiset.map_add, hr.kinds_own hfull, he.kinds_own hfull]
      have hframe := parseBaseExtradisk_frame bc base
      apply Owns.ite
      · intro hfail
        refine Owns.pure (.mk_nothing (by simp [BaseMem.own]) fun hfull => ⟨?_, trivial⟩)
        have hret' : (ContainerManager.parseBaseExtradisk bc base).2 ≠ 0 :=
          (he.exact hfull).2.2 ▸ hfail
        rw [hkinds hfull, parseThen, if_neg (hret hfull), parseThen, if_pos hret', hframe]
        simp [baseKinds, bc, baseStart]
      · intro hok'
        let bc' : BaseConfig := { (ContainerManager.parseBaseExtradisk bc base).1 with
          shmounts := (base.getObject "extended").bind fun e => e.getString "shmounts" }
        have hcap : bc'.cap = {} := (congrArg BaseConfig.cap hframe :)
        have henv : bc'.envlist = [] := (congrArg BaseConfig.envlist hframe :)
        have hstart (hfull : NeverFails mem) :
            (r.1.own + nodesOwn .extradisk e.1).map Prod.fst =
              rootfsKinds bc'.rootfs + extradiskKinds bc'.extradiskList := by
          have hrootfs : bc'.rootfs = value.1 := (congrArg BaseConfig.rootfs hframe :)
          rw [hkinds hfull, hrootfs]
        apply (parseBaseRest_owns hcap henv rfl hstart).call (add_zero _).symm fun _ he => he
        intro b R'' hb
        rw [hb.eq, add_zero]
        refine Owns.pure (.mk_nothing rfl fun hfull => ⟨?_, trivial⟩)
        have hret' : ¬ (ContainerManager.parseBaseExtradisk bc base).2 ≠ 0 :=
          (he.exact hfull).2.2 ▸ hok'
        rw [hb.kinds_own hfull, parseThen, if_neg (hret hfull), parseThen, if_neg hret']

end ContainerManager.Memory

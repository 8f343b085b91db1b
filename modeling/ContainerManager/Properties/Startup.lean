import ContainerManager.Startup

/-!
# Resources are released once

What the pointers of the manager own is what is live: every setup function keeps to this, also when
it fails, and every cleanup function releases what the pointers it is given own.
-/

namespace ContainerManager.Startup

open Ownership

variable {E : Fault → Prop}

/-! ### What pointers own -/

/-- What a pointer to an event source owns. -/
def sourceOwned (k d : Kind) (s : Option EventSource) : Resources :=
  s.elim 0 fun s => {(k, s.self)} + one d s.fd

@[simp] lemma sourceOwned_none (k d : Kind) : sourceOwned k d none = 0 := rfl

@[simp] lemma sourceOwned_some (k d : Kind) (s : EventSource) :
    sourceOwned k d (some s) = {(k, s.self)} + one d s.fd := rfl

def Extif.owned (x : Extif) : Resources :=
  {(.extif, x.self)} + sourceOwned .serverSource .serverFd x.interfaceEvsource +
    sourceOwned .sessionSource .sessionFd x.interfaceSessionEvsource

def Mngsm.owned (cms : Mngsm) : Resources :=
  {(.mngsm, cms.self)} + one .procutil cms.prutl +
    sourceOwned .socketSource .primaryFd cms.socketSource + one .secondaryFd cms.secondaryFd +
    one .timerSource cms.timerSource + cms.cmExtIf.elim 0 Extif.owned

def DynamicUdev.owned (ddu : DynamicUdev) : Resources :=
  {(.dynamicUdev, ddu.self)} + one .udev ddu.pudev + one .udevMonitor ddu.pudevMonitor +
    one .udevSource ddu.libudevSource

def Netifmon.owned (nfm : Netifmon) : Resources :=
  {(.netifMonitor, nfm.self)} + one .netlinkSocket nfm.nl +
    one .netlinkSource nfm.ifmonitorSource

/-- The entries of the list of interfaces. -/
def entries (nllist : InterfaceList) : Resources :=
  (nllist.map fun nfi => {(Kind.netifInfo, nfi.2)}).sum

def DeviceManager.owned (ddm : DeviceManager) : Resources :=
  {(.deviceManager, ddm.self)} + ddm.ddu.elim 0 DynamicUdev.owned +
    ddm.netifmon.elim 0 Netifmon.owned + ddm.nllist.elim 0 entries

/-- The elements of an entry of the role list. -/
def elems (containerList : List ℕ) : Resources :=
  (containerList.map fun elem => {(Kind.roleElem, elem)}).sum

def Role.owned (c : Role) : Resources :=
  {(.role, c.self)} + one .roleName (c.name.map (·.2)) +
    elems c.containerList

/-- The entries of the role list. -/
def roles (roleList : List Role) : Resources := (roleList.map Role.owned).sum

/-- The configs of the guests. -/
def guestConfigs (guests : List ℕ) : Resources :=
  (guests.map fun cc => {(Kind.guestConfig, cc)}).sum

/-- What `create_container_configs` makes. -/
def Manager.configs (cs : Manager) : Resources :=
  {(.containers, cs.self)} + {(.managerConfig, cs.cmcfg)} + {(.guestArray, cs.containers)} +
    guestConfigs cs.guests + roles cs.roleList

/-- Event sources of the monitors. -/
def sources (l : List ℕ) : Resources := (l.map fun source => {(Kind.pidfdSource, source)}).sum

def Monitors.owned (m : Monitors) : Resources :=
  sources (m.pidfdSource.map Prod.snd) + sources m.overwritten +
    (m.pidfds.map fun pidfd => {(Kind.pidfd, pidfd)}).sum

@[simp] lemma Monitors.owned_empty : ({} : Monitors).owned = 0 := rfl

def Manager.owned (cs : Manager) : Resources :=
  cs.configs + cs.cms.elim 0 Mngsm.owned + one .controlInterface cs.cci +
    cs.ddm.elim 0 DeviceManager.owned + cs.monitors.owned

/-- The configs of the guests whose worker runs. -/
def Manager.running (cs : Manager) : Resources :=
  (cs.guests.zipIdx.map fun g =>
    if (cs.workqueue g.2).status = .started then {(Kind.guestConfig, g.1)} else 0).sum

/-- What the cleanup leaves: it knows nothing of the monitors. -/
def Manager.left (cs : Manager) : Resources := cs.running + cs.monitors.owned

/-! ### Releases -/

lemma disableUnref_owns (k d : Kind) (s : Option EventSource) :
    Owns (sourceOwned k d s) (disableUnref k d s) (fun _ R => R = 0) E := by
  cases s with
  | none => exact Owns.pure rfl
  | some s =>
    apply Owns.release rfl
    exact Owns.releaseOpt d s.fd

/-- A source that owns no descriptor is unreferenced. -/
lemma bareSource_owns (k d : Kind) (id : ℕ) :
    Owns {(k, id)} (disableUnref k d (some ⟨id, none⟩)) (fun _ R => R = 0) E := by
  simpa using disableUnref_owns k d (some ⟨id, none⟩)

/-! ### The state machine -/

/-- A setup function of the state machine ended: what the pointers own is live, and on success
those of the function are set. -/
def SetUp (ok : Prop) (cms : Mngsm) (Sets : Mngsm → Prop) (r : Mngsm × ℤ) (R : Resources) :
    Prop :=
  R = r.1.owned ∧ (r.2 < 0 ∧ ¬ ok ∧ r.1 = cms ∨ r.2 = 0 ∧ ok ∧ Sets r.1)

section SetUp

variable {ok : Prop} {cms cms' : Mngsm} {Sets : Mngsm → Prop}

lemma SetUp.failed (h : ¬ ok) : SetUp ok cms Sets (cms, -1) cms.owned :=
  ⟨rfl, Or.inl ⟨by simp, h, rfl⟩⟩

lemma SetUp.done {R : Resources} (h : ok) (hR : R = cms'.owned) (hs : Sets cms') :
    SetUp ok cms Sets (cms', 0) R :=
  ⟨hR, Or.inr ⟨rfl, h, hs⟩⟩

end SetUp

/-- All calls of the function succeed. -/
def CommsocketSys.Ok (sys : CommsocketSys) : Prop := sys.socketpair ∧ sys.addIo ∧ sys.setOwn

instance (sys : CommsocketSys) : Decidable sys.Ok := inferInstanceAs (Decidable (_ ∧ _))

lemma commsocketSetup_owns (sys : CommsocketSys) (cms : Mngsm) (h : cms.socketSource = none)
    (h' : cms.secondaryFd = none) :
    Owns cms.owned (containerMngsmCommsocketSetup sys cms)
      (SetUp sys.Ok cms fun c =>
        ∃ s fd, c = { cms with socketSource := some s, secondaryFd := fd }) E := by
  apply Owns.ite
  · exact fun hpair => Owns.pure (SetUp.failed fun hok => hpair hok.1)
  intro hpair
  apply Owns.acquire
  intro primary
  apply Owns.acquire
  intro secondary
  apply Owns.ite
  · intro hio
    apply Owns.release rfl
    apply Owns.release rfl
    exact Owns.pure (SetUp.failed fun hok => hio hok.2.1)
  intro hio
  apply Owns.acquire
  intro source
  apply Owns.ite
  · intro hown
    apply Owns.call (bareSource_owns _ _ _) rfl fun _ he => he
    rintro _ _ rfl
    rw [zero_add]
    apply Owns.release rfl
    apply Owns.release rfl
    exact Owns.pure (SetUp.failed fun hok => hown hok.2.2)
  intro hown
  apply Owns.pure
  apply SetUp.done ⟨not_not.mp hpair, not_not.mp hio, not_not.mp hown⟩ _ ⟨_, _, rfl⟩
  simp only [Mngsm.owned, h, h', sourceOwned_none, sourceOwned_some, one_none, one_some]
  abel

lemma commsocketCleanup_owns (cms : Mngsm) :
    Owns (sourceOwned .socketSource .primaryFd cms.socketSource + one .secondaryFd cms.secondaryFd)
      (containerMngsmCommsocketCleanup cms) (fun _ R => R = 0) E := by
  apply Owns.call (disableUnref_owns _ _ _) rfl fun _ he => he
  rintro _ _ rfl
  rw [zero_add]
  exact Owns.releaseOpt _ _

lemma timerSetup_owns (sys : TimerSys) (cms : Mngsm) (h : cms.timerSource = none) :
    Owns cms.owned (containerMngsmInternalTimerSetup sys cms)
      (SetUp (sys.addTime ∧ sys.setEnabled) cms fun c =>
        ∃ t, c = { cms with timerSource := t }) E := by
  apply Owns.ite
  · exact fun hadd => Owns.pure (SetUp.failed fun hok => hadd hok.1)
  intro hadd
  apply Owns.acquire
  intro source
  apply Owns.ite
  · intro hset
    apply Owns.release rfl
    exact Owns.pure (SetUp.failed fun hok => hset hok.2)
  intro hset
  apply Owns.pure
  apply SetUp.done ⟨not_not.mp hadd, not_not.mp hset⟩ _ ⟨_, rfl⟩
  simp only [Mngsm.owned, h, one_none, one_some]
  abel

/-- All calls of the function succeed. -/
def ExtifSys.Ok (sys : ExtifSys) : Prop :=
  sys.malloc ∧ sys.socket ∧ (sys.bind ∧ sys.listen ∧ sys.addIo) ∧ sys.setOwn

instance (sys : ExtifSys) : Decidable sys.Ok := inferInstanceAs (Decidable (_ ∧ _))

lemma externalInterfaceSetup_owns (sys : ExtifSys) (cms : Mngsm) (h : cms.cmExtIf = none) :
    Owns cms.owned (containerExternalInterfaceSetup sys cms)
      (SetUp sys.Ok cms fun c => ∃ x, c = { cms with cmExtIf := some x }) E := by
  apply Owns.ite
  · exact fun hmalloc => Owns.pure (SetUp.failed fun hok => hmalloc hok.1)
  intro hmalloc
  apply Owns.acquire
  intro self
  apply Owns.ite
  · intro hsocket
    apply Owns.release rfl
    exact Owns.pure (SetUp.failed fun hok => hsocket hok.2.1)
  intro hsocket
  apply Owns.acquire
  intro fd
  apply Owns.ite
  · intro hlisten
    apply Owns.release (add_left_comm _ _ _)
    apply Owns.release rfl
    exact Owns.pure (SetUp.failed fun hok => hlisten hok.2.2.1)
  intro hlisten
  apply Owns.acquire
  intro source
  apply Owns.ite
  · intro hown
    apply Owns.call (bareSource_owns _ _ _) rfl fun _ he => he
    rintro _ _ rfl
    rw [zero_add]
    apply Owns.release (add_left_comm _ _ _)
    apply Owns.release rfl
    exact Owns.pure (SetUp.failed fun hok => hown hok.2.2.2)
  intro hown
  apply Owns.pure
  apply SetUp.done ⟨not_not.mp hmalloc, not_not.mp hsocket, not_not.mp hlisten, not_not.mp hown⟩
    _ ⟨_, rfl⟩
  simp only [Mngsm.owned, Extif.owned, h, Option.elim_none, Option.elim_some, sourceOwned_none,
    sourceOwned_some, one_some]
  abel

lemma externalInterfaceCleanup_owns (cms : Mngsm) :
    Owns (cms.cmExtIf.elim 0 Extif.owned) (containerExternalInterfaceCleanup cms)
      (fun _ R => R = 0) E := by
  simp only [containerExternalInterfaceCleanup]
  cases cms.cmExtIf with
  | none => exact Owns.pure rfl
  | some pextif =>
    apply Owns.call (disableUnref_owns _ _ _) (add_comm _ _) fun _ he => he
    rintro _ _ rfl
    rw [zero_add]
    apply Owns.call (disableUnref_owns _ _ _) (add_comm _ _) fun _ he => he
    rintro _ _ rfl
    rw [zero_add]
    exact Owns.release_last _ _

lemma doSystem_owns (sys : SystemSys) (cms : Mngsm) (h : cms.prutl = none) :
    Owns cms.owned (containerMngsmDoSystem sys cms)
      (fun r R => R = r.1.owned ∧ (∃ p, r.1 = { cms with prutl := p }) ∧
        (r.2 < 0 ∧ ¬ (sys.procutil ∧ sys.cgroup) ∨ r.2 = 0 ∧ sys.procutil ∧ sys.cgroup)) E := by
  apply Owns.ite
  · intro hpu
    exact Owns.pure ⟨rfl, ⟨none, by rw [← h]⟩, Or.inl ⟨by simp, fun hok => hpu hok.1⟩⟩
  intro hpu
  apply Owns.acquire
  intro pu
  apply Owns.pure
  refine ⟨?_, ⟨_, rfl⟩, ?_⟩
  · simp only [Mngsm.owned, h, one_none, one_some]
    abel
  · dsimp only
    split_ifs with hcgroup
    · exact Or.inr ⟨rfl, not_not.mp hpu, hcgroup⟩
    · exact Or.inl ⟨by simp, fun hok => hcgroup hok.2⟩

/-- The state machine releases all that it owns. -/
lemma cleanupMngsm_owns (cms : Option Mngsm) :
    Owns (cms.elim 0 Mngsm.owned) (cleanupMngsm cms) (fun _ R => R = 0) E := by
  cases cms with
  | none => exact Owns.pure rfl
  | some cms =>
    apply Owns.call (externalInterfaceCleanup_owns cms) (add_comm _ _) fun _ he => he
    rintro _ _ rfl
    rw [zero_add]
    apply Owns.call (Owns.releaseOpt Kind.timerSource cms.timerSource) (add_comm _ _) fun _ he => he
    rintro _ _ rfl
    rw [zero_add]
    apply Owns.call (commsocketCleanup_owns cms) (by rw [add_assoc, add_comm]) fun _ he => he
    rintro _ _ rfl
    rw [zero_add]
    apply Owns.call (Owns.releaseOpt Kind.procutil cms.prutl) (add_comm _ _) fun _ he => he
    rintro _ _ rfl
    rw [zero_add]
    exact Owns.release_last _ _

/-! ### Configs -/

lemma elems_cons (elem : ℕ) (l : List ℕ) :
    elems (elem :: l) = {(Kind.roleElem, elem)} + elems l := by
  rw [elems, List.map_cons, List.sum_cons, ← elems]

lemma roles_append (l : List Role) (c : Role) : roles (l ++ [c]) = roles l + c.owned := by
  rw [roles, List.map_append, List.sum_append, List.map_singleton, List.sum_singleton, ← roles]

lemma addGuest_owned (c : Role) (autoboot : Bool) (elem : ℕ) :
    (c.addGuest autoboot elem).owned = {(Kind.roleElem, elem)} + c.owned := by
  cases autoboot with
  | false =>
    simp only [Role.addGuest, Role.owned, elems, List.map_append, List.sum_append,
      List.map_singleton, List.sum_singleton, Bool.false_eq_true, if_false]
    abel
  | true =>
    simp only [Role.addGuest, Role.owned, elems_cons, if_true]
    abel

/-- The entries keep their names. -/
lemma addToRole_owns (sys : BindSys) (cc : ContainerConfig) (c : Role × ℕ) :
    Owns c.1.owned (addToRole sys cc c) (fun c' R => R = c'.owned ∧ c'.name = c.1.name) E := by
  apply Owns.ite
  · intro _
    apply Owns.acquire
    intro elem
    exact Owns.pure ⟨(addGuest_owned _ _ _).symm, rfl⟩
  · exact fun _ => Owns.pure ⟨rfl, rfl⟩

/-- Some entry of the role list has a name. -/
def Named (roleList : List Role) : Prop := ∃ c ∈ roleList, c.name.isSome = true

/-- If the guest's role has no entry, an entry with its name is created. -/
def BindSys.Names (sys : BindSys) : Prop := sys.ccRole ∧ sys.role ∧ sys.name ∧ sys.terminator

instance (sys : BindSys) : Decidable sys.Names := inferInstanceAs (Decidable (_ ∧ _))

/-- The guest's role is null, and it is read for the entries or for a new one. -/
def BindSys.ReadsNull (sys : BindSys) (named : Prop) : Prop :=
  sys.ccRole = false ∧ (sys.role = true ∨ named)

lemma createRole_owns (sys : BindSys) (cc : ContainerConfig) (roleList : List Role) :
    Owns (roles roleList) (createRole sys cc roleList) (fun l R => R = roles l ∧
      (Named l ↔ Named roleList ∨ sys.role ∧ sys.name ∧ sys.terminator)) E := by
  apply Owns.ite
  swap
  · exact fun hrole => Owns.pure ⟨rfl, by simp [hrole]⟩
  intro hrole
  apply Owns.acquire
  intro self
  apply Owns.acquireIf
  intro name hisSome
  apply Owns.ite
  · intro hterminator
    apply Owns.acquire
    intro terminator
    apply Owns.acquireIf
    intro first _
    apply Owns.pure
    constructor
    swap
    · have hlast (c : Role) : ((first.map (c.addGuest cc.baseconfig.autoboot)).getD c).name =
          c.name := by cases first <;> rfl
      simp [Named, or_and_right, exists_or, hlast, hisSome, hrole, hterminator]
    have hname : (name.map (cc.role, ·)).map (·.2) = name := by cases name <;> rfl
    rw [roles_append]
    cases first with
    | none =>
      simp only [one_none, zero_add, Option.map_none, Option.getD_none, Role.owned, hname]
      rw [elems_cons]
      abel
    | some first =>
      rw [one_some, Option.map_some, Option.getD_some, addGuest_owned]
      simp only [Role.owned, hname, elems_cons]
      abel
  · intro hterminator
    apply Owns.call (Owns.releaseOpt _ _) rfl fun _ he => he
    rintro _ _ rfl
    rw [zero_add]
    apply Owns.release rfl
    exact Owns.pure ⟨rfl, by simp [hterminator]⟩

/-- The role list has a name after a guest, if it had one or the guest creates one. -/
lemma bindContainer_owns (sys : BindSys) (cc : ContainerConfig) (roleList : List Role) :
    Owns (roles roleList) (bindContainer sys cc roleList)
      (fun l R => R = roles l ∧ ¬ sys.ReadsNull (Named roleList) ∧
        (Named l ↔ Named roleList ∨ sys.Names))
      (fun f => f = .null ∧ sys.ReadsNull (Named roleList)) := by
  have hany : (roleList.any fun c => c.name.isSome) = true ↔ Named roleList := by
    simp [Named]
  apply Owns.ite
  · intro hnull
    have hnull : sys.ccRole = false := by simpa using hnull
    apply Owns.ite
    · intro hread
      rw [← bind_pure (deref none)]
      exact Owns.null ⟨rfl, hnull, hread.symm.imp_right hany.mp⟩
    · intro hread
      refine Owns.pure ⟨rfl, fun h => hread (h.2.symm.imp_left hany.mpr), ?_⟩
      simp [BindSys.Names, hnull]
  intro hrole
  have hrole : sys.ccRole = true := by simpa using hrole
  have hnone : ¬ sys.ReadsNull (Named roleList) := fun h => by
    simp [BindSys.ReadsNull, hrole] at h
  apply Owns.ite
  · intro hfound
    have hroles : (roleList.zipIdx.map fun c => c.1.owned).sum = roles roleList := by
      rw [roles, ← List.zipIdx_map_fst 0 roleList, List.map_map]
      simp [Function.comp_def]
    have hnamed : Named roleList := by
      obtain ⟨c, hc, hname⟩ := List.any_eq_true.mp hfound
      exact ⟨c, hc, by cases h : c.name <;> simp [h] at hname ⊢⟩
    rw [← hroles]
    apply (Owns.mapM (addToRole_owns sys cc) _).mono _ fun f he => he
    rintro l _ ⟨rfl, hl⟩
    refine ⟨rfl, hnone, iff_of_true ?_ (Or.inl hnamed)⟩
    -- each entry keeps its name
    obtain ⟨_, hc, hname⟩ := hnamed
    obtain ⟨i, hi, rfl⟩ := List.mem_iff_getElem.mp hc
    have hi' : i < l.length := by simpa [← hl.length_eq] using hi
    have hkeep : l[i].name = roleList[i].name := by
      simpa using hl.get (by simpa using hi) hi'
    exact ⟨l[i], List.getElem_mem hi', by rw [hkeep, hname]⟩
  · intro _
    apply (createRole_owns sys cc roleList).mono _ fun f he => he
    rintro l _ ⟨rfl, hl⟩
    exact ⟨rfl, hnone, by simpa [BindSys.Names, hrole] using hl⟩

lemma roleListCleanup_owns (roleList : List Role) :
    Owns (roles roleList) (roleListCleanup roleList) (fun _ R => R = 0) E := by
  apply Owns.forM_reverse
  intro c
  apply Owns.call (Owns.forM_reverse (Owns.release_last Kind.roleElem) _) (add_comm _ _)
    fun _ he => he
  rintro _ _ rfl
  rw [zero_add]
  apply Owns.call (Owns.releaseOpt _ _) (add_comm _ _) fun _ he => he
  rintro _ _ rfl
  rw [zero_add]
  exact Owns.release_last _ _

/-- What the scan of the directory found. -/
def ConfigsSys.scan (sys : ConfigsSys) : Option ConfigScan :=
  (sys.config.manager.bind fun json => (cmparserManagerCreateFromFile json).1).bind fun cm =>
    (scanConfigDir sys.config (.ofString cm.configdir)).map (·.2)

/-- The number of guests that the role list is made for: there is a config of a guest, and there is
memory. -/
def ConfigsSys.bound (sys : ConfigsSys) : Option ℕ :=
  sys.scan.bind fun scan =>
    if scan.ca ≠ [] ∧ sys.containers ∧ sys.guestArray then some (sys.config.qsort scan.ca).length
    else none

/-- A guest whose role is null is looked up among entries with names, or gets a new entry. -/
def ConfigsSys.NullRole (sys : ConfigsSys) (guests : ℕ) : Prop :=
  ∃ k < guests, (sys.bind k).ReadsNull (∃ j < k, (sys.bind j).Names)

instance (sys : ConfigsSys) : DecidablePred sys.NullRole := fun _ =>
  inferInstanceAs (Decidable (∃ _, _ < _ ∧ (_ = _ ∧ (_ ∨ _))))

/-- The role list is made. -/
def ConfigsSys.Ok (sys : ConfigsSys) : Prop :=
  sys.configdir ∧ ∃ guests ∈ sys.bound, ¬ sys.NullRole guests

instance (sys : ConfigsSys) : Decidable sys.Ok := inferInstanceAs (Decidable (_ ∧ _))

/-- The path of the config directory is null, or the role of a guest. -/
def ConfigsSys.ReadsNull (sys : ConfigsSys) : Prop :=
  (sys.config.manager.bind fun json => (cmparserManagerCreateFromFile json).1).isSome ∧
    (sys.configdir = false ∨ ∃ guests ∈ sys.bound, sys.NullRole guests)

lemma ConfigsSys.Ok.not_readsNull {sys : ConfigsSys} (h : sys.Ok) : ¬ sys.ReadsNull := by
  obtain ⟨hdir, guests, hbound, hrole⟩ := h
  rintro ⟨-, hnull | ⟨guests', hbound', hrole'⟩⟩
  · simp [hdir] at hnull
  · obtain rfl := Option.mem_unique hbound hbound'
    exact hrole hrole'

/-- How many guests there are configs of. -/
def ConfigsSys.guestCount (sys : ConfigsSys) : ℕ := sys.scan.elim 0 fun scan => scan.ca.length

/-- The workqueues of the guests at first. -/
def ConfigsSys.workqueues (sys : ConfigsSys) (i : ℕ) : Workqueue :=
  (containerWorkqueueInitialize (sys.config.mutexInit i)).1

/-- The path of the directory is empty, and the config of the manager is not released. -/
def ConfigsSys.leaked (sys : ConfigsSys) : Multiset Kind :=
  if (sys.config.manager.bind fun json => (cmparserManagerCreateFromFile json).1).isSome ∧
    sys.scan.isNone then {.managerConfig} else 0

lemma ConfigsSys.Ok.leaked {sys : ConfigsSys} (h : sys.Ok) : sys.leaked = 0 := by
  obtain ⟨-, guests, hbound, -⟩ := h
  obtain ⟨scan, hscan, -⟩ := Option.bind_eq_some_iff.mp hbound
  simp [ConfigsSys.leaked, hscan]

/-- The manager after its configs were read. -/
structure Manager.Fresh (sys : ConfigsSys) (cs : Manager) : Prop where
  cms : cs.cms = none
  cci : cs.cci = none
  ddm : cs.ddm = none
  guests : cs.guests.length = sys.guestCount
  workqueue : cs.workqueue = sys.workqueues
  monitors : cs.monitors = {}

lemma createErrRet_owns (cmcfg : ℕ) (guests : List ℕ) (containers : Option ℕ) :
    Owns (one .containers containers + guestConfigs guests + {(.managerConfig, cmcfg)})
      (createErrRet cmcfg guests containers) (fun r R => r = none ∧ R = 0) E := by
  apply Owns.call (Owns.forM_release (Owns.release_last Kind.guestConfig) guests)
    (by rw [add_comm (one _ _), add_assoc]; rfl) fun _ he => he
  rintro _ _ rfl
  rw [zero_add]
  apply Owns.call (Owns.releaseOpt _ _) rfl fun _ he => he
  rintro _ _ rfl
  rw [zero_add]
  apply Owns.release (add_zero _).symm
  exact Owns.pure ⟨rfl, rfl⟩

/-- The end of `create_container_configs`. -/
def Created (sys : ConfigsSys) (r : Option Manager) (R : Resources) : Prop :=
  r = none ∧ ¬ sys.Ok ∧ ¬ sys.ReadsNull ∧ R.map Prod.fst = sys.leaked ∨
    ∃ cs, r = some cs ∧ sys.Ok ∧ R = cs.configs ∧ cs.Fresh sys

lemma acquireGuests_owns (ca : List ContainerConfig) :
    Owns 0 (ca.mapM fun _ => acquire Kind.guestConfig)
      (fun ids R => R = guestConfigs ids ∧ ids.length = ca.length) E := by
  have hacquire (_ : ContainerConfig) :
      Owns 0 (acquire Kind.guestConfig) (fun id R => R = {(Kind.guestConfig, id)} ∧ True) E := by
    rw [← bind_pure (acquire Kind.guestConfig)]
    exact Owns.acquire fun id => Owns.pure ⟨add_zero _, trivial⟩
  have hguests := Owns.mapM hacquire ca
  rw [List.map_const', List.sum_replicate, nsmul_zero] at hguests
  apply hguests.mono _ fun _ he => he
  rintro ids _ ⟨rfl, hids⟩
  exact ⟨rfl, hids.length_eq.symm⟩

/-- The guests from the position on are bound. -/
lemma bindGuests_owns (bind : ℕ → BindSys) (ca : List ContainerConfig) (k : ℕ)
    {roleList : List Role} (h : Named roleList ↔ ∃ j < k, (bind j).Names) :
    Owns (roles roleList)
      ((ca.zipIdx k).foldlM (fun l g => bindContainer (bind g.2) g.1 l) roleList)
      (fun l R => R = roles l ∧ ∀ i, k ≤ i → i < k + ca.length →
        ¬ (bind i).ReadsNull (∃ j < i, (bind j).Names))
      (fun f => f = .null ∧ ∃ i < k + ca.length, (bind i).ReadsNull (∃ j < i, (bind j).Names)) := by
  induction ca generalizing k roleList with
  | nil => exact Owns.pure ⟨rfl, fun i hi hlt => absurd hlt (not_lt.mpr hi)⟩
  | cons cc ca ih =>
    rw [List.zipIdx_cons, List.foldlM_cons]
    apply Owns.bind
    have hbind := bindContainer_owns (bind k) cc roleList
    rw [propext h] at hbind
    apply hbind.mono
    · rintro l _ ⟨rfl, hnull, hnamed⟩
      have hnext : Named l ↔ ∃ j < k + 1, (bind j).Names := by
        rw [hnamed]
        simp only [Nat.lt_succ_iff_lt_or_eq, or_and_right, exists_or, exists_eq_left]
      apply (ih (k + 1) hnext).mono
      · rintro l' _ ⟨rfl, hall⟩
        refine ⟨rfl, fun i hi hlt => ?_⟩
        rcases hi.eq_or_lt with rfl | hi
        · exact hnull
        · exact hall i hi (by simpa [add_assoc, add_comm 1] using hlt)
      · rintro f ⟨rfl, i, hi, hnull⟩
        exact ⟨rfl, i, by simpa [add_assoc, add_comm 1] using hi, hnull⟩
    · rintro f ⟨rfl, hnull⟩
      exact ⟨rfl, k, by simp, hnull⟩

lemma createContainers_owns (sys : ConfigsSys) (cmcfg : ℕ) {scan : ConfigScan}
    (h : sys.scan = some scan) (hdir : sys.configdir = true) :
    Owns {(.managerConfig, cmcfg)} (createContainers sys cmcfg scan) (Created sys)
      (fun f => f = .null ∧ ∃ guests ∈ sys.bound, sys.NullRole guests) := by
  have herr (hno : ¬ (scan.ca ≠ [] ∧ sys.containers ∧ sys.guestArray)) (r : Option Manager)
      (R : Resources) (hr : r = none ∧ R = 0) : Created sys r R := by
    have hbound : sys.bound = none := by
      rw [ConfigsSys.bound, h, Option.bind_some, if_neg hno]
    refine Or.inl ⟨hr.1, ?_, ?_, by simp [hr.2, ConfigsSys.leaked, h]⟩
    · simp [ConfigsSys.Ok, hbound]
    · simp [ConfigsSys.ReadsNull, hbound, hdir]
  apply Owns.call (acquireGuests_owns scan.ca) (zero_add _).symm fun _ he => he
  rintro guests _ ⟨rfl, hlength⟩
  apply Owns.ite
  · intro hno
    rw [← zero_add (guestConfigs guests)]
    apply (createErrRet_owns cmcfg guests none).mono (herr _) fun _ he => he
    rintro ⟨hca, hcontainers, -⟩
    rcases hno with hnil | hno
    · exact hca (List.length_eq_zero_iff.mp hnil)
    · exact hno hcontainers
  intro hfound
  apply Owns.acquire
  intro self
  apply Owns.ite
  · intro harray
    rw [← add_assoc]
    exact (createErrRet_owns cmcfg guests (some self)).mono
      (herr fun hyes => harray hyes.2.2) fun _ he => he
  intro harray
  apply Owns.acquire
  intro containers
  obtain ⟨hca, hcontainers⟩ := not_or.mp hfound
  have hbound : sys.bound = some (sys.config.qsort scan.ca).length := by
    rw [ConfigsSys.bound, h, Option.bind_some, if_pos]
    exact ⟨fun hnil => hca (List.length_eq_zero_iff.mpr hnil), not_not.mp hcontainers,
      not_not.mp harray⟩
  have hnone : Named [] ↔ ∃ j < 0, (sys.bind j).Names := by simp [Named]
  have hroles := bindGuests_owns sys.bind (sys.config.qsort scan.ca) 0 hnone
  rw [zero_add] at hroles
  apply Owns.call hroles (zero_add _).symm
  · rintro f ⟨rfl, hnull⟩
    exact ⟨rfl, _, hbound, hnull⟩
  rintro roleList _ ⟨rfl, hall⟩
  apply Owns.pure
  right
  refine ⟨_, rfl, ⟨hdir, _, hbound, ?_⟩, ?_, ?_⟩
  · rintro ⟨i, hi, hnull⟩
    exact hall i (Nat.zero_le i) hi hnull
  · simp only [Manager.configs]
    abel
  · exact ⟨rfl, rfl, rfl, by simp [ConfigsSys.guestCount, h, hlength], rfl, rfl⟩

lemma createContainerConfigs_owns (sys : ConfigsSys) :
    Owns 0 (createContainerConfigs sys) (Created sys) (fun f => f = .null ∧ sys.ReadsNull) := by
  simp only [createContainerConfigs]
  cases hcm : sys.config.manager.bind fun json => (cmparserManagerCreateFromFile json).1 with
  | none =>
    apply Owns.pure
    left
    simp [ConfigsSys.Ok, ConfigsSys.ReadsNull, ConfigsSys.bound, ConfigsSys.leaked,
      ConfigsSys.scan, hcm]
  | some cm =>
    apply Owns.acquire
    intro cmcfg
    cases hdir : sys.configdir with
    | false => exact Owns.null ⟨rfl, by simp [hcm], Or.inl hdir⟩
    | true =>
      simp only [if_true, deref, pure_bind]
      cases hscan : scanConfigDir sys.config (.ofString cm.configdir) with
      | none =>
        apply Owns.pure
        left
        simp [ConfigsSys.Ok, ConfigsSys.ReadsNull, ConfigsSys.bound, ConfigsSys.leaked,
          ConfigsSys.scan, hcm, hscan, hdir]
      | some p =>
        rw [add_zero]
        apply (createContainers_owns sys cmcfg (by simp [ConfigsSys.scan, hcm, hscan]) hdir).mono
          fun _ _ h => h
        rintro f ⟨rfl, hnull⟩
        exact ⟨rfl, by simp [hcm], Or.inr hnull⟩

lemma releaseGuest_owns (cs : Manager) (g : ℕ × ℕ) :
    Owns {(Kind.guestConfig, g.1)}
      (if ( containerWorkqueueDeinitialize (cs.workqueue g.2)).2 ≠ -2 then release .guestConfig g.1
        else pure ())
      (fun _ R =>
        R = if (cs.workqueue g.2).status = .started then {(Kind.guestConfig, g.1)} else 0) E := by
  by_cases hstarted : (cs.workqueue g.2).status = .started
  · simp only [ containerWorkqueueDeinitialize, hstarted, if_true, ne_eq, not_true, if_false]
    exact Owns.pure rfl
  · simp only [ containerWorkqueueDeinitialize, hstarted, if_false]
    exact Owns.release_last _ _

/-- The configs of guests whose worker runs are left. -/
lemma releaseContainerConfigs_owns (cs : Manager) :
    Owns cs.configs (releaseContainerConfigs cs) (fun _ R => R = cs.running) E := by
  have hguests : guestConfigs cs.guests =
      (cs.guests.zipIdx.map fun g => {(Kind.guestConfig, g.1)}).sum := by
    rw [guestConfigs]
    conv_lhs => rw [← List.zipIdx_map_fst 0 cs.guests, List.map_map]
    rfl
  have hrest : Owns
      ({(Kind.containers, cs.self)} + {(Kind.managerConfig, cs.cmcfg)} +
        {(Kind.guestArray, cs.containers)})
      (do
        release Kind.guestArray cs.containers
        release Kind.managerConfig cs.cmcfg
        release Kind.containers cs.self) (fun _ R => R = 0) E := by
    apply Owns.release (add_comm _ _)
    apply Owns.release (add_comm _ _)
    exact Owns.release_last _ _
  rw [Manager.configs, hguests]
  apply Owns.call (roleListCleanup_owns cs.roleList) (add_comm _ _) fun _ he => he
  rintro _ _ rfl
  rw [zero_add]
  apply Owns.call (Owns.forM (releaseGuest_owns cs) _) (add_comm _ _) fun _ he => he
  rintro _ _ rfl
  apply hrest.last (add_comm _ _) fun _ he => he
  rintro _ _ rfl
  rw [zero_add]
  rfl

/-! ### Setup and cleanup of the manager -/

/-- All steps of the setup of the state machine succeed. -/
def SetupSys.MngsmOk (sys : SetupSys) : Prop :=
  (sys.system.procutil ∧ sys.system.cgroup) ∧ sys.commsocket.Ok ∧
    (sys.timer.addTime ∧ sys.timer.setEnabled) ∧ sys.extif.Ok

instance (sys : SetupSys) : Decidable sys.MngsmOk := inferInstanceAs (Decidable (_ ∧ _))

def SetupSys.Ok (sys : SetupSys) : Prop := sys.configs.Ok ∧ sys.malloc ∧ sys.MngsmOk

instance (sys : SetupSys) : Decidable sys.Ok := inferInstanceAs (Decidable (_ ∧ _))

lemma setupMngsm_owns (sys : SetupSys) (self : ℕ) :
    Owns {(.mngsm, self)} (setupMngsm sys { self := self })
      (fun r R => R = r.1.owned ∧ (r.2 < 0 ∧ ¬ sys.MngsmOk ∨
        r.2 = 0 ∧ sys.MngsmOk ∧ r.1.socketSource ≠ none)) E := by
  have hstart : {(Kind.mngsm, self)} = ({ self := self } : Mngsm).owned := by simp [Mngsm.owned]
  rw [hstart, ← add_zero (Mngsm.owned _)]
  apply Owns.call (doSystem_owns sys.system _ rfl) rfl fun _ he => he
  rintro ⟨cms, ret⟩ _ ⟨rfl, ⟨p, rfl⟩, hsystem⟩
  apply Owns.ite
  · intro hret
    apply Owns.pure
    refine ⟨add_zero _, Or.inl ⟨hret, fun hok => ?_⟩⟩
    rcases hsystem with ⟨-, hno⟩ | ⟨hzero, -⟩
    · exact hno hok.1
    · exact absurd hret (not_lt.mpr hzero.ge)
  intro hret
  have hsystem : sys.system.procutil ∧ sys.system.cgroup :=
    hsystem.elim (fun h => absurd h.1 hret) And.right
  apply Owns.call (commsocketSetup_owns sys.commsocket _ rfl rfl) rfl fun _ he => he
  rintro ⟨cms, ret⟩ _ ⟨rfl, ⟨hneg, hno, -⟩ | ⟨hzero, hcommsocket, s, fd, rfl⟩⟩
  · rw [if_pos hneg]
    exact Owns.pure ⟨add_zero _, Or.inl ⟨hneg, fun hok => hno hok.2.1⟩⟩
  obtain rfl : ret = 0 := hzero
  apply Owns.call (timerSetup_owns sys.timer _ rfl) rfl fun _ he => he
  rintro ⟨cms, ret⟩ _ ⟨rfl, ⟨hneg, hno, -⟩ | ⟨hzero, htimer, t, rfl⟩⟩
  · rw [if_pos hneg]
    exact Owns.pure ⟨add_zero _, Or.inl ⟨hneg, fun hok => hno hok.2.2.1⟩⟩
  obtain rfl : ret = 0 := hzero
  apply (externalInterfaceSetup_owns sys.extif _ rfl).last rfl fun _ he => he
  rintro ⟨cms, ret⟩ _ ⟨rfl, ⟨hneg, hno, -⟩ | ⟨hzero, hextif, x, rfl⟩⟩
  · exact ⟨add_zero _, Or.inl ⟨hneg, fun hok => hno hok.2.2.2⟩⟩
  · exact ⟨add_zero _, Or.inr ⟨hzero, ⟨hsystem, hcommsocket, htimer, hextif⟩, by simp⟩⟩

lemma workqueues_idle (sys : ConfigsSys) (i : ℕ) : (sys.workqueues i).status ≠ .started := by
  simp only [ConfigsSys.workqueues, containerWorkqueueInitialize]
  split_ifs <;> simp

/-- Before any worker was started, no config is left. -/
lemma running_idle {sys : ConfigsSys} {cs : Manager} (h : cs.workqueue = sys.workqueues) :
    cs.running = 0 := by
  simp [Manager.running, h, workqueues_idle]

/-- The manager after its setup. -/
structure Manager.Prepared (sys : ConfigsSys) (cs : Manager) : Prop where
  cci : cs.cci = none
  ddm : cs.ddm = none
  guests : cs.guests.length = sys.guestCount
  workqueue : cs.workqueue = sys.workqueues
  monitors : cs.monitors = {}
  socket : ∃ cms ∈ cs.cms, cms.socketSource ≠ none

/-- The end of `container_mngsm_setup`. -/
def Prepares (sys : SetupSys) (r : Option Manager) (R : Resources) : Prop :=
  r = none ∧ ¬ sys.Ok ∧ ¬ sys.configs.ReadsNull ∧ R.map Prod.fst = sys.configs.leaked ∨
    ∃ cs, r = some cs ∧ sys.Ok ∧ R = cs.owned ∧ cs.Prepared sys.configs

lemma containerMngsmSetup_owns (sys : SetupSys) :
    Owns 0 (containerMngsmSetup sys) (Prepares sys)
      (fun f => f = .null ∧ sys.configs.ReadsNull) := by
  apply Owns.call (createContainerConfigs_owns sys.configs) (add_zero _).symm fun _ he => he
  rintro r R (⟨rfl, hno, hnull, hleaked⟩ | ⟨cs, rfl, hok, rfl, hfresh⟩)
  · rw [add_zero]
    exact Owns.pure (Or.inl ⟨rfl, fun hok => hno hok.1, hnull, hleaked⟩)
  -- the release of the configs after a failure
  have hrelease (hno : ¬ sys.Ok) : Owns cs.configs (do
      releaseContainerConfigs cs
      pure none) (Prepares sys) (fun f => f = .null ∧ sys.configs.ReadsNull) := by
    apply Owns.call (releaseContainerConfigs_owns cs) (add_zero _).symm fun _ he => he
    rintro _ _ rfl
    apply Owns.pure
    exact Or.inl ⟨rfl, hno, hok.not_readsNull, by
      simp [running_idle hfresh.workqueue, hok.leaked]⟩
  rw [add_zero]
  apply Owns.ite
  · exact fun hmalloc => hrelease fun h => hmalloc h.2.1
  intro hmalloc
  apply Owns.acquire
  intro self
  apply Owns.call (setupMngsm_owns sys self) rfl fun _ he => he
  rintro r _ ⟨rfl, ⟨hneg, hno⟩ | ⟨hzero, hmngsm, hsocket⟩⟩
  · rw [if_pos hneg]
    apply Owns.call (cleanupMngsm_owns (some r.1)) rfl fun _ he => he
    rintro _ _ rfl
    rw [zero_add]
    exact hrelease fun h => hno h.2.2
  · rw [if_neg (not_lt.mpr hzero.ge)]
    apply Owns.pure
    right
    refine ⟨_, rfl, ⟨hok, not_not.mp hmalloc, hmngsm⟩, ?_, ?_⟩
    · simp only [Manager.owned, hfresh.cci, hfresh.ddm, hfresh.monitors, Manager.configs,
        Monitors.owned_empty, Option.elim_none, Option.elim_some, one_none]
      abel
    · exact ⟨hfresh.cci, hfresh.ddm, hfresh.guests, hfresh.workqueue, hfresh.monitors, _, rfl,
        hsocket⟩

lemma containerMngsmCleanup_owns (cs : Manager) (h : cs.ddm = none) :
    Owns cs.owned (containerMngsmCleanup cs) (fun _ R => R = cs.left) E := by
  have howned : cs.owned = one .controlInterface cs.cci +
      (cs.cms.elim 0 Mngsm.owned + (cs.configs + cs.monitors.owned)) := by
    simp only [Manager.owned, h, Option.elim_none]
    abel
  rw [howned]
  apply Owns.call (Owns.releaseOpt _ _) rfl fun _ he => he
  rintro _ _ rfl
  rw [zero_add]
  apply Owns.call (cleanupMngsm_owns cs.cms) rfl fun _ he => he
  rintro _ _ rfl
  rw [zero_add]
  apply (releaseContainerConfigs_owns cs).last rfl fun _ he => he
  rintro _ _ rfl
  rfl

/-! ### The device manager -/

/-- All calls of the function succeed. -/
def UdevSys.Ok (sys : UdevSys) : Prop :=
  sys.malloc ∧ sys.new ∧ sys.monitor ∧ sys.enable ∧ sys.fd ∧ sys.addIo

instance (sys : UdevSys) : Decidable sys.Ok := inferInstanceAs (Decidable (_ ∧ _))

lemma udevSetup_owns (sys : UdevSys) (ddm : DeviceManager) (h : ddm.ddu = none) :
    Owns ddm.owned (deviceControlDynamicUdevSetup sys ddm)
      (fun r R => R = r.1.owned ∧ (r.2 < 0 ∧ ¬ sys.Ok ∧ r.1 = ddm ∨
        r.2 = 0 ∧ sys.Ok ∧ ∃ ddu, ddu.libudevSource ≠ none ∧ r.1 = { ddm with ddu := some ddu }))
      E := by
  have hsame : { ddm with ddu := none } = ddm := by rw [← h]
  simp only [deviceControlDynamicUdevSetup, hsame]
  apply Owns.ite
  · exact fun hno => Owns.pure ⟨rfl, Or.inl ⟨by simp, fun hok => hno hok.1, rfl⟩⟩
  intro hmalloc
  apply Owns.acquire
  intro self
  apply Owns.ite
  · intro hno
    apply Owns.release rfl
    exact Owns.pure ⟨rfl, Or.inl ⟨by simp, fun hok => hno hok.2.1, rfl⟩⟩
  intro hnew
  apply Owns.acquire
  intro pudev
  apply Owns.ite
  · intro hno
    apply Owns.release rfl
    apply Owns.release rfl
    exact Owns.pure ⟨rfl, Or.inl ⟨by simp, fun hok => hno hok.2.2.1, rfl⟩⟩
  intro hmonitor
  apply Owns.acquire
  intro pudevMonitor
  apply Owns.ite
  · intro hno
    apply Owns.release rfl
    apply Owns.release rfl
    apply Owns.release rfl
    exact Owns.pure ⟨rfl, Or.inl ⟨by simp, fun hok => hno hok.2.2.2, rfl⟩⟩
  intro hio
  apply Owns.acquire
  intro libudevSource
  apply Owns.pure
  refine ⟨?_, Or.inr ⟨rfl, ⟨not_not.mp hmalloc, not_not.mp hnew, not_not.mp hmonitor,
    not_not.mp hio⟩, _, by simp, rfl⟩⟩
  simp only [DeviceManager.owned, DynamicUdev.owned, h, Option.elim_none, Option.elim_some,
    one_some]
  abel

lemma udevCleanup_owns (ddm : DeviceManager) (h : ddm.ddu ≠ none) :
    Owns (ddm.ddu.elim 0 DynamicUdev.owned) (deviceControlDynamicUdevCleanup ddm)
      (fun _ R => R = 0) E := by
  obtain ⟨ddu, hddu⟩ := Option.ne_none_iff_exists'.mp h
  simp only [deviceControlDynamicUdevCleanup, hddu, deref, pure_bind, Option.elim_some]
  apply Owns.call (Owns.releaseOpt _ _) (add_comm _ _) fun _ he => he
  rintro _ _ rfl
  rw [zero_add]
  apply Owns.call (Owns.releaseOpt _ _) (add_comm _ _) fun _ he => he
  rintro _ _ rfl
  rw [zero_add]
  apply Owns.call (Owns.releaseOpt _ _) (add_comm _ _) fun _ he => he
  rintro _ _ rfl
  rw [zero_add]
  exact Owns.release_last _ _

lemma entries_cons (nfi : NetworkInterfaceInfo × ℕ) (l : InterfaceList) :
    entries (nfi :: l) = {(Kind.netifInfo, nfi.2)} + entries l := by
  rw [entries, List.map_cons, List.sum_cons, ← entries]

lemma entries_filter (p : NetworkInterfaceInfo × ℕ → Prop) [DecidablePred p] (l : InterfaceList) :
    entries l = entries (l.filter p) + entries (l.filter fun nfi => ¬ p nfi) := by
  induction l with
  | nil => rfl
  | cons nfi l ih =>
    rw [entries_cons, ih]
    by_cases h : p nfi
    · simp only [List.filter_cons, h, entries_cons, decide_true, not_true, decide_false, if_true,
        Bool.false_eq_true, if_false, add_assoc]
    · simp only [List.filter_cons, h, entries_cons, decide_false, not_false_iff, decide_true,
        if_true, Bool.false_eq_true, if_false]
      abel

lemma releaseEntries_owns (l : InterfaceList) :
    Owns (entries l) (l.forM fun nfi => release Kind.netifInfo nfi.2) (fun _ R => R = 0) E := by
  rw [entries]
  apply Owns.forM_release
  intro nfi
  exact Owns.release_last _ _

lemma removeInterface_owns (ifindex : ℤ) (nllist : InterfaceList) :
    Owns (entries nllist) (removeInterface ifindex nllist) (fun l R => R = entries l ∧
      l.map Prod.fst = (nllist.map Prod.fst).filter fun nfi => nfi.ifindex ≠ ifindex) E := by
  rw [entries_filter (fun nfi => nfi.1.ifindex = ifindex) nllist]
  apply Owns.call (releaseEntries_owns _) rfl fun _ he => he
  rintro _ _ rfl
  rw [zero_add]
  apply Owns.pure
  refine ⟨rfl, ?_⟩
  rw [List.filter_map]
  rfl

/-- If there is memory for it, a message changes the interfaces as it does without the memory in
view. -/
lemma dataCb_owns (nllist : InterfaceList) (m : LinkMessage × Bool) :
    Owns (entries nllist) (dataCb nllist m) (fun l R => R = entries l ∧
      (m.2 = true →
        l.map Prod.fst = (ContainerManager.dataCb m.1 (nllist.map Prod.fst)).1)) E := by
  simp only [dataCb, ContainerManager.dataCb]
  cases m.1.ifname with
  | none => exact Owns.pure ⟨rfl, fun _ => rfl⟩
  | some ifname =>
    dsimp only
    apply Owns.ite
    · intro hlisted
      exact Owns.pure ⟨rfl, fun _ => by rw [if_pos hlisted]⟩
    intro hlisted
    rw [if_neg hlisted]
    apply Owns.ite
    · exact fun hno => Owns.pure ⟨rfl, fun hmalloc => absurd hmalloc hno⟩
    intro _
    apply Owns.acquire
    intro new
    cases m.1.type with
    | newlink =>
      apply Owns.call (removeInterface_owns _ _) (add_comm _ _) fun _ he => he
      rintro l _ ⟨rfl, hl⟩
      apply Owns.pure
      rw [entries_cons, add_comm]
      exact ⟨rfl, fun _ => by rw [List.map_cons, hl]⟩
    | dellink =>
      apply Owns.call (removeInterface_owns _ _) (add_comm _ _) fun _ he => he
      rintro l _ ⟨rfl, hl⟩
      apply Owns.release (add_comm _ _)
      exact Owns.pure ⟨rfl, fun _ => hl⟩
    | other =>
      apply Owns.release rfl
      exact Owns.pure ⟨rfl, fun _ => rfl⟩

/-- All calls of the function succeed. -/
def ListingSys.Ok (sys : ListingSys) : Prop :=
  sys.socket ∧ (sys.bind ∧ sys.send) ∧ sys.received

instance (sys : ListingSys) : Decidable sys.Ok := inferInstanceAs (Decidable (_ ∧ _))

lemma listing_owns (sys : ListingSys) (nllist : InterfaceList) :
    Owns (entries nllist) (netifmonitorListingExistif sys nllist)
      (fun r R => R = entries r.1 ∧ (r.2 < 0 ∧ ¬ sys.Ok ∨ r.2 = 0 ∧ sys.Ok)) E := by
  apply Owns.ite
  · exact fun hno => Owns.pure ⟨rfl, Or.inl ⟨by simp, fun hok => hno hok.1⟩⟩
  intro hsocket
  apply Owns.acquire
  intro nl
  apply Owns.ite
  · intro hno
    apply Owns.release rfl
    exact Owns.pure ⟨rfl, Or.inl ⟨by simp, fun hok => hno hok.2.1⟩⟩
  intro hsend
  have hmessage (l : InterfaceList) (m : LinkMessage × Bool) :
      Owns (entries l) (dataCb l m) (fun l R => R = entries l) E :=
    (dataCb_owns l m).mono (fun _ _ h => h.1) fun _ he => he
  apply Owns.call (Owns.foldlM hmessage sys.messages nllist) (add_comm _ _) fun _ he => he
  rintro l _ rfl
  apply Owns.release (add_comm _ _)
  apply Owns.pure
  refine ⟨rfl, ?_⟩
  dsimp only
  split_ifs with hreceived
  · exact Or.inr ⟨rfl, not_not.mp hsocket, not_not.mp hsend, hreceived⟩
  · exact Or.inl ⟨by simp, fun hok => hreceived hok.2.2⟩

/-- All calls of the function succeed. -/
def NetifSys.Ok (sys : NetifSys) : Prop :=
  sys.malloc ∧ sys.socket ∧ (sys.bind ∧ sys.addIo) ∧ sys.listing.Ok

instance (sys : NetifSys) : Decidable sys.Ok := inferInstanceAs (Decidable (_ ∧ _))

/-- What is left when the setup fails belongs to the device manager, or is lost. -/
lemma netifmonitorSetup_owns (sys : NetifSys) (ddm : DeviceManager) (h : ddm.netifmon = none)
    (h' : ddm.nllist = none) :
    Owns ddm.owned (netifmonitorSetup sys ddm)
      (fun r R => r.2 < 0 ∧ ¬ sys.Ok ∧ r.1.netifmon = none ∧
          (∃ G, R = r.1.nllist.elim 0 entries + G) ∨
        r.2 = 0 ∧ sys.Ok ∧ R = r.1.owned ∧ ∃ nfm l, nfm.ifmonitorSource ≠ none ∧
          r.1 = { ddm with netifmon := some nfm, nllist := some l }) E := by
  have hfailed : ∃ G, ddm.owned = ddm.nllist.elim 0 entries + G := ⟨_, add_comm _ _⟩
  apply Owns.ite
  · exact fun hno => Owns.pure (Or.inl ⟨by simp, fun hok => hno hok.1, h, hfailed⟩)
  intro hmalloc
  apply Owns.acquire
  intro self
  apply Owns.ite
  · intro hno
    apply Owns.release rfl
    exact Owns.pure (Or.inl ⟨by simp, fun hok => hno hok.2.1, h, hfailed⟩)
  intro hsocket
  apply Owns.acquire
  intro nl
  apply Owns.ite
  · intro hno
    apply Owns.release rfl
    apply Owns.release rfl
    exact Owns.pure (Or.inl ⟨by simp, fun hok => hno hok.2.2.1, h, hfailed⟩)
  intro hio
  apply Owns.acquire
  intro ifmonitorSource
  apply Owns.call (listing_owns sys.listing []) (zero_add _).symm fun _ he => he
  rintro ⟨l, ret⟩ _ ⟨rfl, ⟨hneg, hno⟩ | ⟨hzero, hlisting⟩⟩
  · rw [if_pos hneg]
    have hmove (A B C D : Resources) : entries l + (A + (B + (C + D))) =
        B + (C + (entries l + (A + D))) := by abel
    apply Owns.release (hmove _ _ _ _)
    apply Owns.release rfl
    exact Owns.pure (Or.inl ⟨by simp, fun hok => hno hok.2.2.2, rfl, _, rfl⟩)
  · rw [if_neg (not_lt.mpr hzero.ge)]
    apply Owns.pure
    right
    refine ⟨rfl, ⟨not_not.mp hmalloc, not_not.mp hsocket, not_not.mp hio, hlisting⟩, ?_,
      _, _, by simp, rfl⟩
    simp only [DeviceManager.owned, Netifmon.owned, h, h', Option.elim_none, Option.elim_some,
      one_some]
    abel

/-- Nothing that the cleanup dereferences is null. -/
structure DeviceManager.Complete (ddm : DeviceManager) : Prop where
  ddu : ddm.ddu ≠ none
  netifmon : ddm.netifmon ≠ none
  nllist : ddm.nllist ≠ none

lemma netifmonitorCleanup_owns (ddm : DeviceManager) (h : ddm.Complete) :
    Owns (ddm.netifmon.elim 0 Netifmon.owned + ddm.nllist.elim 0 entries)
      (netifmonitorCleanup ddm) (fun _ R => R = 0) E := by
  obtain ⟨nfm, hnfm⟩ := Option.ne_none_iff_exists'.mp h.netifmon
  obtain ⟨l, hl⟩ := Option.ne_none_iff_exists'.mp h.nllist
  simp only [netifmonitorCleanup, hnfm, hl, deref, pure_bind, Option.elim_some]
  apply Owns.call (releaseEntries_owns l) (add_comm _ _) fun _ he => he
  rintro _ _ rfl
  rw [zero_add]
  apply Owns.call (Owns.releaseOpt _ _) (add_comm _ _) fun _ he => he
  rintro _ _ rfl
  rw [zero_add]
  apply Owns.call (Owns.releaseOpt _ _) (add_comm _ _) fun _ he => he
  rintro _ _ rfl
  rw [zero_add]
  exact Owns.release_last _ _

/-- Without `netifmon`, the cleanup reads a null pointer. -/
lemma netifmonitorCleanup_null (ddm : DeviceManager) (h : ddm.netifmon = none) (G : Resources)
    {Q : Unit → Resources → Prop} (hE : E .null) :
    Owns (ddm.nllist.elim 0 entries + G) (netifmonitorCleanup ddm) Q E := by
  simp only [netifmonitorCleanup, h]
  cases ddm.nllist with
  | none => exact Owns.null hE
  | some l =>
    simp only [deref, pure_bind]
    apply Owns.call (releaseEntries_owns l) rfl fun _ he => he
    rintro _ _ rfl
    exact Owns.null hE

lemma deviceManagerCleanup_owns (cs : Manager) (h : ∀ ddm ∈ cs.ddm, ddm.Complete) :
    Owns (cs.ddm.elim 0 DeviceManager.owned) (devcDeviceManagerCleanup cs)
      (fun cs' R => R = 0 ∧ cs' = { cs with ddm := none }) E := by
  simp only [devcDeviceManagerCleanup]
  cases hddm : cs.ddm with
  | none => exact Owns.pure ⟨rfl, by rw [← hddm]⟩
  | some ddm =>
    have hcomplete := h ddm hddm
    rw [Option.elim_some, DeviceManager.owned, add_assoc]
    apply Owns.call (netifmonitorCleanup_owns ddm hcomplete) (add_comm _ _) fun _ he => he
    rintro _ _ rfl
    rw [zero_add]
    apply Owns.call (udevCleanup_owns ddm hcomplete.ddu) (add_comm _ _) fun _ he => he
    rintro _ _ rfl
    rw [zero_add]
    apply Owns.release (add_zero _).symm
    exact Owns.pure ⟨rfl, rfl⟩

/-- All calls of the function succeed. -/
def DevicesSys.Ok (sys : DevicesSys) : Prop := sys.malloc ∧ sys.udev.Ok ∧ sys.netif.Ok

instance (sys : DevicesSys) : Decidable sys.Ok := inferInstanceAs (Decidable (_ ∧ _))

/-- The event sources of the device manager are there. -/
structure DeviceManager.Attached (ddm : DeviceManager) : Prop extends ddm.Complete where
  udevSource : ddm.ddu.bind DynamicUdev.libudevSource ≠ none
  netlinkSource : ddm.netifmon.bind Netifmon.ifmonitorSource ≠ none

/-- When a step after the allocation fails, the cleanup reads a null pointer. -/
lemma deviceManagerSetup_owns (sys : DevicesSys) (cs : Manager) (h : cs.ddm = none) :
    Owns cs.owned (devcDeviceManagerSetup sys cs)
      (fun r R => R = r.1.owned ∧ (r.2 < 0 ∧ ¬ sys.malloc ∧ r.1 = cs ∨
        r.2 = 0 ∧ sys.Ok ∧ ∃ ddm, ddm.Attached ∧ r.1 = { cs with ddm := some ddm }))
      (fun f => f = .null ∧ sys.malloc ∧ ¬ sys.Ok) := by
  apply Owns.ite
  · exact fun hno => Owns.pure ⟨rfl, Or.inl ⟨by simp, hno, rfl⟩⟩
  intro hmalloc
  apply Owns.acquire
  intro self
  have hstart : {(Kind.deviceManager, self)} = ({ self := self } : DeviceManager).owned := by
    simp [DeviceManager.owned]
  rw [hstart]
  -- the cleanup of what the failed setup left
  have hnull (ddm : DeviceManager) (hnone : ddm.netifmon = none) (hno : ¬ sys.Ok)
      {R : Resources} (hR : ∃ G, R = ddm.nllist.elim 0 entries + G) :
      Owns (R + cs.owned) (do
        let cs ← devcDeviceManagerCleanup { cs with ddm := some ddm }
        pure (cs, -1))
      (fun r R => R = r.1.owned ∧ (r.2 < 0 ∧ ¬ sys.malloc ∧ r.1 = cs ∨
        r.2 = 0 ∧ sys.Ok ∧ ∃ ddm, ddm.Attached ∧ r.1 = { cs with ddm := some ddm }))
      (fun f => f = .null ∧ sys.malloc ∧ ¬ sys.Ok) := by
    obtain ⟨G, rfl⟩ := hR
    apply Owns.bind
    apply Owns.bind
    rw [add_assoc]
    exact netifmonitorCleanup_null ddm hnone _ ⟨rfl, not_not.mp hmalloc, hno⟩
  apply Owns.call (udevSetup_owns sys.udev _ rfl) rfl fun _ he => he
  rintro ⟨ddm, ret⟩ _ ⟨rfl, ⟨hneg, hno, rfl⟩ | ⟨hzero, hudev, ddu, hddu, rfl⟩⟩
  · rw [if_pos hneg]
    exact hnull _ rfl (fun hok => hno hok.2.1) ⟨_, add_comm _ _⟩
  obtain rfl : ret = 0 := hzero
  apply Owns.call (netifmonitorSetup_owns sys.netif _ rfl rfl) rfl fun _ he => he
  rintro ⟨ddm, ret⟩ R (⟨hneg, hno, hnone, hR⟩ | ⟨hzero, hnetif, rfl, nfm, l, hnfm, rfl⟩)
  · rw [if_pos hneg]
    exact hnull _ hnone (fun hok => hno hok.2.2) hR
  · rw [if_neg (not_lt.mpr hzero.ge)]
    apply Owns.pure
    refine ⟨?_, Or.inr ⟨rfl, ⟨not_not.mp hmalloc, hudev, hnetif⟩, _, ?_, rfl⟩⟩
    · simp only [Manager.owned, Manager.configs, h, Option.elim_none, Option.elim_some, add_zero]
      abel
    · exact ⟨⟨by simp, by simp, by simp⟩, hddu, hnfm⟩

end ContainerManager.Startup

import ContainerManager.Control.Netif
import ContainerManager.Refinement.Cyclic

/-!
# Assignment of network interfaces

A guest's element looks at names only while it is free, and at its index only afterwards. So the
elements of a started guest end with the interfaces of their names, provided that no held index
comes under another name, and that an interface is not removed while another one has its name and no
update is outstanding.
-/

namespace ContainerManager

/-! ### Runs -/

/-- What happens to one element: a list of the host's interfaces is reached or looked at, or
`attach_interface` is called for the element. -/
inductive NetifEvent where
  | nllist (l : List NetworkInterfaceInfo)
  | attach (ifindex : ℤ)

/-- The manager between the messages and the passes, with the number of notified updates that are
outstanding and the events of each element of the guest, newest first. -/
structure NetifState (n : ℕ) where
  cs : Containers n
  pending : ℕ
  events : ℕ → List NetifEvent

/-- A message of the RTNL socket, or an update. `attach` are the answers of `attach_interface` for
the other guests. -/
inductive NetifAction (n : ℕ) where
  | message (m : LinkMessage)
  | updated (attach : Fin n → ℕ → ℕ → Bool)

variable {n : ℕ}

/-- One step, for the guest whose calls of `attach_interface` all succeed. An update follows a
message that notified it. -/
def netifStep (i : Fin n) (s : NetifState n) : NetifAction n → NetifState n
  | .message m =>
    let r := dataCb m s.cs.nllist
    { cs := { s.cs with nllist := r.1 }
      pending := if r.2 then s.pending + 1 else s.pending
      events := fun k => .nllist r.1 :: s.events k }
  | .updated attach =>
    if s.pending = 0 then s
    else
      { cs := containerNetifUpdated (Function.update attach i fun _ _ => true) s.cs
        pending := s.pending - 1
        events := fun k =>
          (containerNetifAttachCalls (fun _ _ => true) s.cs.nllist (s.cs.containers i)
            k).reverse.map .attach ++ .nllist s.cs.nllist :: s.events k }

/-- The dynamic network interfaces of the guest. -/
def NetifState.elems (i : Fin n) (s : NetifState n) : List DynamicNetifElem :=
  (s.cs.containers i).dynamicNetiflist

/-- The guest is started with free elements. What the host has already is looked at by an update
that is outstanding. -/
structure NetifStart (i : Fin n) (s : NetifState n) : Prop where
  status : (s.cs.containers i).runtimeStat.status = .started
  lxc : (s.cs.containers i).runtimeStat.lxc ≠ none
  free : ∀ cdne ∈ s.elems i, cdne.ifindex = 0
  indexes : (s.cs.nllist.map NetworkInterfaceInfo.ifindex).Nodup
  events : ∀ k, s.events k = []
  idle : s.pending = 0 → s.cs.nllist = [] ∧ ∀ cdne ∈ s.elems i, cdne.isAvailable = false

/-! ### The assignment -/

/-- The element holds an interface of its name, or there is none and it is free. -/
def DynamicNetifElem.Assigned (nllist : List NetworkInterfaceInfo)
    (cdne : DynamicNetifElem) : Prop :=
  (∃ nii ∈ nllist, 0 < nii.ifindex ∧ nii.ifname = cdne.ifname ∧ cdne.ifindex = nii.ifindex ∧
      cdne.isAvailable = true) ∨
    (∀ nii ∈ nllist, 0 < nii.ifindex → nii.ifname ≠ cdne.ifname) ∧ cdne.ifindex = 0

/-- Between two calls for an index there is a point at which the index is absent. -/
def AttachedOnce (events : List NetifEvent) : Prop :=
  ∀ newer between older ifindex,
    events = newer ++ .attach ifindex :: (between ++ .attach ifindex :: older) →
      ∃ l, .nllist l ∈ between ∧ ∀ nii ∈ l, nii.ifindex ≠ ifindex

/-- When no update is outstanding the elements are assigned and a further pass changes nothing,
whatever `attach_interface` would answer; and it is called at most once for an element and index. -/
structure NetifAssigned (i : Fin n) (s : NetifState n) : Prop where
  assigned : s.pending = 0 → ∀ cdne ∈ s.elems i, cdne.Assigned s.cs.nllist
  once : ∀ k, AttachedOnce (s.events k)
  stable : s.pending = 0 → ∀ attach,
    (containerNetifUpdateGuest attach s.cs.nllist (s.cs.containers i)).1 = s.cs.containers i

/-- The message brings no held index under another name. When no update is outstanding, it does not
remove the index of an element while another interface has the name. -/
def NetifState.Allows (i : Fin n) (s : NetifState n) (m : LinkMessage) : Prop :=
  (dataCb m s.cs.nllist).2 = true → ∀ cdne ∈ s.elems i, 0 < cdne.ifindex →
    cdne.ifindex = m.ifindex →
      (m.type = .newlink → m.ifname = some cdne.ifname) ∧
      (m.type = .dellink → s.pending = 0 → ∀ nii ∈ s.cs.nllist, 0 < nii.ifindex →
        nii.ifname = cdne.ifname → nii.ifindex = cdne.ifindex)

/-- Every message of the run is allowed when it comes. -/
def NetifStepAllowed (i : Fin n) (s : NetifState n) : NetifAction n → Prop
  | .message m => s.Allows i m
  | .updated _ => True

/-! ### The invariant -/

/-- The element is assigned, and marked when it holds an index. -/
def DynamicNetifElem.Settled (nllist : List NetworkInterfaceInfo)
    (cdne : DynamicNetifElem) : Prop :=
  (∃ nii ∈ nllist, 0 < nii.ifindex ∧ nii.ifname = cdne.ifname ∧ cdne.ifindex = nii.ifindex ∧
      cdne.isAvailable = true) ∨
    (∀ nii ∈ nllist, 0 < nii.ifindex → nii.ifname ≠ cdne.ifname) ∧ cdne.ifindex = 0 ∧
      cdne.isAvailable = false

/-- One pass settles the element: what it holds is there, or there is no interface of its name. -/
def DynamicNetifElem.Seen (nllist : List NetworkInterfaceInfo) (cdne : DynamicNetifElem) : Prop :=
  0 < cdne.ifindex → (∃ nii ∈ nllist, nii.ifindex = cdne.ifindex) ∨
    ∀ nii ∈ nllist, 0 < nii.ifindex → nii.ifname ≠ cdne.ifname

/-- A held index comes under the element's name. -/
def DynamicNetifElem.Named (nllist : List NetworkInterfaceInfo) (cdne : DynamicNetifElem) : Prop :=
  0 < cdne.ifindex → ∀ nii ∈ nllist, nii.ifindex = cdne.ifindex → nii.ifname = cdne.ifname

/-- An index that was attached and was not absent since is held. -/
structure Recorded (cdne : Option DynamicNetifElem) (events : List NetifEvent) : Prop where
  once : AttachedOnce events
  positive : ∀ ifindex, .attach ifindex ∈ events → 0 < ifindex
  held : ∀ newer older ifindex, events = newer ++ .attach ifindex :: older →
    (∀ l, .nllist l ∈ newer → ∃ nii ∈ l, nii.ifindex = ifindex) →
      ∃ c, cdne = some c ∧ c.ifindex = ifindex

/-- What every step keeps. -/
structure NetifBase (i : Fin n) (s : NetifState n) : Prop where
  status : (s.cs.containers i).runtimeStat.status = .started
  lxc : (s.cs.containers i).runtimeStat.lxc ≠ none
  indexes : (s.cs.nllist.map NetworkInterfaceInfo.ifindex).Nodup
  nonneg : ∀ cdne ∈ s.elems i, 0 ≤ cdne.ifindex

/-- What the allowed steps keep. -/
structure NetifInvariant (i : Fin n) (s : NetifState n) : Prop extends NetifBase i s where
  named : ∀ cdne ∈ s.elems i, cdne.Named s.cs.nllist
  seen : s.pending = 1 → ∀ cdne ∈ s.elems i, cdne.Seen s.cs.nllist
  settled : s.pending = 0 → ∀ cdne ∈ s.elems i, cdne.Settled s.cs.nllist
  recorded : ∀ k, Recorded (s.elems i)[k]? (s.events k)

lemma DynamicNetifElem.Settled.assigned {nllist : List NetworkInterfaceInfo}
    {cdne : DynamicNetifElem} (h : cdne.Settled nllist) : cdne.Assigned nllist := by
  rcases h with h | ⟨hnone, hzero, -⟩
  · exact Or.inl h
  · exact Or.inr ⟨hnone, hzero⟩

/-- A pass does nothing with a settled element, whatever the calls answer. -/
lemma DynamicNetifElem.Settled.pass {nllist : List NetworkInterfaceInfo} {cdne : DynamicNetifElem}
    (h : cdne.Settled nllist) (attach : ℕ → Bool) :
    netifDisable (netifVisits attach nllist.zipIdx { cdne with isAvailable := false }) = cdne := by
  rcases h with ⟨nii, hmem, hpos, -, hi, ha⟩ | ⟨hnone, hzero, ha⟩
  · rw [netifDisable_held attach nllist (hi ▸ hpos), if_pos ⟨nii, hmem, hi.symm⟩]
    cases cdne
    simp_all
  · have hv := @netifVisits_missing attach { cdne with isAvailable := false } hzero _
      (forall_mem_zipIdx.mpr hnone)
    rw [hv.1]
    cases cdne
    simp_all [netifDisable]

/-- A pass settles an element that is seen and holds its name. -/
lemma NetifPassed.settled {nllist : List NetworkInterfaceInfo} {cdne cdne' : DynamicNetifElem}
    {calls : List ℤ} (h : NetifPassed nllist cdne cdne' calls) (hnamed : cdne.Named nllist)
    (hseen : cdne.Seen nllist) : cdne'.Settled nllist := by
  cases h with
  | found nii h hmem hpos hname => exact Or.inl ⟨nii, hmem, hpos, hname, rfl, rfl⟩
  | missing h hnone => exact Or.inr ⟨hnone, h, rfl⟩
  | kept nii h hmem hindex =>
    exact Or.inl ⟨nii, hmem, hindex ▸ h, hnamed h nii hmem hindex, hindex.symm, rfl⟩
  | removed h hnone =>
    rcases hseen h with ⟨nii, hmem, hindex⟩ | hmissing
    · exact absurd hindex (hnone nii hmem)
    · exact Or.inr ⟨hmissing, rfl, rfl⟩

/-- After a pass the element holds an index of the list, or none. -/
lemma NetifPassed.seen {nllist : List NetworkInterfaceInfo} {cdne cdne' : DynamicNetifElem}
    {calls : List ℤ} (h : NetifPassed nllist cdne cdne' calls) : cdne'.Seen nllist := by
  intro hpos
  cases h with
  | found nii h hmem => exact Or.inl ⟨nii, hmem, rfl⟩
  | missing h hnone => exact Or.inr hnone
  | kept nii h hmem hindex => exact Or.inl ⟨nii, hmem, hindex⟩
  | removed h hnone => simp at hpos

lemma NetifPassed.named {nllist : List NetworkInterfaceInfo} {cdne cdne' : DynamicNetifElem}
    {calls : List ℤ} (hnodup : (nllist.map NetworkInterfaceInfo.ifindex).Nodup)
    (h : NetifPassed nllist cdne cdne' calls) (hnamed : cdne.Named nllist) :
    cdne'.Named nllist := by
  intro hpos nii' hmem' hindex'
  cases h with
  | found nii h hmem hnpos hname =>
    obtain rfl := List.inj_on_of_nodup_map hnodup hmem' hmem hindex'
    exact hname
  | missing h hnone => exact hnamed hpos nii' hmem' hindex'
  | kept nii h hmem hindex => exact hnamed h nii' hmem' hindex'
  | removed h hnone => simp at hpos

lemma NetifPassed.nonneg {nllist : List NetworkInterfaceInfo} {cdne cdne' : DynamicNetifElem}
    {calls : List ℤ} (h : NetifPassed nllist cdne cdne' calls) (hnonneg : 0 ≤ cdne.ifindex) :
    0 ≤ cdne'.ifindex := by
  cases h with
  | found nii h hmem hpos => exact hpos.le
  | missing => exact hnonneg
  | kept => exact hnonneg
  | removed => exact le_refl 0

/-! ### Events -/

/-- A list of interfaces is no call. -/
lemma Recorded.nllist {cdne : Option DynamicNetifElem} {events : List NetifEvent}
    (h : Recorded cdne events) (l : List NetworkInterfaceInfo) :
    Recorded cdne (.nllist l :: events) := by
  constructor
  case once =>
    intro newer between older ifindex he
    cases newer with
    | nil => simp at he
    | cons a newer => exact h.once newer between older ifindex (List.cons.inj he).2
  case positive =>
    intro ifindex hm
    exact h.positive ifindex (by simpa using hm)
  case held =>
    intro newer older ifindex he hall
    cases newer with
    | nil => simp at he
    | cons a newer =>
      exact h.held newer older ifindex (List.cons.inj he).2 fun l hl =>
        hall l (List.mem_cons_of_mem _ hl)

/-- Only a free element is attached. -/
lemma Recorded.attach {cdne cdne' : DynamicNetifElem} {events : List NetifEvent}
    (h : Recorded (some cdne) events) (hfree : cdne.ifindex = 0) (hpos : 0 < cdne'.ifindex) :
    Recorded (some cdne') (.attach cdne'.ifindex :: events) := by
  -- what was attached before was absent since
  have habsent : ∀ newer older ifindex, events = newer ++ .attach ifindex :: older →
      ∃ l, .nllist l ∈ newer ∧ ∀ nii ∈ l, nii.ifindex ≠ ifindex := by
    intro newer older ifindex he
    by_contra hno
    have hp := h.positive ifindex (by simp [he])
    obtain ⟨c, hc, hi⟩ := h.held newer older ifindex he fun l hl => by
      by_contra hnone
      exact hno ⟨l, hl, by simpa using hnone⟩
    obtain rfl := Option.some.inj hc
    omega
  constructor
  case once =>
    intro newer between older ifindex he
    cases newer with
    | nil => exact habsent between older ifindex (List.cons.inj he).2
    | cons a newer => exact h.once newer between older ifindex (List.cons.inj he).2
  case positive =>
    intro ifindex hm
    rcases List.mem_cons.mp hm with hm | hm
    · rw [NetifEvent.attach.inj hm]
      exact hpos
    · exact h.positive ifindex hm
  case held =>
    intro newer older ifindex he hall
    cases newer with
    | nil => exact ⟨cdne', rfl, NetifEvent.attach.inj (List.cons.inj he).1⟩
    | cons a newer =>
      obtain ⟨l, hl, hnone⟩ := habsent newer older ifindex (List.cons.inj he).2
      obtain ⟨nii, hmem, hi⟩ := hall l (List.mem_cons_of_mem _ hl)
      exact absurd hi (hnone nii hmem)

/-- An element that keeps its index, or whose index was absent. -/
lemma Recorded.of_held {cdne cdne' : DynamicNetifElem} {events : List NetifEvent}
    (h : Recorded (some cdne) events)
    (hheld : ∀ newer older, events = newer ++ .attach cdne.ifindex :: older →
      (∀ l, .nllist l ∈ newer → ∃ nii ∈ l, nii.ifindex = cdne.ifindex) →
        cdne'.ifindex = cdne.ifindex) : Recorded (some cdne') events := by
  refine ⟨h.once, h.positive, ?_⟩
  intro newer older ifindex he hall
  obtain ⟨c, hc, rfl⟩ := h.held newer older ifindex he hall
  obtain rfl := Option.some.inj hc
  exact ⟨cdne', rfl, hheld newer older he hall⟩

lemma NetifPassed.recorded {nllist : List NetworkInterfaceInfo} {cdne cdne' : DynamicNetifElem}
    {calls : List ℤ} {events : List NetifEvent} (h : NetifPassed nllist cdne cdne' calls)
    (hr : Recorded (some cdne) events) :
    Recorded (some cdne') (calls.reverse.map .attach ++ .nllist nllist :: events) := by
  have hl := hr.nllist nllist
  cases h with
  | found nii h hmem hpos hname =>
    exact @Recorded.attach _ { cdne with ifindex := nii.ifindex, isAvailable := true } _ hl h hpos
  | missing => exact hl.of_held fun _ _ _ _ => rfl
  | kept => exact hl.of_held fun _ _ _ _ => rfl
  | removed h hnone =>
    apply hl.of_held
    intro newer older he hall
    cases newer with
    | nil => simp at he
    | cons a newer =>
      obtain ⟨nii, hmem, hi⟩ :=
        hall nllist (by rw [← (List.cons.inj he).1]; exact List.mem_cons_self)
      exact absurd hi (hnone nii hmem)

/-! ### Steps -/

/-- A message is ignored, brings an interface under an index, or removes an index. -/
lemma dataCb_cases (m : LinkMessage) (nllist : List NetworkInterfaceInfo) :
    dataCb m nllist = (nllist, false) ∨
      (∃ ifname, m.type = .newlink ∧ m.ifname = some ifname ∧ dataCb m nllist =
        (⟨m.ifindex, ifname⟩ :: nllist.filter fun nfi => nfi.ifindex ≠ m.ifindex, true)) ∨
      m.type = .dellink ∧
        dataCb m nllist = (nllist.filter fun nfi => nfi.ifindex ≠ m.ifindex, true) := by
  simp only [dataCb]
  cases hname : m.ifname with
  | none => exact Or.inl rfl
  | some ifname =>
    dsimp only
    split_ifs
    · exact Or.inl rfl
    · cases htype : m.type with
      | newlink => exact Or.inr (Or.inl ⟨ifname, rfl, rfl, rfl⟩)
      | dellink => exact Or.inr (Or.inr ⟨rfl, rfl⟩)
      | other => exact Or.inl rfl

lemma filter_indexes_nodup {nllist : List NetworkInterfaceInfo}
    (h : (nllist.map NetworkInterfaceInfo.ifindex).Nodup) (p : NetworkInterfaceInfo → Bool) :
    ((nllist.filter p).map NetworkInterfaceInfo.ifindex).Nodup :=
  h.sublist (List.filter_sublist.map _)

variable {i : Fin n} {s : NetifState n}

lemma NetifBase.message (h : NetifBase i s) (m : LinkMessage) :
    NetifBase i (netifStep i s (.message m)) := by
  refine ⟨h.status, h.lxc, ?_, h.nonneg⟩
  simp only [netifStep]
  rcases dataCb_cases m s.cs.nllist with e | ⟨ifname, -, -, e⟩ | ⟨-, e⟩
  · rw [e]
    exact h.indexes
  · rw [e, List.map_cons, List.nodup_cons]
    exact ⟨by simp, filter_indexes_nodup h.indexes _⟩
  · rw [e]
    exact filter_indexes_nodup h.indexes _

/-- An allowed message keeps the invariant. -/
lemma NetifInvariant.message (h : NetifInvariant i s) {m : LinkMessage} (hm : s.Allows i m) :
    NetifInvariant i (netifStep i s (.message m)) := by
  have hbase := h.toNetifBase.message m
  simp only [netifStep] at hbase ⊢
  rcases dataCb_cases m s.cs.nllist with e | ⟨ifname, htype, hname, e⟩ | ⟨htype, e⟩
  · rw [e] at hbase ⊢
    exact ⟨hbase, h.named, h.seen, h.settled, fun k => (h.recorded k).nllist _⟩
  · simp only [NetifState.Allows, e, htype, true_implies] at hm
    rw [e] at hbase ⊢
    refine ⟨hbase, ?_, ?_, by simp, fun k => (h.recorded k).nllist _⟩
    · intro cdne hc hpos nii hmem hi
      rcases List.mem_cons.mp hmem with rfl | hmem
      · have heq := (hm cdne hc hpos hi.symm).1
        rw [hname] at heq
        exact Option.some.inj heq
      · exact h.named cdne hc hpos nii (List.mem_of_mem_filter hmem) hi
    · intro hp cdne hc hpos
      have hidle : s.pending = 0 := by simpa using hp
      rcases h.settled hidle cdne hc with ⟨nii, hmem, -, -, hi, -⟩ | ⟨-, hzero, -⟩
      · left
        by_cases hk : nii.ifindex = m.ifindex
        · exact ⟨_, List.mem_cons_self, by rw [hi, hk]⟩
        · refine ⟨nii, List.mem_cons_of_mem _ (List.mem_filter.mpr ⟨hmem, by simpa using hk⟩), ?_⟩
          exact hi.symm
      · omega
  · simp only [NetifState.Allows, e, htype, true_implies] at hm
    rw [e] at hbase ⊢
    refine ⟨hbase, ?_, ?_, by simp, fun k => (h.recorded k).nllist _⟩
    · intro cdne hc hpos nii hmem hi
      exact h.named cdne hc hpos nii (List.mem_of_mem_filter hmem) hi
    · intro hp cdne hc hpos
      have hidle : s.pending = 0 := by simpa using hp
      rcases h.settled hidle cdne hc with ⟨nii, hmem, -, -, hi, -⟩ | ⟨-, hzero, -⟩
      · by_cases hk : nii.ifindex = m.ifindex
        · right
          intro nii' hmem' hpos' hname'
          obtain ⟨hmem', hne⟩ := List.mem_filter.mp hmem'
          have heq := (hm cdne hc hpos (hi.trans hk)).2 hidle nii' hmem' hpos' hname'
          simp only [ne_eq, decide_eq_true_eq] at hne
          exact hne (heq.trans (hi.trans hk))
        · left
          exact ⟨nii, List.mem_filter.mpr ⟨hmem, by simpa using hk⟩, hi.symm⟩
      · omega

/-- The guest after an update. -/
lemma netifUpdated_containers (h : NetifBase i s) (attach : Fin n → ℕ → ℕ → Bool) :
    (containerNetifUpdated (Function.update attach i fun _ _ => true) s.cs).containers i =
      { s.cs.containers i with
        dynamicNetiflist := (s.cs.containers i).dynamicNetiflist.map
          (netifPass s.cs.nllist) } := by
  rw [← containerNetifUpdateGuest_attached _ h.status h.lxc]
  simp [containerNetifUpdated]

lemma containerNetifUpdated_nllist (attach : Fin n → ℕ → ℕ → Bool) (cs : Containers n) :
    (containerNetifUpdated attach cs).nllist = cs.nllist := by
  simp only [containerNetifUpdated]
  rw [Containers.forEachGuest_eq]

/-- What an outstanding update changes. -/
structure NetifUpdate (i : Fin n) (s s' : NetifState n) : Prop where
  pending : s'.pending = s.pending - 1
  nllist : s'.cs.nllist = s.cs.nllist
  elems : s'.elems i = (s.elems i).map (netifPass s.cs.nllist)
  runtimeStat : (s'.cs.containers i).runtimeStat = (s.cs.containers i).runtimeStat

lemma NetifBase.update (h : NetifBase i s) (hp : s.pending ≠ 0) (attach : Fin n → ℕ → ℕ → Bool) :
    NetifUpdate i s (netifStep i s (.updated attach)) := by
  have hguest := netifUpdated_containers h attach
  simp only [netifStep, hp, if_false]
  constructor
  case pending => rfl
  case nllist => exact containerNetifUpdated_nllist _ _
  case elems =>
    simp only [NetifState.elems]
    rw [hguest]
  case runtimeStat => rw [hguest]

lemma NetifBase.passed (h : NetifBase i s) {cdne : DynamicNetifElem} (hc : cdne ∈ s.elems i) :
    NetifPassed s.cs.nllist cdne (netifPass s.cs.nllist cdne)
      (netifAttachCalls (fun _ => true) s.cs.nllist.zipIdx { cdne with isAvailable := false }) :=
  netifPass_passed _ (h.nonneg cdne hc)

lemma NetifBase.updated (h : NetifBase i s) (attach : Fin n → ℕ → ℕ → Bool) :
    NetifBase i (netifStep i s (.updated attach)) := by
  by_cases hp : s.pending = 0
  · simp only [netifStep, hp, if_true]
    exact h
  have hu := h.update hp attach
  refine ⟨hu.runtimeStat ▸ h.status, hu.runtimeStat ▸ h.lxc, hu.nllist ▸ h.indexes, ?_⟩
  rw [hu.elems]
  intro cdne' hc'
  obtain ⟨cdne, hc, rfl⟩ := List.mem_map.mp hc'
  exact (h.passed hc).nonneg (h.nonneg cdne hc)

/-- The calls of an update for one element. -/
lemma NetifBase.attachCalls (h : NetifBase i s) {k : ℕ} {cdne : DynamicNetifElem}
    (hk : (s.elems i)[k]? = some cdne) :
    containerNetifAttachCalls (fun _ _ => true) s.cs.nllist (s.cs.containers i) k =
      netifAttachCalls (fun _ => true) s.cs.nllist.zipIdx { cdne with isAvailable := false } := by
  have hk' : (s.cs.containers i).dynamicNetiflist[k]? = some cdne := hk
  simp [containerNetifAttachCalls, h.status, h.lxc, hk']

/-- An update keeps the invariant. -/
lemma NetifInvariant.updated (h : NetifInvariant i s) (attach : Fin n → ℕ → ℕ → Bool) :
    NetifInvariant i (netifStep i s (.updated attach)) := by
  by_cases hp : s.pending = 0
  · simp only [netifStep, hp, if_true]
    exact h
  have hu := h.update hp attach
  refine ⟨h.toNetifBase.updated attach, ?_, ?_, ?_, ?_⟩
  · rw [hu.elems, hu.nllist]
    intro cdne' hc'
    obtain ⟨cdne, hc, rfl⟩ := List.mem_map.mp hc'
    exact (h.passed hc).named h.indexes (h.named cdne hc)
  · rw [hu.elems, hu.nllist]
    intro _ cdne' hc'
    obtain ⟨cdne, hc, rfl⟩ := List.mem_map.mp hc'
    exact (h.passed hc).seen
  · rw [hu.elems, hu.nllist, hu.pending]
    intro hone cdne' hc'
    obtain ⟨cdne, hc, rfl⟩ := List.mem_map.mp hc'
    exact (h.passed hc).settled (h.named cdne hc) (h.seen (by omega) cdne hc)
  · intro k
    rw [hu.elems, List.getElem?_map]
    simp only [netifStep, hp, if_false]
    cases hk : (s.elems i)[k]? with
    | none =>
      have hk' : (s.cs.containers i).dynamicNetiflist[k]? = none := hk
      have hr := h.recorded k
      rw [hk] at hr
      simpa [containerNetifAttachCalls, hk'] using hr.nllist s.cs.nllist
    | some cdne =>
      have hr := h.recorded k
      rw [hk] at hr
      rw [h.attachCalls hk]
      exact (h.passed (List.mem_of_getElem? hk)).recorded hr

lemma NetifInvariant.step (h : NetifInvariant i s) {a : NetifAction n}
    (ha : NetifStepAllowed i s a) : NetifInvariant i (netifStep i s a) := by
  cases a with
  | message m => exact h.message ha
  | updated attach => exact h.updated attach

/-- The guest's start establishes the invariant. -/
lemma NetifStart.invariant (h : NetifStart i s) : NetifInvariant i s := by
  constructor
  case toNetifBase =>
    exact ⟨h.status, h.lxc, h.indexes, fun cdne hc => (h.free cdne hc).ge⟩
  case named => exact fun cdne hc hpos => absurd (h.free cdne hc) hpos.ne'
  case seen => exact fun _ cdne hc hpos => absurd (h.free cdne hc) hpos.ne'
  case settled =>
    intro hp cdne hc
    obtain ⟨hnil, hoff⟩ := h.idle hp
    exact Or.inr ⟨by simp [hnil], h.free cdne hc, hoff cdne hc⟩
  case recorded =>
    intro k
    rw [h.events k]
    exact ⟨by simp [AttachedOnce], by simp, by simp⟩

/-- What the invariant says of the assignment. -/
lemma NetifInvariant.netifAssigned (h : NetifInvariant i s) : NetifAssigned i s := by
  constructor
  case assigned => exact fun hp cdne hc => (h.settled hp cdne hc).assigned
  case once => exact fun k => (h.recorded k).once
  case stable =>
    intro hp attach
    rw [containerNetifUpdateGuest_started _ _ h.status]
    have hsame : (s.cs.containers i).dynamicNetiflist.mapIdx (fun k cdne => netifDisable
        (netifVisits (fun a => (s.cs.containers i).runtimeStat.lxc.isSome ∧ attach a k)
          s.cs.nllist.zipIdx { cdne with isAvailable := false })) =
        (s.cs.containers i).dynamicNetiflist := by
      apply List.ext_getElem?
      intro k
      rw [List.getElem?_mapIdx]
      cases hk : (s.cs.containers i).dynamicNetiflist[k]? with
      | none => rfl
      | some cdne =>
        rw [Option.map_some]
        congr 1
        exact (h.settled hp cdne (List.mem_of_getElem? hk)).pass _
    rw [hsame]

/-! ### Messages that are not allowed -/

/-- An element holds an index that comes under another name. -/
def NetifStuck (i : Fin n) (s : NetifState n) : Prop :=
  ∃ cdne ∈ s.elems i, 0 < cdne.ifindex ∧
    ∃ nii ∈ s.cs.nllist, nii.ifindex = cdne.ifindex ∧ nii.ifname ≠ cdne.ifname

lemma NetifStuck.not_assigned (h : NetifStuck i s) (hb : NetifBase i s) (hp : s.pending = 0) :
    ¬ NetifAssigned i s := by
  obtain ⟨cdne, hc, hpos, nii, hmem, hi, hname⟩ := h
  intro ha
  rcases ha.assigned hp cdne hc with ⟨nii', hmem', -, hname', hi', -⟩ | ⟨-, hzero⟩
  · obtain rfl := List.inj_on_of_nodup_map hb.indexes hmem' hmem (hi'.symm.trans hi.symm)
    exact hname hname'
  · omega

/-- No update frees such an element. -/
lemma NetifStuck.updated (h : NetifStuck i s) (hb : NetifBase i s)
    (attach : Fin n → ℕ → ℕ → Bool) : NetifStuck i (netifStep i s (.updated attach)) := by
  by_cases hp : s.pending = 0
  · simp only [netifStep, hp, if_true]
    exact h
  obtain ⟨cdne, hc, hpos, nii, hmem, hi, hname⟩ := h
  have hu := hb.update hp attach
  have hkept : netifPass s.cs.nllist cdne = { cdne with isAvailable := true } := by
    simp only [netifPass]
    rw [netifDisable_held _ _ hpos, if_pos ⟨nii, hmem, hi⟩]
  refine ⟨netifPass s.cs.nllist cdne, ?_, ?_⟩
  · rw [hu.elems]
    exact List.mem_map_of_mem hc
  · rw [hkept, hu.nllist]
    exact ⟨hpos, nii, hmem, hi, hname⟩

/-- The outstanding updates. -/
lemma netif_drain (h : NetifStuck i s) (hb : NetifBase i s) (attach : Fin n → ℕ → ℕ → Bool) :
    ¬ NetifAssigned i (Transition.run (netifStep i) s
      ((List.replicate s.pending attach).map .updated)) := by
  generalize hk : s.pending = k
  induction k generalizing s with
  | zero => exact h.not_assigned hb hk
  | succ k ih =>
    have hp : s.pending ≠ 0 := by omega
    have hpending := (hb.update hp attach).pending
    exact ih (h.updated hb attach) (hb.updated attach) (by omega)

/-- After a message that is not allowed, the outstanding updates leave some element unassigned. -/
lemma NetifInvariant.not_assigned (h : NetifInvariant i s) {m : LinkMessage}
    (hm : ¬ s.Allows i m) (attach : Fin n → ℕ → ℕ → Bool) :
    ¬ NetifAssigned i (Transition.run (netifStep i) (netifStep i s (.message m))
      ((List.replicate (s.pending + 1) attach).map .updated)) := by
  have hbase := h.toNetifBase.message m
  simp only [NetifState.Allows, not_forall] at hm
  obtain ⟨hnotify, cdne, hc, hpos, hi, hm⟩ := hm
  have hpending : (netifStep i s (.message m)).pending = s.pending + 1 := by
    simp [netifStep, hnotify]
  have helems : (netifStep i s (.message m)).elems i = s.elems i := rfl
  rcases dataCb_cases m s.cs.nllist with e | ⟨ifname, htype, hname, e⟩ | ⟨htype, e⟩
  · simp [e] at hnotify
  · -- the held index comes under another name
    have hstuck : NetifStuck i (netifStep i s (.message m)) := by
      refine ⟨cdne, hc, hpos, ⟨m.ifindex, ifname⟩, ?_, hi.symm, ?_⟩
      · simp [netifStep, e]
      · rintro rfl
        exact hm ⟨fun _ => hname, fun ht => by simp [htype] at ht⟩
    rw [← hpending]
    exact netif_drain hstuck hbase attach
  · -- the held index is removed, and there is one update to follow
    have hidle : s.pending = 0 ∧ ∃ nii ∈ s.cs.nllist, 0 < nii.ifindex ∧
        nii.ifname = cdne.ifname ∧ nii.ifindex ≠ cdne.ifindex := by
      by_contra hno
      refine hm ⟨fun ht => by simp [htype] at ht, fun _ hp nii hmem hpos hname => ?_⟩
      by_contra hne
      exact hno ⟨hp, nii, hmem, hpos, hname, hne⟩
    obtain ⟨hp, nii, hmem, hnpos, hnname, hne⟩ := hidle
    have hlist : (netifStep i s (.message m)).cs.nllist =
        s.cs.nllist.filter fun nfi => nfi.ifindex ≠ m.ifindex := by
      simp [netifStep, e]
    have hu := hbase.update (by omega) attach
    rw [hp]
    intro ha
    have habsent : ¬ ∃ nii ∈ (netifStep i s (.message m)).cs.nllist,
        nii.ifindex = cdne.ifindex := by
      rw [hlist]
      rintro ⟨nii', hmem', hi'⟩
      have hne' := (List.mem_filter.mp hmem').2
      simp [hi', hi] at hne'
    have hremoved : netifPass (netifStep i s (.message m)).cs.nllist cdne =
        { cdne with ifindex := 0, isAvailable := false } := by
      simp only [netifPass]
      rw [netifDisable_held _ _ hpos, if_neg habsent]
    have hassigned := ha.assigned (by simp [hu.pending, hpending, hp])
      (netifPass (netifStep i s (.message m)).cs.nllist cdne) (by
        rw [List.replicate_one, List.map_singleton, Transition.run_cons, Transition.run_nil,
          hu.elems]
        exact List.mem_map_of_mem hc)
    rw [List.replicate_one, List.map_singleton, Transition.run_cons, Transition.run_nil, hu.nllist,
      hremoved, hlist] at hassigned
    have hstill : nii ∈ s.cs.nllist.filter fun nfi => nfi.ifindex ≠ m.ifindex :=
      List.mem_filter.mpr ⟨hmem, by simpa [← hi] using hne⟩
    rcases hassigned with ⟨nii', -, hpos', -, hi', -⟩ | ⟨hnone, -⟩
    · simp only at hi'
      omega
    · exact hnone nii hstill hnpos hnname

/-! ### Whole runs -/

/-- What an assigned run asks of its messages. -/
lemma NetifInvariant.guarded (h : NetifInvariant i s) {as : List (NetifAction n)}
    (has : ∀ bs, bs <+: as → ∀ passes : List (Fin n → ℕ → ℕ → Bool), NetifAssigned i
      (Transition.run (netifStep i) s (bs ++ passes.map .updated))) :
    Transition.Guarded (netifStep i) (NetifStepAllowed i) s as := by
  induction as generalizing s with
  | nil => trivial
  | cons a as ih =>
    have ha : NetifStepAllowed i s a := by
      cases a with
      | updated attach => trivial
      | message m =>
        by_contra hm
        have hrun := has [.message m] ⟨as, rfl⟩
          (List.replicate (s.pending + 1) fun _ _ _ => true)
        exact h.not_assigned hm _ hrun
    refine ⟨ha, ih (h.step ha) ?_⟩
    intro bs hbs passes
    exact has (a :: bs) (List.cons_prefix_cons.mpr ⟨rfl, hbs⟩) passes

/-- In a run from the start of the guest, the elements are assigned at every point, and after any
further updates, exactly when every message is allowed. -/
theorem netif_assigned_iff (h : NetifStart i s) (as : List (NetifAction n)) :
    (∀ bs, bs <+: as → ∀ passes : List (Fin n → ℕ → ℕ → Bool), NetifAssigned i
        (Transition.run (netifStep i) s (bs ++ passes.map .updated))) ↔
      Transition.Guarded (netifStep i) (NetifStepAllowed i) s as := by
  constructor
  · exact h.invariant.guarded
  · rintro has bs ⟨cs, rfl⟩ passes
    have hbs := ((Transition.guarded_append _ _ _ _ _).mp has).1
    have hpasses : ∀ s, Transition.Guarded (netifStep i) (NetifStepAllowed i) s
        (passes.map .updated) := by
      intro s
      induction passes generalizing s with
      | nil => trivial
      | cons attach passes ih => exact ⟨trivial, ih _⟩
    have hinv := Transition.run_invariant_of_guarded (G := NetifStepAllowed i)
      (I := NetifInvariant i) (fun s a ha hs => hs.step ha) h.invariant
      ((Transition.guarded_append _ _ _ _ _).mpr ⟨hbs, hpasses _⟩)
    exact hinv.netifAssigned

/-- A started guest that waits for one interface. -/
def clusterOnline : NetifState 1 where
  cs := { containers := fun _ =>
    { name := "cluster", role := "cluster", dynamicNetiflist := [{ ifname := "eth0" }]
      runtimeStat := { status := .started, lxc := some ⟨1⟩ } } }
  pending := 0
  events _ := []

lemma clusterOnline_start : NetifStart 0 clusterOnline :=
  ⟨rfl, by decide, by decide, by decide, fun _ => rfl, by decide⟩

/-- The interface comes, goes, and comes again. -/
def linkUp (ifindex : ℤ) (ifname : String) : NetifAction 1 :=
  .message ⟨.newlink, ifindex, some ifname⟩

def updateAll : NetifAction 1 := .updated fun _ _ _ => true

theorem netif_assigned_iff_replug :
    let as := [linkUp 3 "eth0", updateAll, .message ⟨.dellink, 3, some "eth0"⟩, linkUp 4 "eth0"]
    (∀ bs, bs <+: as → ∀ passes : List (Fin 1 → ℕ → ℕ → Bool), NetifAssigned 0
        (Transition.run (netifStep 0) clusterOnline (bs ++ passes.map .updated))) ↔
      Transition.Guarded (netifStep 0) (NetifStepAllowed 0) clusterOnline as := by
  intro as
  exact netif_assigned_iff clusterOnline_start as

/-- A renamed interface stays with the element that held it. -/
theorem renamed_stays : ¬ NetifAssigned 0
    (Transition.run (netifStep 0) clusterOnline
      [linkUp 3 "eth0", updateAll, linkUp 3 "usb0", updateAll]) := by
  intro h
  have hassigned := h.assigned (by decide) { ifname := "eth0", ifindex := 3, isAvailable := true }
    (by decide)
  rcases hassigned with ⟨nii, hmem, -, hname, -⟩ | ⟨-, hzero⟩
  · have hlist : (Transition.run (netifStep 0) clusterOnline
        [linkUp 3 "eth0", updateAll, linkUp 3 "usb0", updateAll]).cs.nllist = [⟨3, "usb0"⟩] := rfl
    rw [hlist] at hmem
    rw [List.mem_singleton.mp hmem] at hname
    exact absurd hname (by decide)
  · exact absurd hzero (by decide)

end ContainerManager

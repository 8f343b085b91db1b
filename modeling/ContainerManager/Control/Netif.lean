import ContainerManager.Control.Exec
import ContainerManager.External

/-!
# Network interfaces of a guest

The double loop of `container_netif_update_guest` touches each element on its own. So a pass is
described by what it does with one element, and which calls of `attach_interface` it makes for it.
-/

namespace ContainerManager

/-! ### One element -/

/-- The visits of one element, by the host's interfaces in their order. -/
def netifVisits (attach : ℕ → Bool) (nllist : List (NetworkInterfaceInfo × ℕ))
    (cdne : DynamicNetifElem) : DynamicNetifElem :=
  nllist.foldl (fun cdne nii =>
    if nii.1.ifindex ≤ 0 then cdne else netifVisit (attach nii.2) nii.1 cdne) cdne

/-- The indexes for which the visits call `lxcutil_dynamic_networkif_add_to_guest`. -/
def netifAttachCalls (attach : ℕ → Bool) :
    List (NetworkInterfaceInfo × ℕ) → DynamicNetifElem → List ℤ
  | [], _ => []
  | nii :: rest, cdne =>
    if nii.1.ifindex ≤ 0 then netifAttachCalls attach rest cdne
    else
      (if cdne.ifindex = 0 ∧ nii.1.ifname = cdne.ifname then [nii.1.ifindex] else []) ++
        netifAttachCalls attach rest (netifVisit (attach nii.2) nii.1 cdne)

/-- The disabling of a removed interface. -/
def netifDisable (cdne : DynamicNetifElem) : DynamicNetifElem :=
  if ¬ cdne.isAvailable ∧ cdne.ifindex ≠ 0 then { cdne with ifindex := 0 } else cdne

/-- The calls of `lxc->attach_interface` that `container_netif_update_guest` makes for the element
at this place of the list. -/
def containerNetifAttachCalls (attach : ℕ → ℕ → Bool) (nllist : List NetworkInterfaceInfo)
    (cc : ContainerConfig) (k : ℕ) : List ℤ :=
  if cc.runtimeStat.status ≠ .started ∨ cc.runtimeStat.lxc = none then []
  else
    match cc.dynamicNetiflist[k]? with
    | none => []
    | some cdne =>
      netifAttachCalls (fun a => attach a k) nllist.zipIdx { cdne with isAvailable := false }

lemma foldl_mapIdx {α β : Type*} (f : β → ℕ → α → α) (l : List α) (bs : List β) :
    bs.foldl (fun l b => l.mapIdx (f b)) l =
      l.mapIdx fun k a => bs.foldl (fun a b => f b k a) a := by
  induction bs generalizing l with
  | nil =>
    apply List.ext_getElem?
    simp
  | cons b bs ih =>
    rw [List.foldl_cons, ih, List.mapIdx_mapIdx]
    rfl

/-- A pass treats each element of a started guest on its own. -/
lemma containerNetifUpdateGuest_started (attach : ℕ → ℕ → Bool)
    (nllist : List NetworkInterfaceInfo) {cc : ContainerConfig}
    (h : cc.runtimeStat.status = .started) :
    (containerNetifUpdateGuest attach nllist cc).1 = { cc with
      dynamicNetiflist := cc.dynamicNetiflist.mapIdx fun k cdne => netifDisable
        (netifVisits (fun a => cc.runtimeStat.lxc.isSome ∧ attach a k) nllist.zipIdx
          { cdne with isAvailable := false }) } := by
  have hloop : ∀ l : List DynamicNetifElem, nllist.zipIdx.foldl (fun l nii =>
      if nii.1.ifindex ≤ 0 then l
      else l.mapIdx fun k cdne =>
        netifVisit (cc.runtimeStat.lxc.isSome ∧ attach nii.2 k) nii.1 cdne) l =
      l.mapIdx fun k cdne =>
        netifVisits (fun a => cc.runtimeStat.lxc.isSome ∧ attach a k) nllist.zipIdx cdne := by
    intro l
    have hbody : (fun (l : List DynamicNetifElem) (nii : NetworkInterfaceInfo × ℕ) =>
        if nii.1.ifindex ≤ 0 then l
        else l.mapIdx fun k cdne =>
          netifVisit (cc.runtimeStat.lxc.isSome ∧ attach nii.2 k) nii.1 cdne) =
        fun l nii => l.mapIdx fun k cdne => if nii.1.ifindex ≤ 0 then cdne
          else netifVisit (cc.runtimeStat.lxc.isSome ∧ attach nii.2 k) nii.1 cdne := by
      funext l nii
      by_cases hnii : nii.1.ifindex ≤ 0
      · simp only [hnii, if_true]
        apply List.ext_getElem?
        simp
      · simp only [hnii, if_false]
    rw [hbody, foldl_mapIdx]
    rfl
  simp only [containerNetifUpdateGuest, h, ne_eq, not_true, if_false]
  rw [hloop]
  congr 1
  apply List.ext_getElem?
  intro k
  simp only [List.getElem?_map, List.getElem?_mapIdx, Option.map_map]
  rfl

/-! ### A pass whose calls succeed -/

/-- An element that holds an index is only marked when the index is seen. -/
lemma netifVisits_held (attach : ℕ → Bool) {cdne : DynamicNetifElem} (h : 0 < cdne.ifindex)
    (l : List (NetworkInterfaceInfo × ℕ)) :
    netifVisits attach l cdne = { cdne with
        isAvailable := cdne.isAvailable || l.any fun nii => nii.1.ifindex = cdne.ifindex } ∧
      netifAttachCalls attach l cdne = [] := by
  induction l generalizing cdne with
  | nil => simp [netifVisits, netifAttachCalls]
  | cons nii l ih =>
    have hne : cdne.ifindex ≠ 0 := h.ne'
    by_cases hnii : nii.1.ifindex ≤ 0
    · have hother : nii.1.ifindex ≠ cdne.ifindex := by omega
      simpa [netifVisits, netifAttachCalls, hnii, hother] using ih h
    · by_cases hi : cdne.ifindex = nii.1.ifindex
      · have hmark := @ih { cdne with isAvailable := true } h
        have hnz : nii.1.ifindex ≠ 0 := by omega
        simpa [netifVisits, netifAttachCalls, netifVisit, hnii, hne, hi, hnz] using hmark
      · simpa [netifVisits, netifAttachCalls, netifVisit, hnii, hne, hi, Ne.symm hi] using ih h

/-- The visit of a free element by an interface of another name. -/
lemma netifVisit_skip {cdne : DynamicNetifElem} (h : cdne.ifindex = 0) (attach : Bool)
    (nii : NetworkInterfaceInfo) (hn : 0 < nii.ifindex → nii.ifname ≠ cdne.ifname) :
    (if nii.ifindex ≤ 0 then cdne else netifVisit attach nii cdne) = cdne := by
  split_ifs with hnii
  · rfl
  · have hname := hn (by omega)
    have hzero : (0 : ℤ) ≠ nii.ifindex := by omega
    simp [netifVisit, h, hname, hzero]

/-- A free element stays free when there is no interface of its name. -/
lemma netifVisits_missing (attach : ℕ → Bool) {cdne : DynamicNetifElem} (h : cdne.ifindex = 0)
    {l : List (NetworkInterfaceInfo × ℕ)}
    (hnone : ∀ nii ∈ l, 0 < nii.1.ifindex → nii.1.ifname ≠ cdne.ifname) :
    netifVisits attach l cdne = cdne ∧ netifAttachCalls attach l cdne = [] := by
  induction l with
  | nil => exact ⟨rfl, rfl⟩
  | cons nii l ih =>
    obtain ⟨hnii, hrest⟩ := List.forall_mem_cons.mp hnone
    have hskip := netifVisit_skip h (attach nii.2) nii.1 hnii
    obtain ⟨hv, hc⟩ := ih hrest
    constructor
    · simp only [netifVisits, List.foldl_cons]
      rw [hskip]
      exact hv
    · by_cases hle : nii.1.ifindex ≤ 0
      · simpa [netifAttachCalls, hle] using hc
      · rw [if_neg hle] at hskip
        have hname := hnii (by omega)
        simpa [netifAttachCalls, hle, hname, hskip] using hc

/-- A free element takes the first interface of its name. -/
lemma netifVisits_found {cdne : DynamicNetifElem} (h : cdne.ifindex = 0)
    {l : List (NetworkInterfaceInfo × ℕ)}
    (hsome : ¬ ∀ nii ∈ l, 0 < nii.1.ifindex → nii.1.ifname ≠ cdne.ifname) :
    ∃ nii ∈ l, 0 < nii.1.ifindex ∧ nii.1.ifname = cdne.ifname ∧
      netifVisits (fun _ => true) l cdne =
        { cdne with ifindex := nii.1.ifindex, isAvailable := true } ∧
      netifAttachCalls (fun _ => true) l cdne = [nii.1.ifindex] := by
  induction l with
  | nil => simp at hsome
  | cons nii l ih =>
    by_cases htake : 0 < nii.1.ifindex ∧ nii.1.ifname = cdne.ifname
    · obtain ⟨hpos, hname⟩ := htake
      have hnii : ¬ nii.1.ifindex ≤ 0 := by omega
      obtain ⟨hv, hc⟩ := @netifVisits_held (fun _ => true)
        { cdne with ifindex := nii.1.ifindex, isAvailable := true } hpos l
      refine ⟨nii, List.mem_cons_self, hpos, hname, ?_, ?_⟩
      · simpa [netifVisits, netifVisit, hnii, h, hname] using hv
      · simpa [netifAttachCalls, netifVisit, hnii, h, hname] using hc
    · have hskip := netifVisit_skip h true nii.1 fun hpos hname => htake ⟨hpos, hname⟩
      obtain ⟨nii', hmem, hpos, hname, hv, hc⟩ := ih fun hnone =>
        hsome (List.forall_mem_cons.mpr ⟨fun hpos hname => htake ⟨hpos, hname⟩, hnone⟩)
      refine ⟨nii', List.mem_cons_of_mem _ hmem, hpos, hname, ?_, ?_⟩
      · simp only [netifVisits, List.foldl_cons]
        rw [hskip]
        exact hv
      · by_cases hle : nii.1.ifindex ≤ 0
        · simpa [netifAttachCalls, hle] using hc
        · rw [if_neg hle] at hskip
          have hother : nii.1.ifname ≠ cdne.ifname := fun e => htake ⟨by omega, e⟩
          simpa [netifAttachCalls, hle, hother, hskip] using hc

/-- What a pass does with an element, and the calls it makes for it, when the calls succeed. -/
inductive NetifPassed (nllist : List NetworkInterfaceInfo) (cdne : DynamicNetifElem) :
    DynamicNetifElem → List ℤ → Prop where
  /-- a free element takes an interface of its name -/
  | found (nii : NetworkInterfaceInfo) (h : cdne.ifindex = 0) (hmem : nii ∈ nllist)
      (hpos : 0 < nii.ifindex) (hname : nii.ifname = cdne.ifname) :
      NetifPassed nllist cdne { cdne with ifindex := nii.ifindex, isAvailable := true }
        [nii.ifindex]
  | missing (h : cdne.ifindex = 0)
      (hnone : ∀ nii ∈ nllist, 0 < nii.ifindex → nii.ifname ≠ cdne.ifname) :
      NetifPassed nllist cdne { cdne with isAvailable := false } []
  /-- the index is still there, whatever its name -/
  | kept (nii : NetworkInterfaceInfo) (h : 0 < cdne.ifindex) (hmem : nii ∈ nllist)
      (hindex : nii.ifindex = cdne.ifindex) :
      NetifPassed nllist cdne { cdne with isAvailable := true } []
  | removed (h : 0 < cdne.ifindex) (hnone : ∀ nii ∈ nllist, nii.ifindex ≠ cdne.ifindex) :
      NetifPassed nllist cdne { cdne with ifindex := 0, isAvailable := false } []

/-- The element after a pass whose calls succeed. -/
def netifPass (nllist : List NetworkInterfaceInfo) (cdne : DynamicNetifElem) : DynamicNetifElem :=
  netifDisable (netifVisits (fun _ => true) nllist.zipIdx { cdne with isAvailable := false })

lemma forall_mem_zipIdx {α : Type*} {l : List α} {p : α → Prop} :
    (∀ c ∈ l.zipIdx, p c.1) ↔ ∀ a ∈ l, p a := by
  constructor
  · intro h a ha
    obtain ⟨k, hk⟩ := List.mem_iff_getElem?.mp ha
    exact h (a, k) (List.mk_mem_zipIdx_iff_getElem?.mpr hk)
  · intro h c hc
    exact h c.1 (List.fst_mem_of_mem_zipIdx hc)

/-- The element after the visits of one that holds an index, marked or disabled. -/
lemma netifDisable_held (attach : ℕ → Bool) (nllist : List NetworkInterfaceInfo)
    {cdne : DynamicNetifElem} (h : 0 < cdne.ifindex) :
    netifDisable (netifVisits attach nllist.zipIdx { cdne with isAvailable := false }) =
      if ∃ nii ∈ nllist, nii.ifindex = cdne.ifindex then { cdne with isAvailable := true }
      else { cdne with ifindex := 0, isAvailable := false } := by
  rw [(@netifVisits_held attach { cdne with isAvailable := false } h nllist.zipIdx).1]
  have hany : (nllist.zipIdx.any fun nii => nii.1.ifindex = cdne.ifindex) = true ↔
      ∃ nii ∈ nllist, nii.ifindex = cdne.ifindex := by
    have hall := @forall_mem_zipIdx _ nllist fun nii => nii.ifindex ≠ cdne.ifindex
    rw [← not_iff_not]
    simpa using hall
  by_cases hseen : ∃ nii ∈ nllist, nii.ifindex = cdne.ifindex
  · rw [if_pos hseen]
    simp [netifDisable, hany.mpr hseen]
  · have hnot := mt hany.mp hseen
    rw [Bool.not_eq_true] at hnot
    rw [if_neg hseen]
    simp [netifDisable, hnot, h.ne']

lemma netifPass_passed (nllist : List NetworkInterfaceInfo) {cdne : DynamicNetifElem}
    (h : 0 ≤ cdne.ifindex) :
    NetifPassed nllist cdne (netifPass nllist cdne)
      (netifAttachCalls (fun _ => true) nllist.zipIdx { cdne with isAvailable := false }) := by
  simp only [netifPass]
  rcases h.eq_or_lt with h | h
  · have hfree : ({ cdne with isAvailable := false } : DynamicNetifElem).ifindex = 0 := h.symm
    by_cases hnone : ∀ nii ∈ nllist.zipIdx, 0 < nii.1.ifindex → nii.1.ifname ≠ cdne.ifname
    · obtain ⟨hv, hc⟩ := netifVisits_missing (fun _ => true) hfree hnone
      rw [hv, hc]
      have hmissing := NetifPassed.missing h.symm (forall_mem_zipIdx.mp hnone)
      simpa [netifDisable, ← h] using hmissing
    · obtain ⟨nii, hn, hpos, hname, hv, hc⟩ := netifVisits_found hfree hnone
      rw [hv, hc]
      have hfound := NetifPassed.found nii.1 h.symm (List.fst_mem_of_mem_zipIdx hn) hpos hname
      simpa [netifDisable] using hfound
  · rw [netifDisable_held _ _ h,
      (@netifVisits_held _ { cdne with isAvailable := false } h nllist.zipIdx).2]
    by_cases hseen : ∃ nii ∈ nllist, nii.ifindex = cdne.ifindex
    · rw [if_pos hseen]
      obtain ⟨nii, hn, hi⟩ := hseen
      exact .kept nii h hn hi
    · rw [if_neg hseen]
      exact .removed h (by simpa using hseen)

/-- A pass over a started guest with an instance, when the calls succeed. -/
lemma containerNetifUpdateGuest_attached (nllist : List NetworkInterfaceInfo)
    {cc : ContainerConfig} (h : cc.runtimeStat.status = .started)
    (hlxc : cc.runtimeStat.lxc ≠ none) :
    (containerNetifUpdateGuest (fun _ _ => true) nllist cc).1 =
      { cc with dynamicNetiflist := cc.dynamicNetiflist.map (netifPass nllist) } := by
  rw [containerNetifUpdateGuest_started _ _ h]
  have hsome : cc.runtimeStat.lxc.isSome = true := Option.isSome_iff_ne_none.mpr hlxc
  simp only [hsome, and_self, decide_true]
  congr 1
  apply List.ext_getElem?
  intro k
  simp only [List.getElem?_mapIdx, List.getElem?_map]
  rfl

end ContainerManager

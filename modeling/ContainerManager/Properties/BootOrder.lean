import ContainerManager.Refinement.Cyclic
import ContainerManager.System
import Mathlib.Data.Fin.Tuple.Sort
import Mathlib.Data.Prod.Lex

/-!
# Boot priority

Which guests the manager starts after its setup, and in which order. A role starts the guest that
boots automatically and stands last in the sorted order, and the roles are started in the order of
their first guests, whether these boot automatically or not.
-/

namespace ContainerManager

open Containers

variable {n : ℕ} {guests : Fin n → ContainerConfig}

/-! ### Orders and starts -/

/-- An order in which `qsort` with `compare_bootpri` may leave the parsed guests. Guests that
compare equal come in any order. -/
structure SortedConfigs (parsed guests : Fin n → ContainerConfig) : Prop where
  perm : ∃ σ : Equiv.Perm (Fin n), ∀ i, guests i = parsed (σ i)
  sorted : ∀ i j, i < j → compareBootpri (guests i) (guests j) ≤ 0

/-- The guest boots automatically. -/
abbrev ContainerConfig.autoboot (cc : ContainerConfig) : Bool := cc.baseconfig.autoboot

abbrev ContainerConfig.bootpriority (cc : ContainerConfig) : ℤ := cc.baseconfig.bootpriority

/-- The guest whose start this is. -/
def LogEntry.startedGuest : LogEntry n → Option (Fin n)
  | .containerStart i _ => some i
  | _ => none

/-- The guests that `container_start` was called for, in the order of the calls. -/
def Containers.started (cs : Containers n) : List (Fin n) :=
  cs.log.reverse.filterMap LogEntry.startedGuest

/-- Boot priority decides: every role with guests that boot automatically starts one of these with
the least `bootpriority`, other roles start none, and the values do not decrease along the
starts. -/
structure BootsByPriority (guests : Fin n → ContainerConfig) (started : List (Fin n)) : Prop where
  minimal : ∀ i, (guests i).autoboot → ∃ j ∈ started, (guests j).role = (guests i).role ∧
    (guests j).autoboot ∧ ∀ k, (guests k).role = (guests i).role → (guests k).autoboot →
      (guests j).bootpriority ≤ (guests k).bootpriority
  autoboot : ∀ j ∈ started, ∃ i, (guests i).role = (guests j).role ∧ (guests i).autoboot
  ordered : started.Pairwise fun i j => (guests i).bootpriority ≤ (guests j).bootpriority

/-- The guests of a role that boot automatically have one priority, and when it is above that of
another role, some guest of the role is above all guests of the other. -/
structure PrioritiesAgree (guests : Fin n → ContainerConfig) : Prop where
  equal : ∀ i j, (guests i).autoboot → (guests j).autoboot →
    (guests i).role = (guests j).role → (guests i).bootpriority = (guests j).bootpriority
  leads : ∀ i j, (guests i).autoboot → (guests j).autoboot →
    (guests i).bootpriority < (guests j).bootpriority → ∃ k, (guests k).role = (guests i).role ∧
      ∀ m, (guests m).role = (guests j).role → (guests k).bootpriority < (guests m).bootpriority

/-! ### The role list -/

/-- The guest boots automatically in the role. -/
def bootsIn (guests : Fin n → ContainerConfig) (role : String) (i : Fin n) : Bool :=
  (guests i).role = role ∧ (guests i).autoboot

/-- Among the guests seen, one of the first role comes before all of the second. -/
def Precedes (guests : Fin n → ContainerConfig) (seen : List (Fin n)) (first second : String) :
    Prop :=
  ∃ i ∈ seen, (guests i).role = first ∧ ∀ j ∈ seen, (guests j).role = second → i < j

/-- What the loop over the guests has built from those it has seen: the head of an entry is the last
of its guests that boots automatically, and an entry before another precedes it. -/
structure RolesBound (guests : Fin n → ContainerConfig) (seen : List (Fin n))
    (l : List (RoleConfig n)) : Prop where
  mem : ∀ i ∈ seen, ∃ c ∈ l, c.name = (guests i).role
  used : ∀ c ∈ l, ∃ i ∈ seen, (guests i).role = c.name
  head : ∀ c ∈ l, c.containerList.head? = some (seen.filter (bootsIn guests c.name)).getLast?
  order : l.Pairwise fun c d => Precedes guests seen c.name d.name

/-- The head of an entry, after a guest of its role was added. -/
lemma RoleConfig.head?_addGuest {c : RoleConfig n} {seen : List (Fin n)} {i : Fin n}
    (hc : c.containerList.head? = some (seen.filter (bootsIn guests c.name)).getLast?)
    (hi : c.name = (guests i).role) :
    (c.addGuest (guests i).autoboot i).containerList.head? =
      some ((seen ++ [i]).filter (bootsIn guests c.name)).getLast? := by
  rw [List.filter_append]
  cases hb : (guests i).autoboot with
  | true =>
    have hboots : bootsIn guests c.name i = true := by simp [bootsIn, hi, hb]
    simp [RoleConfig.addGuest, hboots]
  | false =>
    have hboots : bootsIn guests c.name i = false := by simp [bootsIn, hb]
    obtain ⟨x, t, e⟩ : ∃ x t, c.containerList = x :: t := by
      cases hl : c.containerList with
      | nil => simp [hl] at hc
      | cons x t => exact ⟨x, t, rfl⟩
    rw [e] at hc
    simpa [RoleConfig.addGuest, hboots, e] using hc

/-- A guest of another role does not change the head that an entry should have. -/
lemma filter_bootsIn_append {seen : List (Fin n)} {role : String} {i : Fin n}
    (hi : (guests i).role ≠ role) :
    (seen ++ [i]).filter (bootsIn guests role) = seen.filter (bootsIn guests role) := by
  have hboots : bootsIn guests role i = false := by simp [bootsIn, hi]
  simp [List.filter_append, hboots]

lemma Precedes.append {seen : List (Fin n)} {first second : String} {i : Fin n}
    (h : Precedes guests seen first second) (hi : ∀ j ∈ seen, j < i) :
    Precedes guests (seen ++ [i]) first second := by
  obtain ⟨f, hf, hfirst, hsecond⟩ := h
  refine ⟨f, List.mem_append_left _ hf, hfirst, ?_⟩
  intro j hj hjs
  rcases List.mem_append.mp hj with hj | hj
  · exact hsecond j hj hjs
  · obtain rfl := List.mem_singleton.mp hj
    exact hi f hf

section Bind

variable {seen : List (Fin n)} {l : List (RoleConfig n)} {i : Fin n}

/-- A guest is added to the entry of its role. -/
lemma RolesBound.addGuest (h : RolesBound guests seen l) (hi : ∀ j ∈ seen, j < i)
    (hany : ∃ c ∈ l, c.name = (guests i).role) :
    RolesBound guests (seen ++ [i]) (l.map fun c =>
      if c.name = (guests i).role then c.addGuest (guests i).autoboot i else c) := by
  have hname := fun c : RoleConfig n =>
    c.ite_addGuest_name (guests i).role (guests i).autoboot i
  constructor
  · intro j hj
    obtain ⟨c, hc, hcj⟩ : ∃ c ∈ l, c.name = (guests j).role := by
      rcases List.mem_append.mp hj with hj | hj
      · exact h.mem j hj
      · obtain rfl := List.mem_singleton.mp hj
        exact hany
    exact ⟨_, List.mem_map_of_mem hc, (hname c).trans hcj⟩
  · intro c' hc'
    obtain ⟨c, hc, rfl⟩ := List.mem_map.mp hc'
    obtain ⟨j, hj, hjc⟩ := h.used c hc
    exact ⟨j, List.mem_append_left _ hj, hjc.trans (hname c).symm⟩
  · intro c' hc'
    obtain ⟨c, hc, rfl⟩ := List.mem_map.mp hc'
    rw [hname]
    split_ifs with hcn
    · exact RoleConfig.head?_addGuest (h.head c hc) hcn
    · rw [filter_bootsIn_append fun e => hcn e.symm]
      exact h.head c hc
  · apply List.pairwise_map.mpr
    apply h.order.imp
    intro c d hcd
    rw [hname, hname]
    exact hcd.append hi

/-- A guest of a new role gets a new entry at the end. -/
lemma RolesBound.addRole (h : RolesBound guests seen l) (hi : ∀ j ∈ seen, j < i)
    (hfresh : ∀ c ∈ l, c.name ≠ (guests i).role) :
    RolesBound guests (seen ++ [i]) (l ++ [({ name := (guests i).role, containerList := [none] } :
      RoleConfig n).addGuest (guests i).autoboot i]) := by
  have hunseen : ∀ j ∈ seen, (guests j).role ≠ (guests i).role := by
    intro j hj hji
    obtain ⟨c, hc, hcj⟩ := h.mem j hj
    exact hfresh c hc (hcj.trans hji)
  constructor
  · intro j hj
    rcases List.mem_append.mp hj with hj | hj
    · obtain ⟨c, hc, hcj⟩ := h.mem j hj
      exact ⟨c, List.mem_append_left _ hc, hcj⟩
    · obtain rfl := List.mem_singleton.mp hj
      exact ⟨_, List.mem_append_right _ List.mem_cons_self, rfl⟩
  · intro c hc
    rcases List.mem_append.mp hc with hc | hc
    · obtain ⟨j, hj, hjc⟩ := h.used c hc
      exact ⟨j, List.mem_append_left _ hj, hjc⟩
    · obtain rfl := List.mem_singleton.mp hc
      exact ⟨i, by simp, rfl⟩
  · intro c hc
    rcases List.mem_append.mp hc with hc | hc
    · rw [filter_bootsIn_append fun e => hfresh c hc e.symm]
      exact h.head c hc
    · obtain rfl := List.mem_singleton.mp hc
      have hnone : seen.filter (bootsIn guests (guests i).role) = [] := by
        apply List.filter_eq_nil_iff.mpr
        intro j hj
        simp [bootsIn, hunseen j hj]
      refine RoleConfig.head?_addGuest ?_ rfl
      rw [hnone]
      rfl
  · refine List.pairwise_append.mpr ⟨?_, List.pairwise_singleton _ _, ?_⟩
    · exact h.order.imp fun hcd => hcd.append hi
    · intro c hc d hd
      obtain rfl := List.mem_singleton.mp hd
      obtain ⟨f, hf, hfc⟩ := h.used c hc
      have hprecedes : Precedes guests seen c.name (guests i).role :=
        ⟨f, hf, hfc, fun j hj hjd => absurd hjd (hunseen j hj)⟩
      exact hprecedes.append hi

lemma RolesBound.bindContainer (h : RolesBound guests seen l) (hi : ∀ j ∈ seen, j < i) :
    RolesBound guests (seen ++ [i]) (bindContainer guests l i) := by
  rcases bindContainer_cases guests l i with ⟨hany, e⟩ | ⟨hfresh, e⟩
  · rw [e]
    exact h.addGuest hi hany
  · rw [e]
    exact h.addRole hi hfresh

end Bind

lemma bindContainerToRoleList_bound (guests : Fin n → ContainerConfig) :
    RolesBound guests (List.finRange n) (bindContainerToRoleList guests) := by
  have key : ∀ seen : List (Fin n), seen.Pairwise (· < ·) →
      RolesBound guests seen (seen.foldl (bindContainer guests) []) := by
    intro seen
    induction seen using List.reverseRecOn with
    | nil => exact fun _ => ⟨by simp, by simp, by simp, .nil⟩
    | append_singleton seen i ih =>
      intro hs
      obtain ⟨hseen, -, hlt⟩ := List.pairwise_append.mp hs
      rw [List.foldl_append]
      exact (ih hseen).bindContainer fun j hj => hlt j hj i List.mem_cons_self
  exact key _ (List.pairwise_lt_finRange n)

/-! ### The starts -/

/-- The start of a role starts its active guest. -/
lemma containerStartByRole_started (sys : VisitSys) (cs : Containers n) (role : String) :
    (containerStartByRole sys cs role).1.roleList = cs.roleList ∧
      (containerStartByRole sys cs role).1.started =
        cs.started ++ (containerGetActiveGuestByRole cs.roleList role).toList := by
  simp only [containerStartByRole]
  split
  · rename_i hnone
    simp [hnone]
  · rename_i i hi
    obtain ⟨containers, event, e⟩ :=
      startGuest_frame sys (cs.setGuest i (enableGuest (cs.containers i))) i
    rw [e, hi]
    refine ⟨rfl, ?_⟩
    simp [started, LogEntry.startedGuest, setGuest]

lemma startRoles_started (sys : ℕ → VisitSys) (rest : List (RoleConfig n × ℕ))
    (cs : Containers n) :
    (rest.foldl (fun s c => (containerStartByRole (sys c.2) s c.1.name).1) cs).started =
      cs.started ++ rest.filterMap fun c =>
        containerGetActiveGuestByRole cs.roleList c.1.name := by
  induction rest generalizing cs with
  | nil => simp
  | cons c rest ih =>
    obtain ⟨hroles, hstarted⟩ := containerStartByRole_started (sys c.2) cs c.1.name
    rw [List.foldl_cons, ih, hroles, hstarted, List.append_assoc]
    cases h : containerGetActiveGuestByRole cs.roleList c.1.name <;> simp [h]

/-- The active guest of a role is the head of its entry. -/
lemma containerGetActiveGuestByRole_eq {l : List (RoleConfig n)}
    (hl : (l.map RoleConfig.name).Nodup) {c : RoleConfig n} (hc : c ∈ l) :
    containerGetActiveGuestByRole l c.name = c.containerList.head?.join := by
  simp only [containerGetActiveGuestByRole]
  split
  · rename_i hnone
    have := List.find?_eq_none.mp hnone c hc
    simp at this
  · rename_i d hd
    have hname : d.name = c.name := by simpa using List.find?_some hd
    rw [List.inj_on_of_nodup_map hl (List.mem_of_find?_eq_some hd) hc hname]

/-- The manager starts the heads of the role list. -/
lemma containerMngsmStart_started (sys : ℕ → VisitSys) (notify : Bool)
    (guests : Fin n → ContainerConfig) (mountList : List MountElem) :
    (containerMngsmStart sys notify (setupManager guests mountList)).started =
      (bindContainerToRoleList guests).filterMap fun c => c.containerList.head?.join := by
  have hroles := startRoles_started sys (bindContainerToRoleList guests).zipIdx
    (setupManager guests mountList)
  simp only [containerMngsmStart]
  rw [send_frame]
  apply hroles.trans
  rw [show (setupManager guests mountList).started = [] from rfl, List.nil_append]
  conv_rhs => rw [← List.zipIdx_map_fst 0 (bindContainerToRoleList guests), List.filterMap_map]
  refine List.filterMap_congr fun c hc => ?_
  exact containerGetActiveGuestByRole_eq (bindContainerToRoleList_wellFormed guests).nodup
    (List.fst_mem_of_mem_zipIdx hc)

/-- The starts: of every role with guests that boot automatically the last of these, and the roles
in the order of their first guests. -/
structure StartSequence (guests : Fin n → ContainerConfig) (l : List (Fin n)) : Prop where
  covers : ∀ k, (guests k).autoboot → ∃ i ∈ l, (guests i).role = (guests k).role
  autoboot : ∀ i ∈ l, (guests i).autoboot
  last : ∀ i ∈ l, ∀ k, (guests k).autoboot → (guests k).role = (guests i).role → k ≤ i
  order : l.Pairwise fun i j => ∃ f, (guests f).role = (guests i).role ∧
    ∀ k, (guests k).role = (guests j).role → f < k

/-- The last element of a sorted list that has a property. -/
lemma getLast?_filter_spec {p : Fin n → Bool} {l : List (Fin n)} (hl : l.Pairwise (· < ·))
    {i : Fin n} (h : (l.filter p).getLast? = some i) :
    p i = true ∧ ∀ k ∈ l, p k = true → k ≤ i := by
  obtain ⟨init, hinit⟩ := List.getLast?_eq_some_iff.mp h
  have hsorted : (init ++ [i]).Pairwise (· < ·) := hinit ▸ hl.sublist List.filter_sublist
  have hmem : i ∈ l.filter p := hinit ▸ List.mem_append_right _ List.mem_cons_self
  refine ⟨(List.mem_filter.mp hmem).2, fun k hk hp => ?_⟩
  have hk' : k ∈ init ++ [i] := hinit ▸ List.mem_filter.mpr ⟨hk, hp⟩
  rcases List.mem_append.mp hk' with hk' | hk'
  · exact ((List.pairwise_append.mp hsorted).2.2 k hk' i List.mem_cons_self).le
  · exact (List.mem_singleton.mp hk').le

lemma containerMngsmStart_sequence (sys : ℕ → VisitSys) (notify : Bool)
    (guests : Fin n → ContainerConfig) (mountList : List MountElem) :
    StartSequence guests
      (containerMngsmStart sys notify (setupManager guests mountList)).started := by
  have h := bindContainerToRoleList_bound guests
  rw [containerMngsmStart_started]
  -- the head of an entry
  have hhead : ∀ c ∈ bindContainerToRoleList guests, ∀ i, c.containerList.head?.join = some i →
      ((guests i).role = c.name ∧ (guests i).autoboot) ∧
        ∀ k, (guests k).autoboot → (guests k).role = c.name → k ≤ i := by
    intro c hc i hi
    rw [h.head c hc] at hi
    obtain ⟨hp, hlast⟩ := getLast?_filter_spec (List.pairwise_lt_finRange n) hi
    refine ⟨by simpa [bootsIn] using hp, ?_⟩
    intro k hb hr
    exact hlast k (List.mem_finRange k) (by simp [bootsIn, hb, hr])
  constructor
  · intro k hk
    obtain ⟨c, hc, hck⟩ := h.mem k (List.mem_finRange k)
    have hne : (List.finRange n).filter (bootsIn guests c.name) ≠ [] := by
      refine List.ne_nil_of_mem (List.mem_filter.mpr ⟨List.mem_finRange k, ?_⟩)
      simp [bootsIn, hck, hk]
    have hi := h.head c hc
    rw [List.getLast?_eq_some_getLast hne] at hi
    have hjoin : c.containerList.head?.join = some (List.getLast _ hne) := by rw [hi]; rfl
    exact ⟨_, List.mem_filterMap.mpr ⟨c, hc, hjoin⟩, (hhead c hc _ hjoin).1.1.trans hck⟩
  · intro i hi
    obtain ⟨c, hc, hci⟩ := List.mem_filterMap.mp hi
    exact (hhead c hc i hci).1.2
  · intro i hi k hb hr
    obtain ⟨c, hc, hci⟩ := List.mem_filterMap.mp hi
    exact (hhead c hc i hci).2 k hb (hr.trans (hhead c hc i hci).1.1)
  · refine List.pairwise_filterMap.mpr (h.order.imp_of_mem fun hc hd hcd i hi j hj => ?_)
    obtain ⟨f, -, hf, hfirst⟩ := hcd
    rw [(hhead _ hc i hi).1.1, (hhead _ hd j hj).1.1]
    exact ⟨f, hf, fun k hk => hfirst k (List.mem_finRange k) hk⟩

/-! ### Priorities -/

lemma compareBootpri_nonpos {cc1 cc2 : ContainerConfig} :
    compareBootpri cc1 cc2 ≤ 0 ↔ cc1.bootpriority ≤ cc2.bootpriority := by
  simp only [compareBootpri, ContainerConfig.bootpriority]
  split_ifs <;> constructor <;> intro h <;> omega

lemma SortedConfigs.le {parsed : Fin n → ContainerConfig} (hs : SortedConfigs parsed guests)
    {i j : Fin n} (hij : i ≤ j) : (guests i).bootpriority ≤ (guests j).bootpriority := by
  rcases hij.eq_or_lt with rfl | hij
  · exact le_rfl
  · exact compareBootpri_nonpos.mp (hs.sorted i j hij)

/-- There is an order in which a role comes before the others of its priority. -/
lemma exists_sortedConfigs (parsed : Fin n → ContainerConfig) (role : String) :
    ∃ guests, SortedConfigs parsed guests ∧ ∀ i j, i < j → (guests i).role ≠ role →
      (guests j).role = role → (guests i).bootpriority < (guests j).bootpriority := by
  let key (i : Fin n) : ℤ ×ₗ ℕ :=
    toLex ((parsed i).bootpriority, if (parsed i).role = role then 0 else 1)
  have hkey := fun i j (hij : i < j) =>
    (Prod.Lex.toLex_le_toLex.mp (Tuple.monotone_sort key hij.le) :)
  refine ⟨parsed ∘ Tuple.sort key, ⟨⟨Tuple.sort key, fun _ => rfl⟩, fun i j hij => ?_⟩,
    fun i j hij hi hj => ?_⟩
  · apply compareBootpri_nonpos.mpr
    rcases hkey i j hij with hlt | ⟨heq, -⟩
    · exact le_of_lt hlt
    · exact le_of_eq heq
  · rcases hkey i j hij with hlt | ⟨-, hle⟩
    · exact hlt
    · simp only [Function.comp_apply] at hi hj
      simp [hi, hj] at hle

/-- An order of the guests has the priorities of the parsed guests. -/
lemma PrioritiesAgree.sorted {parsed : Fin n → ContainerConfig} (h : PrioritiesAgree parsed)
    (hs : SortedConfigs parsed guests) : PrioritiesAgree guests := by
  obtain ⟨σ, hσ⟩ := hs.perm
  obtain rfl : guests = parsed ∘ σ := funext hσ
  refine ⟨fun i j hi hj hr => h.equal (σ i) (σ j) hi hj hr, ?_⟩
  intro i j hi hj hlt
  obtain ⟨k, hk, hlead⟩ := h.leads (σ i) (σ j) hi hj hlt
  exact ⟨σ.symm k, by simpa using hk, fun m hm => by simpa using hlead (σ m) hm⟩

namespace StartSequence

variable {parsed : Fin n → ContainerConfig} {l : List (Fin n)}

lemma boots (h : StartSequence guests l) (hs : SortedConfigs parsed guests)
    (ha : PrioritiesAgree guests) : BootsByPriority guests l := by
  refine ⟨?_, fun j hj => ⟨j, rfl, h.autoboot j hj⟩, ?_⟩
  · intro i hi
    obtain ⟨j, hj, hji⟩ := h.covers i hi
    refine ⟨j, hj, hji, h.autoboot j hj, ?_⟩
    intro k hk hb
    exact (ha.equal j k (h.autoboot j hj) hb (hji.trans hk.symm)).le
  · refine h.order.imp_of_mem fun {i j} hi hj hij => ?_
    obtain ⟨f, hf, hfirst⟩ := hij
    by_contra! hlt
    -- the role that is started later would have a guest before all of this one's
    obtain ⟨k, hk, hlead⟩ := ha.leads j i (h.autoboot j hj) (h.autoboot i hi) hlt
    exact absurd (hs.le (hfirst k hk).le) (not_le.mpr (hlead f hf))

/-- The last guest of a role is one of the least priority value only when all have that value. -/
lemma equal (h : StartSequence guests l) (hs : SortedConfigs parsed guests)
    (hb : BootsByPriority guests l) {i j : Fin n} (hi : (guests i).autoboot)
    (hj : (guests j).autoboot) (hr : (guests i).role = (guests j).role) :
    (guests i).bootpriority = (guests j).bootpriority := by
  obtain ⟨m, hm, hmi, -, hmin⟩ := hb.minimal i hi
  have hle : ∀ k, (guests k).role = (guests i).role → (guests k).autoboot →
      (guests k).bootpriority = (guests m).bootpriority := fun k hk hbk =>
    le_antisymm (hs.le (h.last m hm k hbk (hk.trans hmi.symm))) (hmin k hk hbk)
  rw [hle i rfl hi, hle j hr.symm hj]

/-- The starts of two roles whose priorities differ: the role above has a guest before all of the
other's. -/
lemma leads (h : StartSequence guests l) (hs : SortedConfigs parsed guests)
    (hb : BootsByPriority guests l) {i j : Fin n} (hi : (guests i).autoboot)
    (hj : (guests j).autoboot) (hlt : (guests i).bootpriority < (guests j).bootpriority) :
    ∃ f, (guests f).role = (guests i).role ∧ ∀ m, (guests m).role = (guests j).role → f < m := by
  obtain ⟨a, ha, hai⟩ := h.covers i hi
  obtain ⟨b, hbl, hbj⟩ := h.covers j hj
  have hpa : (guests a).bootpriority = (guests i).bootpriority :=
    h.equal hs hb (h.autoboot a ha) hi hai
  have hpb : (guests b).bootpriority = (guests j).bootpriority :=
    h.equal hs hb (h.autoboot b hbl) hj hbj
  have hordered := List.pairwise_iff_getElem.mp (h.order.and hb.ordered)
  obtain ⟨x, hx, rfl⟩ := List.mem_iff_getElem.mp ha
  obtain ⟨y, hy, rfl⟩ := List.mem_iff_getElem.mp hbl
  rcases lt_trichotomy x y with hxy | rfl | hyx
  · obtain ⟨⟨f, hf, hfirst⟩, -⟩ := hordered x y hx hy hxy
    exact ⟨f, hf.trans hai, fun m hm => hfirst m (hm.trans hbj.symm)⟩
  · omega
  · have hle := (hordered y x hy hx hyx).2
    omega

end StartSequence

/-! ### Boot priority decides -/

/-- Whatever order the sort leaves, boot priority decides exactly when the priorities agree. -/
theorem boots_by_priority_iff (parsed : Fin n → ContainerConfig) (mountList : List MountElem)
    (sys : ℕ → VisitSys) (notify : Bool) :
    (∀ guests, SortedConfigs parsed guests → BootsByPriority guests
      (containerMngsmStart sys notify (setupManager guests mountList)).started) ↔
    PrioritiesAgree parsed := by
  have hseq := fun guests : Fin n → ContainerConfig =>
    containerMngsmStart_sequence sys notify guests mountList
  constructor
  · intro h
    have hequal : ∀ i j, (parsed i).autoboot → (parsed j).autoboot →
        (parsed i).role = (parsed j).role →
        (parsed i).bootpriority = (parsed j).bootpriority := by
      intro i j hi hj hr
      obtain ⟨guests, hs, -⟩ := exists_sortedConfigs parsed (parsed i).role
      obtain ⟨σ, hσ⟩ := hs.perm
      have he := (hseq guests).equal hs (h guests hs) (i := σ.symm i) (j := σ.symm j)
      simpa [hσ] using he (by simpa [hσ] using hi) (by simpa [hσ] using hj) (by simpa [hσ] using hr)
    refine ⟨hequal, ?_⟩
    intro i j hi hj hlt
    have hrole : (parsed i).role ≠ (parsed j).role := fun hr => hlt.ne (hequal i j hi hj hr)
    -- the order in which the other role comes first among the guests of a priority
    obtain ⟨guests, hs, hfirst⟩ := exists_sortedConfigs parsed (parsed j).role
    obtain ⟨σ, hσ⟩ := hs.perm
    obtain ⟨f, hf, hlead⟩ := (hseq guests).leads hs (h guests hs) (i := σ.symm i) (j := σ.symm j)
      (by simpa [hσ] using hi) (by simpa [hσ] using hj) (by simpa [hσ] using hlt)
    simp only [hσ, Equiv.apply_symm_apply] at hf hlead
    refine ⟨σ f, hf, ?_⟩
    intro m hm
    have hlt' := hfirst f (σ.symm m) (hlead _ (by simpa using hm)) (by rwa [hσ, hf])
      (by simpa [hσ] using hm)
    simpa [hσ] using hlt'
  · intro ha guests hs
    exact (hseq guests).boots hs (ha.sorted hs)

/-- Two guests of one role that boot automatically. -/
def rankedGuests (i : Fin 2) : ContainerConfig :=
  if i.val = 0 then freshGuest "ivi-a" "ivi" { autoboot := true, bootpriority := 1 }
  else freshGuest "ivi-b" "ivi" { autoboot := true, bootpriority := 2 }

/-- The guest of the higher priority value is started, though 1 is the highest priority. -/
theorem lower_priority_started :
    let started := (containerMngsmStart (fun _ => visitOk) true
      (setupManager rankedGuests [])).started
    SortedConfigs rankedGuests rankedGuests ∧ started = [1] ∧
      ¬ BootsByPriority rankedGuests started := by
  have hstarted : (containerMngsmStart (fun _ => visitOk) true
      (setupManager rankedGuests [])).started = [1] := by
    rw [containerMngsmStart_started]
    decide
  dsimp only
  rw [hstarted]
  refine ⟨⟨⟨1, fun _ => rfl⟩, by decide⟩, rfl, ?_⟩
  intro h
  obtain ⟨j, hj, -, -, hmin⟩ := h.minimal 0 rfl
  obtain rfl := List.mem_singleton.mp hj
  exact absurd (hmin 0 rfl rfl) (by decide)

end ContainerManager

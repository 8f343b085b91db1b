import ContainerManager.Data
import ContainerManager.Lib.Loop

/-!
# Role lists

The order and the role list of `container-config.c`, the lookup of the active guest and the
reordering behind the change-active-guest command. Allocations succeed. A role list is well formed
when no role has two entries and every entry only holds guests of its role.
-/

namespace ContainerManager

variable {n : ℕ}

/-- `compare_bootpri`. -/
def compareBootpri (cc1 cc2 : ContainerConfig) : ℤ :=
  if cc1.baseconfig.bootpriority < cc2.baseconfig.bootpriority then -1
  else if cc1.baseconfig.bootpriority > cc2.baseconfig.bootpriority then 1
  else 0

/-- A guest goes to the top of its role when it boots automatically, else to the tail. -/
def RoleConfig.addGuest (c : RoleConfig n) (autoboot : Bool) (i : Fin n) : RoleConfig n :=
  { c with
    containerList := if autoboot then some i :: c.containerList else c.containerList ++ [some i] }

/-- One pass of `bind_container_to_role_list`: the guest is added to the entries of its role, or to
a new entry that holds only the terminator. -/
def bindContainer (guests : Fin n → ContainerConfig) (roleList : List (RoleConfig n)) (i : Fin n) :
    List (RoleConfig n) :=
  let role := (guests i).role
  let autoboot := (guests i).baseconfig.autoboot
  if roleList.any fun c => c.name = role then
    roleList.map fun c => if c.name = role then c.addGuest autoboot i else c
  else roleList ++ [({ name := role, containerList := [none] } : RoleConfig n).addGuest autoboot i]

/-- `bind_container_to_role_list`. -/
def bindContainerToRoleList (guests : Fin n → ContainerConfig) : List (RoleConfig n) :=
  Loop.forEach (bindContainer guests) []

/-- `container_get_active_guest_by_role`: the head of the first entry of the role, unless it is the
terminator. -/
def containerGetActiveGuestByRole (roleList : List (RoleConfig n)) (role : String) :
    Option (Fin n) :=
  match roleList.find? fun c => c.name = role with
  | none => none
  | some c => c.containerList.head?.join

/-- The element's guest has this name. -/
def isNamed (guests : Fin n → ContainerConfig) (name : String) (elem : Option (Fin n)) : Bool :=
  elem.any fun i => (guests i).name = name

/-- The reordering of one role's list in `container_external_interface_command_change`: the active
guest moves to the tail, then the first guest of the requested name to the top. -/
def changeContainerList (guests : Fin n → ContainerConfig) (name : String)
    (l : List (Option (Fin n))) : List (Option (Fin n)) × Bool :=
  match l with
  | some h :: t =>
    let moved := t ++ [some h]
    match moved.find? (isNamed guests name) with
    | some elem => (elem :: moved.eraseP (isNamed guests name), true)
    | none => (moved, false)
  | _ => (l, false)

/-- The reordering of the first entry of the role; whether the command is accepted. -/
def changeRoleList (guests : Fin n → ContainerConfig) (name role : String) :
    List (RoleConfig n) → List (RoleConfig n) × Bool
  | [] => ([], false)
  | c :: cs =>
    if c.name = role then
      let r := changeContainerList guests name c.containerList
      ({ c with containerList := r.1 } :: cs, r.2)
    else
      let r := changeRoleList guests name role cs
      (c :: r.1, r.2)

/-! ### Well formed role lists -/

/-- The entries hold guests of their own role only, and no role has two entries. -/
structure RolesWellFormed (role : Fin n → String) (l : List (RoleConfig n)) : Prop where
  nodup : (l.map RoleConfig.name).Nodup
  own : ∀ c ∈ l, ∀ i, some i ∈ c.containerList → role i = c.name

@[simp] lemma RoleConfig.addGuest_name (c : RoleConfig n) (autoboot : Bool) (i : Fin n) :
    (c.addGuest autoboot i).name = c.name := rfl

lemma RoleConfig.mem_addGuest {c : RoleConfig n} {autoboot : Bool} {i : Fin n}
    {x : Option (Fin n)} :
    x ∈ (c.addGuest autoboot i).containerList ↔ x = some i ∨ x ∈ c.containerList := by
  cases autoboot <;> simp [RoleConfig.addGuest, or_comm]

lemma RoleConfig.ite_addGuest_name (c : RoleConfig n) (role : String) (autoboot : Bool)
    (i : Fin n) : (if c.name = role then c.addGuest autoboot i else c).name = c.name := by
  split_ifs <;> rfl

/-- The ways the loop adds a guest: to the entries of its role, or to a new entry. -/
lemma bindContainer_cases (guests : Fin n → ContainerConfig) (l : List (RoleConfig n))
    (i : Fin n) :
    (∃ c ∈ l, c.name = (guests i).role) ∧ bindContainer guests l i = l.map (fun c =>
        if c.name = (guests i).role then c.addGuest (guests i).baseconfig.autoboot i else c) ∨
      (∀ c ∈ l, c.name ≠ (guests i).role) ∧ bindContainer guests l i =
        l ++ [({ name := (guests i).role, containerList := [none] } : RoleConfig n).addGuest
          (guests i).baseconfig.autoboot i] := by
  simp only [bindContainer]
  by_cases hany : l.any fun c => c.name = (guests i).role
  · rw [if_pos hany]
    exact Or.inl ⟨by simpa using hany, rfl⟩
  · rw [if_neg hany]
    exact Or.inr ⟨by simpa using hany, rfl⟩

lemma bindContainer_nodup (guests : Fin n → ContainerConfig) {l : List (RoleConfig n)} (i : Fin n)
    (h : (l.map RoleConfig.name).Nodup) :
    ((bindContainer guests l i).map RoleConfig.name).Nodup := by
  rcases bindContainer_cases guests l i with ⟨-, e⟩ | ⟨hfresh, e⟩
  · rw [e, List.map_map]
    simpa only [Function.comp_def, RoleConfig.ite_addGuest_name] using h
  · rw [e, List.map_append, List.nodup_append]
    refine ⟨h, by simp, ?_⟩
    intro a ha b hb
    obtain ⟨c, hc, rfl⟩ := List.mem_map.mp ha
    obtain rfl : b = (guests i).role := by simpa using hb
    exact hfresh c hc

lemma bindContainer_wellFormed (guests : Fin n → ContainerConfig) (l : List (RoleConfig n))
    (i : Fin n) (h : RolesWellFormed (fun j => (guests j).role) l) :
    RolesWellFormed (fun j => (guests j).role) (bindContainer guests l i) := by
  refine ⟨bindContainer_nodup guests i h.nodup, ?_⟩
  intro c hc j hj
  rcases bindContainer_cases guests l i with ⟨-, e⟩ | ⟨-, e⟩
  · rw [e] at hc
    obtain ⟨c', hc', rfl⟩ := List.mem_map.mp hc
    rw [RoleConfig.ite_addGuest_name]
    split_ifs at hj with hname
    · rcases RoleConfig.mem_addGuest.mp hj with hji | hj
      · cases hji
        exact hname.symm
      · exact h.own c' hc' j hj
    · exact h.own c' hc' j hj
  · rw [e] at hc
    rcases List.mem_append.mp hc with hc | hc
    · exact h.own c hc j hj
    · obtain rfl := List.mem_singleton.mp hc
      rcases RoleConfig.mem_addGuest.mp hj with hji | hj
      · cases hji
        rfl
      · simp at hj

lemma bindContainerToRoleList_wellFormed (guests : Fin n → ContainerConfig) :
    RolesWellFormed (fun j => (guests j).role) (bindContainerToRoleList guests) :=
  Loop.forEach_invariant (fun l i h => bindContainer_wellFormed guests l i h)
    ⟨by simp, by simp⟩

lemma mem_changeContainerList {guests : Fin n → ContainerConfig} {name : String}
    {l : List (Option (Fin n))} {x : Option (Fin n)}
    (h : x ∈ (changeContainerList guests name l).1) : x ∈ l := by
  unfold changeContainerList at h
  split at h
  · rename_i hd t
    have hmoved : ∀ y, y ∈ t ++ [some hd] → y ∈ some hd :: t := by
      intro y hy
      simpa [or_comm] using hy
    dsimp only at h
    split at h
    · rename_i elem hfind
      rcases List.mem_cons.mp h with rfl | h
      · exact hmoved _ (List.mem_of_find?_eq_some hfind)
      · exact hmoved _ (List.mem_of_mem_eraseP h)
    · exact hmoved _ h
  · exact h

@[simp] lemma changeRoleList_names (guests : Fin n → ContainerConfig) (name role : String)
    (l : List (RoleConfig n)) :
    (changeRoleList guests name role l).1.map RoleConfig.name = l.map RoleConfig.name := by
  induction l with
  | nil => rfl
  | cons c l ih =>
    by_cases hc : c.name = role
    · simp [changeRoleList, hc]
    · simp [changeRoleList, hc, ih]

lemma changeRoleList_own {guests : Fin n → ContainerConfig} {name role : String}
    {l : List (RoleConfig n)} {g : Fin n → String}
    (h : ∀ c ∈ l, ∀ i, some i ∈ c.containerList → g i = c.name) :
    ∀ c ∈ (changeRoleList guests name role l).1, ∀ i, some i ∈ c.containerList → g i = c.name := by
  induction l with
  | nil => simp [changeRoleList]
  | cons c l ih =>
    intro c' hc' i hi
    by_cases hc : c.name = role
    · simp only [changeRoleList, hc, if_true, List.mem_cons] at hc'
      rcases hc' with rfl | hc'
      · exact (h c List.mem_cons_self i (mem_changeContainerList hi)).trans hc
      · exact h c' (List.mem_cons_of_mem _ hc') i hi
    · simp only [changeRoleList, hc, if_false, List.mem_cons] at hc'
      rcases hc' with rfl | hc'
      · exact h c' List.mem_cons_self i hi
      · exact ih (fun d hd => h d (List.mem_cons_of_mem _ hd)) c' hc' i hi

/-- The change-active-guest command keeps the role list well formed. -/
lemma RolesWellFormed.changeRoleList {g : Fin n → String} {l : List (RoleConfig n)}
    (h : RolesWellFormed g l) (guests : Fin n → ContainerConfig) (name role : String) :
    RolesWellFormed g (changeRoleList guests name role l).1 :=
  ⟨by rw [changeRoleList_names]; exact h.nodup, changeRoleList_own h.own⟩

/-- The active guest of a role has that role. -/
lemma RolesWellFormed.role_active {g : Fin n → String} {l : List (RoleConfig n)}
    (h : RolesWellFormed g l) {role : String} {j : Fin n}
    (hj : containerGetActiveGuestByRole l role = some j) : g j = role := by
  simp only [containerGetActiveGuestByRole] at hj
  split at hj
  · simp at hj
  · rename_i c hfind
    have hmem : some j ∈ c.containerList := by
      rw [Option.join_eq_some_iff] at hj
      exact List.mem_of_mem_head? hj
    have hname : c.name = role := by simpa using List.find?_some hfind
    rw [h.own c (List.mem_of_find?_eq_some hfind) j hmem, hname]

end ContainerManager

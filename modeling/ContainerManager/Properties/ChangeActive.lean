import ContainerManager.System

/-!
# Role lists under the change command

The role lists hold every guest once, in the list of its role, with one terminator each. The change
command moves a guest within the list of its role, or leaves all lists alone.
-/

namespace ContainerManager

variable {n : ℕ} {guests : Fin n → ContainerConfig}

/-! ### Lists -/

/-- Every guest stands once in the list of its role and nowhere else, and every list has one
terminator. -/
structure RoleListsComplete (guests : Fin n → ContainerConfig)
    (l : List (RoleConfig n)) : Prop where
  nodup : (l.map RoleConfig.name).Nodup
  mem : ∀ i, ∃ c ∈ l, c.name = (guests i).role
  once : ∀ c ∈ l, ∀ i, c.containerList.count (some i) = if c.name = (guests i).role then 1 else 0
  terminator : ∀ c ∈ l, c.containerList.count none = 1

/-- What the loop over the guests keeps while those of `rest` are still to come. -/
structure BindInvariant (guests : Fin n → ContainerConfig) (rest : List (Fin n))
    (l : List (RoleConfig n)) : Prop where
  rest_nodup : rest.Nodup
  nodup : (l.map RoleConfig.name).Nodup
  mem : ∀ i ∉ rest, ∃ c ∈ l, c.name = (guests i).role
  once : ∀ c ∈ l, ∀ i, c.containerList.count (some i) =
    if c.name = (guests i).role ∧ i ∉ rest then 1 else 0
  terminator : ∀ c ∈ l, c.containerList.count none = 1

lemma RoleConfig.count_addGuest (c : RoleConfig n) (autoboot : Bool) (i : Fin n)
    (x : Option (Fin n)) : (c.addGuest autoboot i).containerList.count x =
      c.containerList.count x + if x = some i then 1 else 0 := by
  cases autoboot <;>
    simp [RoleConfig.addGuest, List.count_append, List.count_cons, eq_comm (a := some i)]

namespace BindInvariant

variable {i : Fin n} {rest : List (Fin n)} {l : List (RoleConfig n)}

/-- Adding the guest counts it, and no other element. -/
lemma once_addGuest (h : BindInvariant guests (i :: rest) l) {c : RoleConfig n}
    (hc : ∀ j, c.containerList.count (some j) =
      if c.name = (guests j).role ∧ j ∉ i :: rest then 1 else 0)
    (hname : c.name = (guests i).role) (autoboot : Bool) (j : Fin n) :
    (c.addGuest autoboot i).containerList.count (some j) =
      if c.name = (guests j).role ∧ j ∉ rest then 1 else 0 := by
  have hi := (List.nodup_cons.mp h.rest_nodup).1
  rw [RoleConfig.count_addGuest, hc j]
  by_cases hj : j = i
  · subst hj
    simp [hname, hi]
  · simp [hj]

/-- The entries of other roles have counted all their guests. -/
lemma once_other (h : BindInvariant guests (i :: rest) l) {c : RoleConfig n} (hc : c ∈ l)
    (hname : c.name ≠ (guests i).role) (j : Fin n) :
    c.containerList.count (some j) = if c.name = (guests j).role ∧ j ∉ rest then 1 else 0 := by
  rw [h.once c hc j]
  by_cases hj : j = i
  · subst hj
    simp [hname]
  · simp [hj]

/-- An entry for a role without an entry has counted all guests so far: there are none. -/
lemma once_new (h : BindInvariant guests (i :: rest) l) (hfresh : ∀ c ∈ l, c.name ≠ (guests i).role)
    (j : Fin n) : ({ name := (guests i).role, containerList := [none] } :
      RoleConfig n).containerList.count (some j) =
        if (guests i).role = (guests j).role ∧ j ∉ i :: rest then 1 else 0 := by
  have hnot : ¬ ((guests i).role = (guests j).role ∧ j ∉ i :: rest) := by
    rintro ⟨hr, hj⟩
    obtain ⟨c, hc, hcj⟩ := h.mem j hj
    exact hfresh c hc (hcj.trans hr.symm)
  rw [if_neg hnot]
  simp

lemma bindContainer (h : BindInvariant guests (i :: rest) l) :
    BindInvariant guests rest (bindContainer guests l i) := by
  have hrest := (List.nodup_cons.mp h.rest_nodup).2
  have hnodup := bindContainer_nodup guests i h.nodup
  rcases bindContainer_cases guests l i with ⟨hany, e⟩ | ⟨hfresh, e⟩
  · rw [e] at hnodup ⊢
    refine ⟨hrest, hnodup, ?_, ?_, ?_⟩
    · intro j hj
      obtain ⟨c, hc, hcj⟩ : ∃ c ∈ l, c.name = (guests j).role := by
        by_cases hji : j = i
        · subst hji
          exact hany
        · exact h.mem j (by simp [hji, hj])
      exact ⟨_, List.mem_map_of_mem hc, (c.ite_addGuest_name _ _ _).trans hcj⟩
    · intro c' hc'
      obtain ⟨c, hc, rfl⟩ := List.mem_map.mp hc'
      split_ifs with hcn
      · exact h.once_addGuest (h.once c hc) hcn _
      · exact h.once_other hc hcn
    · intro c' hc'
      obtain ⟨c, hc, rfl⟩ := List.mem_map.mp hc'
      split_ifs
      · rw [RoleConfig.count_addGuest]
        simpa using h.terminator c hc
      · exact h.terminator c hc
  · rw [e] at hnodup ⊢
    refine ⟨hrest, hnodup, ?_, ?_, ?_⟩
    · intro j hj
      by_cases hji : j = i
      · subst hji
        exact ⟨_, List.mem_append_right _ List.mem_cons_self, by simp⟩
      · obtain ⟨c, hc, hcj⟩ := h.mem j (by simp [hji, hj])
        exact ⟨c, List.mem_append_left _ hc, hcj⟩
    · intro c hc
      rcases List.mem_append.mp hc with hc | hc
      · exact h.once_other hc (hfresh c hc)
      · obtain rfl := List.mem_singleton.mp hc
        exact h.once_addGuest (h.once_new hfresh) rfl _
    · intro c hc
      rcases List.mem_append.mp hc with hc | hc
      · exact h.terminator c hc
      · obtain rfl := List.mem_singleton.mp hc
        rw [RoleConfig.count_addGuest]
        simp

end BindInvariant

lemma bindContainerToRoleList_complete (guests : Fin n → ContainerConfig) :
    RoleListsComplete guests (bindContainerToRoleList guests) := by
  have h : BindInvariant guests [] (bindContainerToRoleList guests) :=
    Loop.foldl_invariant_rest (fun _ _ _ h => h.bindContainer)
      ⟨List.nodup_finRange n, by simp, by simp, by simp, by simp⟩
  exact ⟨h.nodup, fun i => h.mem i (by simp), fun c hc i => by simpa using h.once c hc i,
    h.terminator⟩

/-! ### One list -/

section List

variable {name : String} {l : List (Option (Fin n))}

/-- The reordering moves elements only. -/
lemma changeContainerList_perm (guests : Fin n → ContainerConfig) (name : String)
    (l : List (Option (Fin n))) : (changeContainerList guests name l).1.Perm l := by
  unfold changeContainerList
  split
  · rename_i h t
    have hmoved : (t ++ [some h]).Perm (some h :: t) := List.perm_append_singleton _ _
    dsimp only
    split
    · rename_i elem hfind
      obtain ⟨hp, pre, post, e, hpre⟩ := List.find?_eq_some_iff_append.mp hfind
      have herase : (t ++ [some h]).eraseP (isNamed guests name) = pre ++ post := by
        rw [e, List.eraseP_append_right _ (by simpa using hpre), List.eraseP_cons_of_pos hp]
      rw [herase]
      refine List.Perm.trans ?_ hmoved
      rw [e]
      exact List.perm_middle.symm
    · exact hmoved
  · exact .refl _

/-- When the reordering is accepted, a guest of the requested name is at the top. -/
lemma changeContainerList_accepted (h : (changeContainerList guests name l).2 = true) :
    ∃ j t, (changeContainerList guests name l).1 = some j :: t ∧ (guests j).name = name := by
  unfold changeContainerList at h ⊢
  split at h
  · dsimp only at h ⊢
    split at h
    · rename_i elem hfind
      have hnamed := List.find?_some hfind
      cases elem with
      | none => simp [isNamed] at hnamed
      | some j =>
        exact ⟨j, _, rfl, by simpa [isNamed] using hnamed⟩
    · simp at h
  · simp at h

/-- When it is not accepted although the list has a guest of the name, nothing moved. -/
lemma changeContainerList_rejected (h : (changeContainerList guests name l).2 = false) {i : Fin n}
    (hi : some i ∈ l) (hn : (guests i).name = name) :
    (changeContainerList guests name l).1 = l := by
  unfold changeContainerList at h ⊢
  split at h
  · rename_i hd t
    dsimp only at h ⊢
    split at h
    · simp at h
    · rename_i hfind
      have hmem : some i ∈ t ++ [some hd] := by simpa [or_comm] using hi
      have hnot := List.find?_eq_none.mp hfind _ hmem
      simp [isNamed, hn] at hnot
  · rfl

/-- A request for the guest at the top changes nothing, when it is the only one of its name. -/
lemma changeContainerList_active {i : Fin n} {t : List (Option (Fin n))}
    (hn : (guests i).name = name) (ht : ∀ j, some j ∈ t → (guests j).name ≠ name) :
    (changeContainerList guests name (some i :: t)).1 = some i :: t := by
  have hnone : ∀ x ∈ t, ¬ isNamed guests name x = true := by
    intro x hx
    cases x with
    | none => simp [isNamed]
    | some j => simpa [isNamed] using ht j hx
  have hnamed : isNamed guests name (some i) = true := by simp [isNamed, hn]
  have hfind : (t ++ [some i]).find? (isNamed guests name) = some (some i) := by
    rw [List.find?_append, List.find?_eq_none.mpr hnone]
    simp [hnamed]
  have herase : (t ++ [some i]).eraseP (isNamed guests name) = t := by
    rw [List.eraseP_append_right _ hnone]
    simp [hnamed]
  simp only [changeContainerList]
  rw [hfind, herase]

end List

/-! ### All lists -/

/-- The reordering works on the entry of the role. -/
lemma changeRoleList_eq {name role : String} {l : List (RoleConfig n)} {c : RoleConfig n}
    (hl : (l.map RoleConfig.name).Nodup) (hc : c ∈ l) (hr : c.name = role) :
    changeRoleList guests name role l =
      (l.map fun d => if d.name = role then
          { d with containerList := (changeContainerList guests name c.containerList).1 } else d,
        (changeContainerList guests name c.containerList).2) := by
  induction l with
  | nil => simp at hc
  | cons a l ih =>
    obtain ⟨ha, hl⟩ := List.nodup_cons.mp hl
    simp only [changeRoleList]
    by_cases har : a.name = role
    · have hother : ∀ d ∈ l, d.name ≠ role := by
        rintro d hd e
        exact ha (List.mem_map.mpr ⟨d, hd, e.trans har.symm⟩)
      obtain rfl : c = a := by
        rcases List.mem_cons.mp hc with hc | hc
        · exact hc
        · exact absurd hr (hother c hc)
      have hsame : l.map (fun d => if d.name = role then
          { d with containerList := (changeContainerList guests name c.containerList).1 } else d) =
            l := by
        conv_rhs => rw [← List.map_id l]
        exact List.map_congr_left fun d hd => by simp [hother d hd]
      rw [if_pos har, List.map_cons, if_pos har, hsame]
    · have hcl : c ∈ l := by
        rcases List.mem_cons.mp hc with rfl | hc
        · exact absurd hr har
        · exact hc
      rw [if_neg har, ih hl hcl, List.map_cons, if_neg har]

namespace RoleListsComplete

variable {l : List (RoleConfig n)}

/-- An element of the list of a role. -/
lemma mem_iff (h : RoleListsComplete guests l) {c : RoleConfig n} (hc : c ∈ l) (i : Fin n) :
    some i ∈ c.containerList ↔ c.name = (guests i).role := by
  rw [← List.count_pos_iff, h.once c hc i]
  split_ifs with hn <;> simp [hn]

/-- Permuting the list of one role keeps the lists complete. -/
lemma permute (h : RoleListsComplete guests l) {role : String} {l' : List (Option (Fin n))}
    (hl' : ∀ c ∈ l, c.name = role → l'.Perm c.containerList) :
    RoleListsComplete guests
      (l.map fun d => if d.name = role then { d with containerList := l' } else d) := by
  have hname : (RoleConfig.name ∘ fun d : RoleConfig n =>
      if d.name = role then { d with containerList := l' } else d) = RoleConfig.name := by
    funext d
    by_cases hd : d.name = role <;> simp [hd]
  have hcount : ∀ c ∈ l, ∀ x, (if c.name = role then { c with containerList := l' } else c :
      RoleConfig n).containerList.count x = c.containerList.count x := by
    intro c hc x
    split_ifs with hr
    · exact (hl' c hc hr).count_eq x
    · rfl
  have hsame : ∀ c : RoleConfig n, (if c.name = role then { c with containerList := l' } else c :
      RoleConfig n).name = c.name := by
    intro c
    split_ifs <;> rfl
  constructor
  · rw [List.map_map, hname]
    exact h.nodup
  · intro i
    obtain ⟨c, hc, hci⟩ := h.mem i
    exact ⟨_, List.mem_map_of_mem hc, (hsame c).trans hci⟩
  · intro c' hc' i
    obtain ⟨c, hc, rfl⟩ := List.mem_map.mp hc'
    rw [hcount c hc, hsame]
    exact h.once c hc i
  · intro c' hc'
    obtain ⟨c, hc, rfl⟩ := List.mem_map.mp hc'
    rw [hcount c hc]
    exact h.terminator c hc

end RoleListsComplete

/-! ### The command -/

/-- The manager with the role lists of its guests. -/
def bound (cs : Containers n) : Containers n :=
  { cs with roleList := bindContainerToRoleList cs.containers }

/-- The state after a change command. -/
def changeActive (cs : Containers n) (p : ExtifPacket) : Containers n :=
  (containerExternalInterfaceCommandChange cs p).1

/-- The command answers with this field `response`. -/
def ChangeAnswers (cs : Containers n) (p : ExtifPacket) (response : ℤ) : Prop :=
  (containerExternalInterfaceCommandChange cs p).2.2 = [⟨0xa3000, .response response⟩]

/-- What a change command does: when it is accepted the list of one role has a guest of the
requested name at the top and the other lists are as before; otherwise all lists are as before. The
list of a role whose active guest is requested, and the only one of the role with its name, is as
before. -/
structure ChangeAtomic (cs : Containers n) (p : ExtifPacket) : Prop where
  accepted : ChangeAnswers cs p 0 → ∃ j l, (cs.containers j).name = p.guestName ∧
    l.head? = some (some j) ∧ (changeActive cs p).roleList = cs.roleList.map fun d =>
      if d.name = (cs.containers j).role then { d with containerList := l } else d
  rejected : ∀ response, response ≠ 0 → ChangeAnswers cs p response →
    (changeActive cs p).roleList = cs.roleList
  active : ∀ c ∈ cs.roleList, ∀ i, c.containerList.head? = some (some i) →
    (cs.containers i).name = p.guestName →
    (∀ j, j ≠ i → (cs.containers j).role = c.name → (cs.containers j).name ≠ p.guestName) →
      c ∈ (changeActive cs p).roleList

/-- The ways a change command goes: it finds no guest, or works on the list of the role of the first
guest of the requested name. -/
lemma containerExternalInterfaceCommandChange_cases {cs : Containers n}
    (h : RoleListsComplete cs.containers cs.roleList) (p : ExtifPacket) :
    (containerExternalInterfaceCommandChange cs p).1 = cs ∧ ¬ ChangeAnswers cs p 0 ∨
      ∃ i, ∃ c ∈ cs.roleList, (cs.containers i).name = p.guestName ∧
        c.name = (cs.containers i).role ∧
        containerExternalInterfaceCommandChange cs p =
          let r := changeContainerList cs.containers p.guestName c.containerList
          ({ cs with roleList := cs.roleList.map fun d =>
              if d.name = (cs.containers i).role then { d with containerList := r.1 } else d },
            -1, [⟨0xa3000, .response (if r.2 then 0 else -100)⟩]) := by
  simp only [ChangeAnswers, containerExternalInterfaceCommandChange]
  split_ifs with hs
  · split
    · rename_i i hi
      obtain ⟨c, hc, hr⟩ := h.mem i
      have hn : (cs.containers i).name = p.guestName := by simpa using List.find?_some hi
      refine Or.inr ⟨i, c, hc, hn, hr, ?_⟩
      rw [changeRoleList_eq h.nodup hc hr]
    · exact Or.inl ⟨rfl, by simp⟩
  · exact Or.inl ⟨rfl, by simp⟩

namespace RoleListsComplete

variable {guests : Fin n → ContainerConfig} {roleList : List (RoleConfig n)}

/-- The entry of a role is the only one of its name. -/
lemma eq_of_name (h : RoleListsComplete guests roleList) {c d : RoleConfig n} (hc : c ∈ roleList)
    (hd : d ∈ roleList) (hname : d.name = c.name) : d = c :=
  List.inj_on_of_nodup_map h.nodup hd hc hname

/-- A list that is written back as it was changes nothing. -/
lemma map_same (h : RoleListsComplete guests roleList) {c : RoleConfig n} (hc : c ∈ roleList) :
    (roleList.map fun d =>
      if d.name = c.name then { d with containerList := c.containerList } else d) = roleList := by
  conv_rhs => rw [← List.map_id roleList]
  refine List.map_congr_left fun d hd => ?_
  split_ifs with hname
  · obtain rfl := h.eq_of_name hc hd hname
    rfl
  · rfl

/-- The active guest stands in its list once. -/
lemma notMem_tail (h : RoleListsComplete guests roleList) {c : RoleConfig n} (hc : c ∈ roleList)
    {i : Fin n} (hhead : c.containerList.head? = some (some i)) :
    some i ∉ c.containerList.tail := by
  intro htail
  have hlist : c.containerList = some i :: c.containerList.tail :=
    List.eq_cons_of_mem_head? hhead
  have hcount := h.once c hc i
  rw [hlist, List.count_cons_self] at hcount
  have hpos := List.count_pos_iff.mpr htail
  split_ifs at hcount
  omega

end RoleListsComplete

lemma RoleListsComplete.changeActive {cs : Containers n}
    (h : RoleListsComplete cs.containers cs.roleList) (p : ExtifPacket) :
    RoleListsComplete (changeActive cs p).containers (changeActive cs p).roleList := by
  simp only [ContainerManager.changeActive]
  rcases containerExternalInterfaceCommandChange_cases h p with ⟨e, -⟩ | ⟨i, c, hc, hn, hr, e⟩
  · rw [e]
    exact h
  · rw [e]
    refine h.permute fun d hd hdr => ?_
    obtain rfl := h.eq_of_name hc hd (hdr.trans hr.symm)
    exact changeContainerList_perm _ _ _

lemma RoleListsComplete.atomic {cs : Containers n}
    (h : RoleListsComplete cs.containers cs.roleList) (p : ExtifPacket) : ChangeAtomic cs p := by
  rcases containerExternalInterfaceCommandChange_cases h p with ⟨e, h0⟩ | ⟨i, c, hc, hn, hr, e⟩
  · refine ⟨fun ha => absurd ha h0, fun response _ _ => ?_, fun c hc i _ _ _ => ?_⟩ <;>
      rw [ContainerManager.changeActive, e]
    exact hc
  dsimp only at e
  have hmem : some i ∈ c.containerList := (h.mem_iff hc i).mpr hr
  have hunchanged : (changeContainerList cs.containers p.guestName c.containerList).1 =
      c.containerList → (ContainerManager.changeActive cs p).roleList = cs.roleList := by
    intro hl
    rw [ContainerManager.changeActive, e]
    dsimp only
    rw [hl, ← hr]
    exact h.map_same hc
  constructor
  · intro ha
    rw [ChangeAnswers, e] at ha
    have haccepted : (changeContainerList cs.containers p.guestName c.containerList).2 = true := by
      by_contra hf
      simp [hf] at ha
    obtain ⟨j, t, hl, hj⟩ := changeContainerList_accepted haccepted
    have hjr : (cs.containers j).role = (cs.containers i).role := by
      have hjc : some j ∈ c.containerList :=
        (changeContainerList_perm cs.containers p.guestName _).subset (hl ▸ List.mem_cons_self)
      rw [← (h.mem_iff hc j).mp hjc, hr]
    refine ⟨j, (changeContainerList cs.containers p.guestName c.containerList).1, hj,
      by rw [hl]; rfl, ?_⟩
    rw [ContainerManager.changeActive, e, hjr]
  · intro response hne ha
    rw [ChangeAnswers, e] at ha
    refine hunchanged (changeContainerList_rejected ?_ hmem hn)
    by_contra ht
    rw [Bool.not_eq_false] at ht
    simp only [ht, if_true, List.cons.injEq, ExtifResponse.mk.injEq, ExtifPayload.response.injEq,
      true_and, and_true] at ha
    exact hne ha.symm
  · intro d hd j hhead hj honly
    by_cases hdc : d = c
    · subst hdc
      have hlist : d.containerList = some j :: d.containerList.tail :=
        List.eq_cons_of_mem_head? hhead
      rw [hunchanged]
      · exact hd
      rw [hlist]
      refine changeContainerList_active hj fun k hk => ?_
      have hkd : some k ∈ d.containerList := List.mem_of_mem_tail hk
      refine honly k ?_ ((h.mem_iff hd k).mp hkd).symm
      rintro rfl
      exact h.notMem_tail hd hhead hk
    · rw [ContainerManager.changeActive, e]
      exact List.mem_map.mpr ⟨d, hd, if_neg fun hdr => hdc (h.eq_of_name hc hd (hdr.trans hr.symm))⟩

/-- After the role lists are built and after any change commands, the lists are complete, and a
change command is atomic. -/
theorem role_lists_complete (cs : Containers n) (ps : List ExtifPacket) :
    let cs' := Transition.run changeActive (bound cs) ps
    RoleListsComplete cs'.containers cs'.roleList ∧ ∀ p, ChangeAtomic cs' p := by
  have h : RoleListsComplete (Transition.run changeActive (bound cs) ps).containers
      (Transition.run changeActive (bound cs) ps).roleList :=
    Transition.run_invariant (I := fun cs : Containers n =>
      RoleListsComplete cs.containers cs.roleList) (fun _ p h => h.changeActive p)
      (bindContainerToRoleList_complete cs.containers) ps
  exact ⟨h, h.atomic⟩

/-- Two guests of one role and one name, of which the first boots automatically. -/
def twinGuests (i : Fin 2) : ContainerConfig :=
  if i.val = 0 then freshGuest "twin" "ivi" { autoboot := true } else freshGuest "twin" "ivi" {}

/-- A request for the active guest puts the other guest of its name in its place. -/
theorem twin_replaces_active :
    let cs := bound (setupManager twinGuests [])
    let p : ExtifPacket := { size := 132, command := 0x3000, guestName := "twin" }
    containerGetActiveGuestByRole cs.roleList "ivi" = some 0 ∧
      (cs.containers 0).name = p.guestName ∧ (changeActive cs p).roleList ≠ cs.roleList := by
  decide

end ContainerManager

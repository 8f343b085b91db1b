import ContainerManager.Refinement.Events

/-!
# The start of the guests

Starting the guests role by role moves them by moves of the abstract machine: when a role is
started, none of its guests is enabled yet. So what every step of a guest's machine keeps holds for
every guest in every reachable state.
-/

namespace ContainerManager

open Containers

variable {n : ℕ} {R : Prop}

/-! ### Role starts -/

/-- The starts of the roles recover from failed mounts. -/
def BootRecovers (sys : ℕ → VisitSys) (cs : Containers n) : Prop :=
  ∀ c ∈ cs.roleList.zipIdx, ∀ j, containerGetActiveGuestByRole cs.roleList c.1.name = some j →
    StartRecovers (sys c.2).start (enableGuest (cs.containers j))

/-- What the role starts keep while those of `rest` are still to come. -/
structure BootInvariant (R : Prop) (cs : Containers n) (rest : List (RoleConfig n × ℕ))
    (s : Containers n) : Prop where
  nodup : (rest.map fun c => c.1.name).Nodup
  mem : ∀ c ∈ rest, c ∈ cs.roleList.zipIdx
  roles : RoleExclusion s
  sysState : s.sysState = .run
  roleList : s.roleList = cs.roleList
  moves : cs.Moves R s
  untouched : ∀ c ∈ rest, ∀ i, (cs.containers i).role = c.1.name →
    s.containers i = cs.containers i

lemma BootInvariant.startByRole {cs s : Containers n} {c : RoleConfig n × ℕ}
    {rest : List (RoleConfig n × ℕ)} (h : BootInvariant R cs (c :: rest) s)
    (hd : ∀ i, (cs.containers i).runtimeStat.status = .disable) (sys : ℕ → VisitSys)
    (hR : R → BootRecovers sys cs) :
    BootInvariant R cs rest (containerStartByRole (sys c.2) s c.1.name).1 := by
  obtain ⟨hc, hnodup⟩ := List.nodup_cons.mp h.nodup
  have hmem : ∀ d ∈ rest, d ∈ cs.roleList.zipIdx := fun d hd => h.mem d (List.mem_cons_of_mem _ hd)
  have hrest : ∀ d ∈ rest, ∀ i, (cs.containers i).role = d.1.name →
      s.containers i = cs.containers i := fun d hd => h.untouched d (List.mem_cons_of_mem _ hd)
  simp only [containerStartByRole]
  split
  · exact ⟨hnodup, hmem, h.roles, h.sysState, h.roleList, h.moves, hrest⟩
  · rename_i j hj
    have hrole : ∀ k, (s.containers k).role = (cs.containers k).role :=
      congrFun h.moves.role_eq
    have hjrole : (s.containers j).role = c.1.name := h.roles.roles.role_active hj
    have hun : ∀ i, (s.containers i).role = c.1.name → s.containers i = cs.containers i :=
      fun i hi => h.untouched c List.mem_cons_self i (hrole i ▸ hi)
    -- the role had no enabled guest, so the enabled one is its only one
    have hen : s.Moves R (s.setGuest j (enableGuest (s.containers j))) := by
      rw [Moves, setGuest_views]
      refine .single (.enable (f := s.views) j h.sysState fun i hi hen => hen ?_)
      have e := hun i (hi.trans hjrole)
      simp [e, hd i]
    have hex : RoleExclusion (s.setGuest j (enableGuest (s.containers j))) :=
      h.roles.moves hen h.roles.roles fun _ _ => id
    have hst : ((s.setGuest j (enableGuest (s.containers j))).views j).Startable := by
      rw [views_apply, setGuest_self, setGuest_sysState, h.sysState]
      exact enableGuest_startable _
    have hm := startGuest_moves (R := R) (sys c.2) _ j hst fun hr _ => by
      rw [setGuest_self, hun j hjrole]
      rw [h.roleList] at hj
      exact hR hr c (h.mem c List.mem_cons_self) j hj
    obtain ⟨containers, event, e⟩ :=
      startGuest_frame (sys c.2) (s.setGuest j (enableGuest (s.containers j))) j
    refine ⟨hnodup, hmem, hex.startGuest (sys c.2) hst, ?_, ?_,
      h.moves.trans (hen.trans hm.moves), ?_⟩
    · rw [e]
      exact h.sysState
    · rw [e]
      exact h.roleList
    · intro d hdr i hi
      have hij : i ≠ j := by
        rintro rfl
        rw [hrole] at hjrole
        exact hc (List.mem_map.mpr ⟨d, hdr, hi.symm.trans hjrole⟩)
      rw [startGuest_of_ne _ _ hij, setGuest_of_ne _ hij]
      exact hrest d hdr i hi

lemma Initial.roleExclusion {cs : Containers n} (h : Initial cs) : RoleExclusion cs where
  roles := by
    rw [h.roleList]
    exact bindContainerToRoleList_wellFormed cs.containers
  exclusive i j hi := absurd (h.guests i).status hi
  starts := by simp [h.log]

lemma Initial.bootInvariant {cs : Containers n} (h : Initial cs) :
    BootInvariant R cs cs.roleList.zipIdx cs := by
  refine ⟨?_, fun _ => id, h.roleExclusion, h.sysState, rfl, .refl, fun _ _ _ _ => rfl⟩
  have e : cs.roleList.zipIdx.map (fun c => c.1.name) = cs.roleList.map RoleConfig.name := by
    rw [← List.zipIdx_map_fst 0 cs.roleList, List.map_map]
    simp [Function.comp_def]
  rw [e]
  exact h.roleExclusion.roles.nodup

lemma containerMngsmStart_invariant (sys : ℕ → VisitSys) (notify : Bool) {cs : Containers n}
    (h : Initial cs) (hR : R → BootRecovers sys cs) :
    cs.Moves R (containerMngsmStart sys notify cs) ∧
      RoleExclusion (containerMngsmStart sys notify cs) := by
  have hI : BootInvariant R cs [] (cs.roleList.zipIdx.foldl
      (fun s c => (containerStartByRole (sys c.2) s c.1.name).1) cs) := by
    exact Loop.foldl_invariant_rest (I := BootInvariant R cs)
      (fun s c rest hI => hI.startByRole (fun i => (h.guests i).status) sys hR) h.bootInvariant
  have hsend := StartFree.send (cs.roleList.zipIdx.foldl
    (fun s c => (containerStartByRole (sys c.2) s c.1.name).1) cs) .netifUpdated notify
  exact ⟨hI.moves.trans (hsend.moves R).moves, hsend.roleExclusion hI.roles⟩

lemma containerMngsmExecDelayedOperation_startFree (sys : DispatchSys) (cs : Containers n)
    (role : ℤ) : StartFree cs (containerMngsmExecDelayedOperation sys cs role).1 := by
  simp only [containerMngsmExecDelayedOperation]
  split_ifs <;> exact .of_eq rfl rfl rfl fun _ _ => id

lemma Booted.invariant {sys : ℕ → VisitSys} {notify : Bool} {cs₀ cs : Containers n}
    (hb : Booted sys notify cs₀ cs) (h : Initial cs₀) (hR : R → BootRecovers sys cs₀) :
    cs₀.Moves R cs ∧ RoleExclusion cs := by
  have hs := containerMngsmStart_invariant (R := R) sys notify h hR
  cases hb with
  | started => exact hs
  | launched dispatch =>
    have hf := containerMngsmExecDelayedOperation_startFree dispatch
      (containerMngsmStart sys notify cs₀) 0
    exact ⟨hs.1.trans (hf.moves R).moves, hf.roleExclusion hs.2⟩

/-! ### Reachable states -/

lemma Reachable.roleExclusion {cs : Containers n} (h : Reachable cs) : RoleExclusion cs := by
  obtain ⟨cs₀, h₀, h⟩ := h
  refine Transition.Reachable.invariant (I := RoleExclusion) ?_
    (fun _ a hs => step_roleExclusion hs a) h
  rintro _ ⟨sys, notify, hb⟩
  exact (hb.invariant (R := False) h₀ False.elim).2

/-- What every step of a guest's machine keeps holds in every state reachable from a setup in which
it holds. -/
theorem ReachableFrom.guest_invariant {I : GuestView → Prop}
    (hI : ∀ v w, LifeStep False v w → I v → I w) {cs₀ cs : Containers n} (h₀ : Initial cs₀)
    (h : ReachableFrom cs₀ cs) {i : Fin n} (hi : I (cs₀.views i)) : I (cs.views i) := by
  refine Transition.Reachable.invariant_of_reachable (I := fun cs => I (cs.views i)) ?_ ?_ h
  · rintro _ ⟨sys, notify, hb⟩
    have hm := (hb.invariant (R := False) h₀ False.elim).1
    exact hm.invariant hI h₀.roleExclusion.exclusive hi
  · intro s a hs hi
    have hex := Reachable.roleExclusion ⟨cs₀, h₀, hs⟩
    exact (step_moves (R := False) hex a False.elim).invariant hI hex.exclusive hi

/-- An invariant of the guest's machine holds of every guest in every reachable state. -/
theorem Reachable.guest_invariant {I : GuestView → Prop}
    (hinit : ∀ cc, Fresh cc → I (cc.view .run))
    (hI : ∀ v w, LifeStep False v w → I v → I w) {cs : Containers n} (h : Reachable cs)
    (i : Fin n) : I (cs.views i) := by
  obtain ⟨cs₀, h₀, h⟩ := h
  apply h.guest_invariant hI h₀
  rw [views_apply, h₀.sysState]
  exact hinit _ (h₀.guests i)

/-- The same along a run in which every failed mount is recovered. -/
theorem run_guest_invariant {I : GuestView → Prop} (hinit : ∀ cc, Fresh cc → I (cc.view .run))
    (hI : ∀ v w, LifeStep True v w → I v → I w) {sys : ℕ → VisitSys} {notify : Bool}
    {cs₀ cs : Containers n} (h₀ : Initial cs₀) (hb : Booted sys notify cs₀ cs)
    (hR : BootRecovers sys cs₀) {as : List (Action n)}
    (has : Transition.Guarded step StepRecovers cs as) (i : Fin n) :
    I ((Transition.run step cs as).views i) := by
  have hbm := hb.invariant (R := True) h₀ fun _ => hR
  have hfresh : I (cs₀.views i) := by
    rw [views_apply, h₀.sysState]
    exact hinit _ (h₀.guests i)
  have key : RoleExclusion (Transition.run step cs as) ∧
      I ((Transition.run step cs as).views i) :=
    Transition.run_invariant_of_guarded
      (I := fun cs => RoleExclusion cs ∧ I (cs.views i))
      (fun s a hg hs => ⟨step_roleExclusion hs.1 a,
        (step_moves hs.1 a fun _ => hg).invariant hI hs.1.exclusive hs.2⟩)
      ⟨hbm.2, hbm.1.invariant hI h₀.roleExclusion.exclusive hfresh⟩ has
  exact key.2

end ContainerManager

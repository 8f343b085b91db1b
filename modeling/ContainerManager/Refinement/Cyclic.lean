import ContainerManager.Refinement.Guest
import ContainerManager.RoleExclusion

/-!
# The cyclic event refines the abstract machine

The cyclic event in the run state moves the guests by moves of the abstract machine, and keeps the
roles exclusive. A start is told by `R` how its failed mounts are answered, as in the abstract
machine.
-/

namespace ContainerManager

variable {n : ℕ} {R : Prop}

namespace Containers

/-- The views of all guests. -/
def views (cs : Containers n) : GuestViews n := fun i => (cs.containers i).view cs.sysState

@[simp] lemma views_apply (cs : Containers n) (i : Fin n) :
    cs.views i = (cs.containers i).view cs.sysState := rfl

/-- The guests of `cs` move to those of `cs'`. -/
abbrev Moves (R : Prop) (cs cs' : Containers n) : Prop := GuestsMoves R cs.views cs'.views

/-- The same, each guest by moves of its own. -/
abbrev OwnMoves (R : Prop) (cs cs' : Containers n) : Prop :=
  ContainerManager.OwnMoves R cs.views cs'.views

lemma OwnMoves.of_guests {cs cs' : Containers n}
    (h : ∀ i, LifeMove R (cs.views i) (cs'.views i)) : OwnMoves R cs cs' :=
  .single h

lemma OwnMoves.of_views_eq {cs cs' : Containers n} (h : cs'.views = cs.views) :
    OwnMoves R cs cs' := by
  rw [OwnMoves, h]

/-! ### Setters -/

@[simp] lemma setGuest_sysState (cs : Containers n) (i : Fin n) (cc : ContainerConfig) :
    (cs.setGuest i cc).sysState = cs.sysState := rfl

@[simp] lemma setGuest_roleList (cs : Containers n) (i : Fin n) (cc : ContainerConfig) :
    (cs.setGuest i cc).roleList = cs.roleList := rfl

@[simp] lemma setGuest_self (cs : Containers n) (i : Fin n) (cc : ContainerConfig) :
    (cs.setGuest i cc).containers i = cc := by simp [setGuest]

@[simp] lemma setGuest_of_ne (cs : Containers n) {i j : Fin n} (h : j ≠ i)
    (cc : ContainerConfig) : (cs.setGuest i cc).containers j = cs.containers j := by
  simp [setGuest, h]

lemma setGuest_views (cs : Containers n) (i : Fin n) (cc : ContainerConfig) :
    (cs.setGuest i cc).views = Function.update cs.views i (cc.view cs.sysState) := by
  funext j
  by_cases h : j = i
  · subst h
    simp
  · simp [h]

lemma setGuest_moves {cs : Containers n} {i : Fin n} {cc : ContainerConfig}
    (h : LifeMove R (cs.views i) (cc.view cs.sysState)) : OwnMoves R cs (cs.setGuest i cc) := by
  refine .of_guests fun j => ?_
  by_cases hj : j = i
  · subst hj
    simpa using h
  · simpa [hj] using LifeMove.idle

lemma send_frame (cs : Containers n) (m : Message) (sent : Bool) :
    cs.send m sent = { cs with comm := (cs.send m sent).comm } := by
  simp only [send]
  split_ifs <;> rfl

@[simp] lemma send_containers (cs : Containers n) (m : Message) (sent : Bool) :
    (cs.send m sent).containers = cs.containers := by rw [send_frame]

@[simp] lemma send_sysState (cs : Containers n) (m : Message) (sent : Bool) :
    (cs.send m sent).sysState = cs.sysState := by rw [send_frame]

@[simp] lemma send_roleList (cs : Containers n) (m : Message) (sent : Bool) :
    (cs.send m sent).roleList = cs.roleList := by rw [send_frame]

@[simp] lemma send_log (cs : Containers n) (m : Message) (sent : Bool) :
    (cs.send m sent).log = cs.log := by rw [send_frame]

@[simp] lemma send_views (cs : Containers n) (m : Message) (sent : Bool) :
    (cs.send m sent).views = cs.views := by rw [send_frame]; rfl

/-! ### Loops over the guests -/

/-- A loop whose pass works on its own guest is a map over the guests. -/
lemma forEachGuest_eq (cs : Containers n) (f : Fin n → ContainerConfig → ContainerConfig) :
    cs.forEachGuest f = { cs with containers := fun i => f i (cs.containers i) } := by
  have key : ∀ (l : List (Fin n)) (g : Fin n → ContainerConfig),
      l.foldl (fun (s : Containers n) i => s.setGuest i (f i (s.containers i)))
          { cs with containers := g } =
        { cs with
          containers := l.foldl (fun g i => Function.update g i (f i (g i))) g } := by
    intro l
    induction l with
    | nil => exact fun g => rfl
    | cons i l ih => exact fun g => ih _
  rw [forEachGuest, Loop.forEach, key _ cs.containers]
  exact congrArg (fun g => { cs with containers := g }) (Loop.forEach_update f cs.containers)

@[simp] lemma forEachGuest_containers (cs : Containers n)
    (f : Fin n → ContainerConfig → ContainerConfig) (i : Fin n) :
    (cs.forEachGuest f).containers i = f i (cs.containers i) := by rw [forEachGuest_eq]

@[simp] lemma forEachGuest_sysState (cs : Containers n)
    (f : Fin n → ContainerConfig → ContainerConfig) :
    (cs.forEachGuest f).sysState = cs.sysState := by rw [forEachGuest_eq]

@[simp] lemma forEachGuest_roleList (cs : Containers n)
    (f : Fin n → ContainerConfig → ContainerConfig) :
    (cs.forEachGuest f).roleList = cs.roleList := by rw [forEachGuest_eq]

@[simp] lemma forEachGuest_log (cs : Containers n)
    (f : Fin n → ContainerConfig → ContainerConfig) :
    (cs.forEachGuest f).log = cs.log := by rw [forEachGuest_eq]

lemma forEachGuest_moves {cs : Containers n} {f : Fin n → ContainerConfig → ContainerConfig}
    (h : ∀ i, LifeMove R (cs.views i) ((f i (cs.containers i)).view cs.sysState)) :
    OwnMoves R cs (cs.forEachGuest f) :=
  .of_guests fun i => by simpa using h i

end Containers

open Containers

/-! ### Start -/

/-- A monitor only touches the guest's source and the event loop. -/
lemma containerMonitorAddguest_frame (sys : MonitorSys) (cs : Containers n) (i : Fin n) :
    ∃ source event, (containerMonitorAddguest sys cs i).1 =
      { cs.setGuest i { cs.containers i with
          runtimeStat := { (cs.containers i).runtimeStat with pidfdSource := source } } with
        event := event } := by
  have same : cs = { cs.setGuest i { cs.containers i with
      runtimeStat := { (cs.containers i).runtimeStat with
        pidfdSource := (cs.containers i).runtimeStat.pidfdSource } } with event := cs.event } := by
    simp [setGuest]
  simp only [containerMonitorAddguest]
  split
  · exact ⟨_, _, same⟩
  · split_ifs
    · exact ⟨_, _, same⟩
    · exact ⟨_, _, same⟩
    · exact ⟨_, _, rfl⟩

@[simp] lemma containerMonitorAddguest_views (sys : MonitorSys) (cs : Containers n) (i : Fin n) :
    (containerMonitorAddguest sys cs i).1.views = cs.views := by
  obtain ⟨source, event, h⟩ := containerMonitorAddguest_frame sys cs i
  rw [h]
  funext j
  by_cases hj : j = i
  · subst hj
    simp [views, setGuest, ContainerConfig.view]
  · simp [views, setGuest, hj]

/-- What a start does beyond its guest: it is logged, and a monitor may be added. -/
lemma startGuest_frame (sys : VisitSys) (cs : Containers n) (i : Fin n) :
    ∃ containers event, (startGuest sys cs i).1 = { cs with
      containers := containers
      event := event
      log := .containerStart i (fun j => (cs.containers j).runtimeStat.status) :: cs.log } := by
  simp only [startGuest]
  obtain ⟨source, event, h⟩ :=
    containerMonitorAddguest_frame sys.monitor (cs.callStart sys.start i).1 i
  by_cases h0 : (cs.callStart sys.start i).2 = 0
  · rw [if_pos h0, h]
    exact ⟨_, _, rfl⟩
  · rw [if_neg h0]
    exact ⟨_, _, rfl⟩

/-- A start from the cyclic event may also notify an update. -/
lemma startAndNotify_frame (sys : VisitSys) (cs : Containers n) (i : Fin n) :
    ∃ comm, startAndNotify sys cs i = { (startGuest sys cs i).1 with comm := comm } := by
  simp only [startAndNotify]
  split_ifs
  · exact ⟨_, send_frame _ _ _⟩
  · exact ⟨_, rfl⟩

@[simp] lemma startAndNotify_sysState (sys : VisitSys) (cs : Containers n) (i : Fin n) :
    (startAndNotify sys cs i).sysState = cs.sysState := by
  obtain ⟨comm, e⟩ := startAndNotify_frame sys cs i
  obtain ⟨containers, event, e'⟩ := startGuest_frame sys cs i
  rw [e, e']

@[simp] lemma startAndNotify_roleList (sys : VisitSys) (cs : Containers n) (i : Fin n) :
    (startAndNotify sys cs i).roleList = cs.roleList := by
  obtain ⟨comm, e⟩ := startAndNotify_frame sys cs i
  obtain ⟨containers, event, e'⟩ := startGuest_frame sys cs i
  rw [e, e']

lemma startGuest_views (sys : VisitSys) (cs : Containers n) (i : Fin n) :
    (startGuest sys cs i).1.views = Function.update cs.views i
      ((containerStart sys.start (cs.containers i)).1.view cs.sysState) := by
  have hcall : (cs.callStart sys.start i).1.views = Function.update cs.views i
      ((containerStart sys.start (cs.containers i)).1.view cs.sysState) :=
    setGuest_views (cs.writeLog _) i _
  simp only [startGuest]
  split_ifs
  · rw [containerMonitorAddguest_views, hcall]
  · exact hcall

@[simp] lemma startAndNotify_views (sys : VisitSys) (cs : Containers n) (i : Fin n) :
    (startAndNotify sys cs i).views = (startGuest sys cs i).1.views := by
  obtain ⟨comm, e⟩ := startAndNotify_frame sys cs i
  rw [e]
  rfl

lemma startGuest_moves (sys : VisitSys) (cs : Containers n) (i : Fin n)
    (h : (cs.views i).Startable)
    (hR : R → (cs.containers i).runtimeStat.status = .notStarted →
      StartRecovers sys.start (cs.containers i)) :
    cs.OwnMoves R (startGuest sys cs i).1 := by
  have hs : cs.sysState = .run := h.1
  have hm := containerStart_move sys.start (cs.containers i) (by simpa [hs] using h) hR
  refine .single fun j => ?_
  rw [startGuest_views]
  by_cases hj : j = i
  · subst hj
    simpa [hs] using hm
  · simpa [hj] using LifeMove.idle

/-! ### Role exclusion -/

/-- The guest is the active guest of its role. -/
def Containers.Active (cs : Containers n) (i : Fin n) : Prop :=
  containerGetActiveGuestByRole cs.roleList (cs.containers i).role = some i

/-- No role has two enabled guests, now or at any start that was made. -/
structure RoleExclusion (cs : Containers n) : Prop where
  roles : RolesWellFormed cs.views.role cs.roleList
  exclusive : Exclusion.Exclusive cs.views.role cs.views.Enabled
  starts : ∀ i status, LogEntry.containerStart i status ∈ cs.log →
    ∀ j, j ≠ i → (cs.containers j).role = (cs.containers i).role → status j = .disable

namespace RoleExclusion

variable {cs cs' : Containers n}

/-- Moves that make no start keep the exclusion. -/
lemma moves (h : RoleExclusion cs) (hm : cs.Moves R cs')
    (hr : RolesWellFormed cs.views.role cs'.roleList)
    (hl : ∀ i status, LogEntry.containerStart i status ∈ cs'.log →
      LogEntry.containerStart i status ∈ cs.log) : RoleExclusion cs' where
  roles := by rw [hm.role_eq]; exact hr
  exclusive := hm.exclusive h.exclusive
  starts i status hi j hj hrole := by
    have he : ∀ k, (cs'.containers k).role = (cs.containers k).role := congrFun hm.role_eq
    rw [he, he] at hrole
    exact h.starts i status (hl i status hi) j hj hrole

lemma disabled_of_ne (h : RoleExclusion cs) {i j : Fin n} (hi : (cs.containers i).Enabled)
    (hr : (cs.containers j).role = (cs.containers i).role) (hj : j ≠ i) :
    (cs.containers j).runtimeStat.status = .disable :=
  not_not.mp (h.exclusive.not_holds_of_ne (i := i) (j := j) hi hr.symm hj.symm)

lemma role_active (h : RoleExclusion cs) {i j : Fin n}
    (hj : containerGetActiveGuestByRole cs.roleList (cs.containers i).role = some j) :
    (cs.containers j).role = (cs.containers i).role :=
  h.roles.role_active hj

/-- A start of an enabled guest keeps the exclusion. -/
lemma startGuest (h : RoleExclusion cs) (sys : VisitSys) {i : Fin n}
    (hi : (cs.views i).Startable) : RoleExclusion (startGuest sys cs i).1 := by
  have hm := (startGuest_moves (R := False) sys cs i hi False.elim).moves
  have hen : (cs.containers i).Enabled := by
    rcases hi.2 with hd | ⟨hd, -⟩ <;> simp_all [ContainerConfig.Enabled]
  obtain ⟨containers, event, e⟩ := startGuest_frame sys cs i
  have he : ∀ k, ((ContainerManager.startGuest sys cs i).1.containers k).role =
      (cs.containers k).role := congrFun hm.role_eq
  constructor
  · rw [hm.role_eq, e]
    exact h.roles
  · exact hm.exclusive h.exclusive
  · intro k status hk j hj hrole
    rw [he, he] at hrole
    rw [e] at hk
    rcases List.mem_cons.mp hk with hk | hk
    · obtain ⟨rfl, rfl⟩ := LogEntry.containerStart.inj hk
      exact h.disabled_of_ne hen hrole hj
    · exact h.starts k status hk j hj hrole

lemma startAndNotify (h : RoleExclusion cs) (sys : VisitSys) {i : Fin n}
    (hi : (cs.views i).Startable) : RoleExclusion (startAndNotify sys cs i) := by
  have hg := h.startGuest sys hi
  have hm : (ContainerManager.startGuest sys cs i).1.OwnMoves False
      (ContainerManager.startAndNotify sys cs i) := .of_views_eq (startAndNotify_views sys cs i)
  simp only [ContainerManager.startAndNotify] at hm ⊢
  split_ifs at hm ⊢
  · apply hg.moves hm.moves
    · rw [send_roleList]
      exact hg.roles
    · simp
  · exact hg

end RoleExclusion

/-! ### One pass of the run state -/

/-- The state of a role switch before its start. -/
def switched (sys : CleanupSys) (cs : Containers n) (i active : Fin n) : Containers n :=
  let cs := cs.setGuest i (execDisableGuest sys (cs.containers i))
  cs.setGuest active (enableGuest (cs.containers active))

/-- The guest that a switch enables is only written its status. -/
lemma switched_active (sys : CleanupSys) (cs : Containers n) {i j : Fin n} (hij : i ≠ j) :
    (switched sys cs i j).containers j = enableGuest (cs.containers j) := by
  simp [switched, hij.symm]

lemma switched_moves (sys : CleanupSys) {cs : Containers n} {i j : Fin n}
    (hs : cs.sysState = .run) (hij : i ≠ j)
    (hr : (cs.containers j).role = (cs.containers i).role)
    (h : (cs.containers i).runtimeStat.status = .notStarted) :
    cs.Moves R (switched sys cs i j) := by
  have e : (switched sys cs i j).views = Function.update (Function.update cs.views i
      ((cs.views i).disabled (execDisableGuest sys (cs.containers i)).baseconfig)) j
      (cs.views j).enabled := by
    simp [switched, setGuest_views, hij.symm, execDisableGuest_view]
  rw [Moves, e]
  exact .single (.switch (f := cs.views) i j hij hr.symm hs hs h _
    (execDisableGuest_lifecycle _ _) (execDisableGuest_unmounted _ _))

lemma switched_startable (sys : CleanupSys) {cs : Containers n} {i j : Fin n}
    (hs : cs.sysState = .run) (hij : i ≠ j) :
    ((switched sys cs i j).views j).Startable := by
  have hrun : (switched sys cs i j).sysState = .run := hs
  rw [views_apply, switched_active sys cs hij, hrun]
  exact enableGuest_startable (cs.containers j)

/-- What one pass does to the whole state. -/
inductive VisitEffect (sys : VisitSys) (cs : Containers n) (i : Fin n) : Containers n → Prop where
  | skip : VisitEffect sys cs i cs
  | start (h : (cs.containers i).runtimeStat.status = .dead) :
      VisitEffect sys cs i (startAndNotify sys cs i)
  | switch (j : Fin n) (h : (cs.containers i).runtimeStat.status = .notStarted)
      (hj : containerGetActiveGuestByRole cs.roleList (cs.containers i).role = some j)
      (hij : i ≠ j) :
      VisitEffect sys cs i (startAndNotify sys (switched sys.disable cs i j) j)
  | worker (h : (cs.containers i).runtimeStat.status = .notStarted) (ha : cs.Active i) :
      VisitEffect sys cs i (cs.setGuest i (execRunWorkerGuest sys.worker (cs.containers i)))
  | finish (h : (cs.containers i).runtimeStat.status = .runWorker) :
      VisitEffect sys cs i (cs.setGuest i (execFinishWorkerGuest sys.finish (cs.containers i)))

lemma execRunVisit_effect (sys : VisitSys) (cs : Containers n) (i : Fin n) :
    VisitEffect sys cs i (execRunVisit sys cs i) := by
  simp only [execRunVisit]
  split
  · rename_i h
    exact .start h
  · rename_i h
    split
    · exact .skip
    · rename_i j hj
      split_ifs with hij
      · exact .switch j h hj hij
      · exact .worker h (by rw [Active, hj, not_not.mp hij])
  · rename_i h
    exact .finish h
  · exact .skip

/-- The starts of the role switches of this event recover from failed mounts. -/
def SwitchesRecover (visit : Fin n → VisitSys) (cs : Containers n) : Prop :=
  ∀ i j, (cs.containers i).runtimeStat.status = .notStarted →
    containerGetActiveGuestByRole cs.roleList (cs.containers i).role = some j → i ≠ j →
      StartRecovers (visit i).start (enableGuest (cs.containers j))

section Visit

variable {cs cs' : Containers n} {i : Fin n} {sys : VisitSys}

lemma VisitEffect.moves (e : VisitEffect sys cs i cs') (h : RoleExclusion cs)
    (hs : cs.sysState = .run)
    (hR : R → ∀ j, (cs.containers i).runtimeStat.status = .notStarted →
      containerGetActiveGuestByRole cs.roleList (cs.containers i).role = some j → i ≠ j →
        StartRecovers sys.start (enableGuest (cs.containers j))) : cs.Moves R cs' := by
  cases e with
  | skip => exact .refl
  | start hd =>
    rw [Moves, startAndNotify_views]
    exact (startGuest_moves sys cs i ⟨hs, Or.inl hd⟩ fun _ hn => by simp [hd] at hn).moves
  | switch j hn hj hij =>
    have hm := switched_moves (R := R) sys.disable hs hij (h.role_active hj) hn
    have he := switched_active sys.disable cs hij
    rw [Moves, startAndNotify_views]
    have hstart := startGuest_moves (R := R) sys _ j (switched_startable sys.disable hs hij)
      fun hr _ => by rw [he]; exact hR hr j hn hj hij
    exact hm.trans hstart.moves
  | worker hn ha =>
    exact (setGuest_moves (by simpa [hs] using execRunWorkerGuest_move sys.worker _ hn)).moves
  | finish hr =>
    exact (setGuest_moves (by simpa [hs] using execFinishWorkerGuest_move sys.finish _ hr)).moves

lemma VisitEffect.roleExclusion (e : VisitEffect sys cs i cs') (h : RoleExclusion cs)
    (hs : cs.sysState = .run) : RoleExclusion cs' := by
  have hm := e.moves (R := False) h hs False.elim
  cases e with
  | skip => exact h
  | start hd => exact h.startAndNotify sys ⟨hs, Or.inl hd⟩
  | switch j hn hj hij =>
    have hm := switched_moves (R := False) sys.disable hs hij (h.role_active hj) hn
    exact (h.moves hm h.roles fun i status hi => hi).startAndNotify sys
      (switched_startable sys.disable hs hij)
  | worker hn ha => exact h.moves hm h.roles fun i status hi => hi
  | finish hr => exact h.moves hm h.roles fun i status hi => hi

/-- A pass keeps the system state and the role list. -/
lemma VisitEffect.frame (e : VisitEffect sys cs i cs') :
    cs'.sysState = cs.sysState ∧ cs'.roleList = cs.roleList := by
  cases e with
  | start hd => exact ⟨startAndNotify_sysState sys cs i, startAndNotify_roleList sys cs i⟩
  | switch j hn hj hij =>
    exact ⟨startAndNotify_sysState sys _ j, startAndNotify_roleList sys _ j⟩
  | _ => exact ⟨rfl, rfl⟩

/-- A start only touches its guest. -/
lemma startGuest_of_ne (sys : VisitSys) (cs : Containers n) {i k : Fin n} (hk : k ≠ i) :
    (startGuest sys cs i).1.containers k = cs.containers k := by
  have hcall : (cs.callStart sys.start i).1.containers k = cs.containers k :=
    setGuest_of_ne _ hk _
  have hmon : (containerMonitorAddguest sys.monitor (cs.callStart sys.start i).1 i).1.containers k =
      cs.containers k := by
    obtain ⟨source, event, h⟩ :=
      containerMonitorAddguest_frame sys.monitor (cs.callStart sys.start i).1 i
    rw [h, ← hcall]
    exact setGuest_of_ne _ hk _
  simp only [startGuest]
  split_ifs
  · exact hmon
  · exact hcall

lemma startAndNotify_of_ne (sys : VisitSys) (cs : Containers n) {i k : Fin n} (hk : k ≠ i) :
    (startAndNotify sys cs i).containers k = cs.containers k := by
  obtain ⟨comm, e⟩ := startAndNotify_frame sys cs i
  rw [e]
  exact startGuest_of_ne sys cs hk

/-- A pass touches its own guest, and the active guest in a switch. -/
lemma VisitEffect.of_ne (e : VisitEffect sys cs i cs') {k : Fin n} (hk : k ≠ i)
    (hsw : (cs.containers i).runtimeStat.status = .notStarted →
      containerGetActiveGuestByRole cs.roleList (cs.containers i).role ≠ some k) :
    cs'.containers k = cs.containers k := by
  cases e with
  | skip => rfl
  | start hd => exact startAndNotify_of_ne sys cs hk
  | switch j hn hj hij =>
    have hkj : k ≠ j := fun e => hsw hn (e ▸ hj)
    rw [startAndNotify_of_ne sys _ hkj]
    simp [switched, hkj, hk]
  | worker hn ha => exact setGuest_of_ne _ hk _
  | finish hr => exact setGuest_of_ne _ hk _

/-- While roles are exclusive, the passes of the others do not touch an enabled guest. -/
lemma VisitEffect.of_enabled (e : VisitEffect sys cs i cs') (h : RoleExclusion cs) {k : Fin n}
    (hk : k ≠ i) (hen : (cs.containers k).Enabled) : cs'.containers k = cs.containers k := by
  refine e.of_ne hk fun hn hj => ?_
  have hd := h.disabled_of_ne hen (h.role_active hj).symm hk.symm
  simp [hd] at hn

/-- A started guest is not disabled, however the start ends. -/
lemma startAndNotify_enabled (sys : VisitSys) {cs : Containers n} {i : Fin n}
    (h : (cs.views i).Startable) : ((startAndNotify sys cs i).containers i).Enabled := by
  have hs : cs.sysState = .run := h.1
  have hen : (cs.containers i).Enabled := by
    rcases h.2 with hd | ⟨hd, -⟩ <;> simp_all [ContainerConfig.Enabled]
  have hm := containerStart_move (R := False) sys.start (cs.containers i)
    (by simpa [hs] using h) False.elim
  have hv : (startAndNotify sys cs i).views i =
      (containerStart sys.start (cs.containers i)).1.view .run := by
    rw [startAndNotify_views, startGuest_views, Function.update_self, hs]
  intro hd
  have hd' : ((startAndNotify sys cs i).views i).status = .disable := hd
  rw [hv] at hd'
  exact hen (hm.status_disable.mp hd')

/-- The pass of the active guest leaves it enabled, or has nothing to do. -/
lemma VisitEffect.active_self (e : VisitEffect sys cs i cs') (hs : cs.sysState = .run)
    (ha : cs.Active i) : cs' = cs ∨ (cs'.containers i).Enabled := by
  cases e with
  | skip => exact Or.inl rfl
  | start hd => exact Or.inr (startAndNotify_enabled sys ⟨hs, Or.inl hd⟩)
  | switch j hn hj hij =>
    rw [Active, hj] at ha
    exact absurd (Option.some.inj ha).symm hij
  | worker hn ha =>
    have hm := execRunWorkerGuest_move (R := False) sys.worker _ hn
    refine Or.inr fun hd => ?_
    rw [setGuest_self] at hd
    simpa [hn] using hm.status_disable.mp hd
  | finish hr =>
    have hm := execFinishWorkerGuest_move (R := False) sys.finish _ hr
    refine Or.inr fun hd => ?_
    rw [setGuest_self] at hd
    simpa [hr] using hm.status_disable.mp hd

/-- A switch leaves the active guest enabled. -/
lemma VisitEffect.switch_enabled (e : VisitEffect sys cs i cs') (hs : cs.sysState = .run)
    {j : Fin n} (hn : (cs.containers i).runtimeStat.status = .notStarted)
    (hj : containerGetActiveGuestByRole cs.roleList (cs.containers i).role = some j)
    (hij : i ≠ j) (hne : cs' ≠ cs) : (cs'.containers j).Enabled := by
  cases e with
  | skip => exact absurd rfl hne
  | start hd => simp [hn] at hd
  | switch k hn hk hik =>
    obtain rfl : j = k := Option.some.inj (hj.symm.trans hk)
    exact startAndNotify_enabled sys (switched_startable sys.disable hs hij)
  | worker hn ha =>
    rw [Active, hj] at ha
    exact absurd (Option.some.inj ha).symm hij
  | finish hr => simp [hn] at hr

end Visit

/-! ### The cyclic event -/

/-- What the first loop of the run state keeps while the passes of `rest` are still to come: a guest
that a later switch may enable is as it was. -/
structure VisitsInvariant (R : Prop) (cs : Containers n) (rest : List (Fin n))
    (s : Containers n) : Prop where
  nodup : rest.Nodup
  roles : RoleExclusion s
  sysState : s.sysState = .run
  roleList : s.roleList = cs.roleList
  moves : cs.Moves R s
  untouched : ∀ k, s.containers k = cs.containers k ∨
    (cs.Active k ∧ (s.containers k).Enabled) ∨ (¬ cs.Active k ∧ k ∉ rest)

lemma VisitsInvariant.active_iff {cs s : Containers n} {rest : List (Fin n)}
    (h : VisitsInvariant R cs rest s) (k : Fin n) : s.Active k ↔ cs.Active k := by
  have hrole : (s.containers k).role = (cs.containers k).role := congrFun h.moves.role_eq k
  rw [Active, Active, h.roleList, hrole]

/-- A guest that a visit switches to is as it was before the cycle, so its start recovers. -/
lemma VisitsInvariant.switch_recovers {cs s : Containers n} {i : Fin n} {rest : List (Fin n)}
    (h : VisitsInvariant R cs (i :: rest) s) {visit : Fin n → VisitSys}
    (hR : SwitchesRecover visit cs) {j : Fin n}
    (hn : (s.containers i).runtimeStat.status = .notStarted)
    (hj : containerGetActiveGuestByRole s.roleList (s.containers i).role = some j) (hij : i ≠ j) :
    StartRecovers (visit i).start (enableGuest (s.containers j)) := by
  have hij' : ¬ cs.Active i := by
    rw [← h.active_iff, Active, hj]
    exact fun e => hij (Option.some.inj e).symm
  have haj : cs.Active j := by
    rw [← h.active_iff, Active, h.roles.role_active hj]
    exact hj
  have hei : s.containers i = cs.containers i := by
    rcases h.untouched i with hu | ⟨ha, -⟩ | ⟨-, hi⟩
    · exact hu
    · exact absurd ha hij'
    · exact absurd List.mem_cons_self hi
  have hej : s.containers j = cs.containers j := by
    rcases h.untouched j with hu | ⟨-, hen⟩ | ⟨ha, -⟩
    · exact hu
    · have hd := h.roles.disabled_of_ne hen (h.roles.role_active hj).symm hij
      simp [hd] at hn
    · exact absurd haj ha
  rw [h.roleList] at hj
  rw [hei] at hn hj
  rw [hej]
  exact hR i j hn hj hij

lemma VisitsInvariant.visit {cs s : Containers n} {i : Fin n} {rest : List (Fin n)}
    (h : VisitsInvariant R cs (i :: rest) s) (visit : Fin n → VisitSys)
    (hR : R → SwitchesRecover visit cs) :
    VisitsInvariant R cs rest (execRunVisit (visit i) s i) := by
  have e := execRunVisit_effect (visit i) s i
  generalize execRunVisit (visit i) s i = s' at e ⊢
  have hnodup := List.nodup_cons.mp h.nodup
  obtain ⟨hsys, hlist⟩ := e.frame
  have hmoves := e.moves h.roles h.sysState fun hr _ => h.switch_recovers (hR hr)
  refine ⟨hnodup.2, e.roleExclusion h.roles h.sysState, hsys.trans h.sysState,
    hlist.trans h.roleList, h.moves.trans hmoves, fun k => ?_⟩
  by_cases hss : s' = s
  · subst hss
    rcases h.untouched k with hu | hu | ⟨ha, hk⟩
    · exact Or.inl hu
    · exact Or.inr (Or.inl hu)
    · exact Or.inr (Or.inr ⟨ha, fun hk' => hk (List.mem_cons_of_mem _ hk')⟩)
  by_cases hk : k = i
  · subst hk
    by_cases ha : cs.Active k
    · have hen := (e.active_self h.sysState ((h.active_iff k).mpr ha)).resolve_left hss
      exact Or.inr (Or.inl ⟨ha, hen⟩)
    · exact Or.inr (Or.inr ⟨ha, hnodup.1⟩)
  · by_cases hsw : (s.containers i).runtimeStat.status = .notStarted ∧
        containerGetActiveGuestByRole s.roleList (s.containers i).role = some k
    · have hen := e.switch_enabled h.sysState hsw.1 hsw.2 (Ne.symm hk) hss
      refine Or.inr (Or.inl ⟨(h.active_iff k).mp ?_, hen⟩)
      rw [Active, h.roles.role_active hsw.2]
      exact hsw.2
    · rw [e.of_ne hk fun hn hj => hsw ⟨hn, hj⟩]
      rcases h.untouched k with hu | hu | ⟨ha, hk'⟩
      · exact Or.inl hu
      · exact Or.inr (Or.inl hu)
      · exact Or.inr (Or.inr ⟨ha, fun hm => hk' (List.mem_cons_of_mem _ hm)⟩)

lemma execRunVisits_invariant (visit : Fin n → VisitSys) {cs : Containers n}
    (h : RoleExclusion cs) (hs : cs.sysState = .run) (hR : R → SwitchesRecover visit cs) :
    VisitsInvariant R cs [] (execRunVisits visit cs) :=
  Loop.foldl_invariant_rest (I := VisitsInvariant R cs) (fun _ _ _ hI => hI.visit visit hR)
    ⟨List.nodup_finRange n, h, hs, rfl, .refl, fun _ => Or.inl rfl⟩

section Exec

variable {cs : Containers n}

/-- After its first loop, the cyclic event in the run state makes no start. -/
lemma execInternalEventRun_rest (sys : ExecSys n)
    (hs : (execRunVisits sys.visit cs).sysState = .run) :
    (execRunVisits sys.visit cs).OwnMoves R (execInternalEventRun sys cs) := by
  refine .trans (b := ((execRunVisits sys.visit cs).forEachGuest fun i =>
    execRunTimeoutGuest (sys.initPid i) sys.now).views) ?_ ?_
  · exact forEachGuest_moves fun i => by simpa [hs] using execRunTimeoutGuest_move _ _ _
  · refine forEachGuest_moves fun i => ?_
    simpa [containerDoDelayedOperation_view] using LifeMove.idle

@[simp] lemma execInternalEventRun_log (sys : ExecSys n) (cs : Containers n) :
    (execInternalEventRun sys cs).log = (execRunVisits sys.visit cs).log := by
  simp [execInternalEventRun, containerMngsmDoCyclicOperation]

@[simp] lemma execInternalEventRun_roleList (sys : ExecSys n) (cs : Containers n) :
    (execInternalEventRun sys cs).roleList = (execRunVisits sys.visit cs).roleList := by
  simp [execInternalEventRun, containerMngsmDoCyclicOperation]

lemma execInternalEventRun_moves (sys : ExecSys n) (h : RoleExclusion cs) (hs : cs.sysState = .run)
    (hR : R → SwitchesRecover sys.visit cs) : cs.Moves R (execInternalEventRun sys cs) := by
  have hI := execRunVisits_invariant sys.visit h hs hR
  exact hI.moves.trans (execInternalEventRun_rest sys hI.sysState).moves

lemma execInternalEventRun_roleExclusion (sys : ExecSys n) (h : RoleExclusion cs)
    (hs : cs.sysState = .run) : RoleExclusion (execInternalEventRun sys cs) := by
  have hI := execRunVisits_invariant (R := False) sys.visit h hs False.elim
  refine hI.roles.moves (execInternalEventRun_rest (R := False) sys hI.sysState).moves ?_ ?_
  · rw [execInternalEventRun_roleList]
    exact hI.roles.roles
  · simp

end Exec

/-! ### One enabled guest in the cyclic event -/

section At

variable {cs : Containers n} {i : Fin n}

/-- The first loop of the run state takes an enabled guest to what its own pass makes of it. -/
lemma execRunVisits_at (visit : Fin n → VisitSys) (h : RoleExclusion cs) (hs : cs.sysState = .run)
    (hen : (cs.containers i).Enabled) {Q : ContainerConfig → Prop} (hQ : ∀ cc, Q cc → cc.Enabled)
    (hown : ∀ s : Containers n, s.sysState = .run → s.roleList = cs.roleList →
      s.containers i = cs.containers i → Q ((execRunVisit (visit i) s i).containers i)) :
    Q ((execRunVisits visit cs).containers i) := by
  let I (P : Containers n → Prop) (s : Containers n) : Prop :=
    RoleExclusion s ∧ s.sysState = .run ∧ s.roleList = cs.roleList ∧ P s
  have keep : ∀ P P' s j, I P s → P' (execRunVisit (visit j) s j) →
      I P' (execRunVisit (visit j) s j) := by
    intro P P' s j hI hP
    have e := execRunVisit_effect (visit j) s j
    exact ⟨e.roleExclusion hI.1 hI.2.1, e.frame.1.trans hI.2.1, e.frame.2.trans hI.2.2.1, hP⟩
  let before : Containers n → Prop := fun s => s.containers i = cs.containers i
  let after : Containers n → Prop := fun s => Q (s.containers i)
  have hfinal : I after (execRunVisits visit cs) := by
    refine Loop.forEach_at (P := I before) i ?_ ?_ ?_ ⟨h, hs, rfl, rfl⟩
    · intro s j hj hI
      have e := execRunVisit_effect (visit j) s j
      have hi : s.containers i = cs.containers i := hI.2.2.2
      exact keep before before s j hI ((e.of_enabled hI.1 hj.symm (hi ▸ hen)).trans hi)
    · intro s hI
      exact keep before after s i hI (hown s hI.2.1 hI.2.2.1 hI.2.2.2)
    · intro s j hj hI
      have e := execRunVisit_effect (visit j) s j
      have hi : Q (s.containers i) := hI.2.2.2
      apply keep after after s j hI
      show Q ((execRunVisit (visit j) s j).containers i)
      rw [e.of_enabled hI.1 hj.symm (hQ _ hi)]
      exact hi
  exact hfinal.2.2.2

/-- After the first loop, the cyclic event checks the deadline of a guest and its delayed mounts. -/
lemma execInternalEventRun_containers (sys : ExecSys n) (cs : Containers n) (i : Fin n) :
    (execInternalEventRun sys cs).containers i =
      (containerDoDelayedOperation (sys.delayed i) (execRunTimeoutGuest (sys.initPid i) sys.now
        ((execRunVisits sys.visit cs).containers i))).1 := by
  simp [execInternalEventRun, containerMngsmDoCyclicOperation]

end At

end ContainerManager

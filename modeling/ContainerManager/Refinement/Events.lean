import ContainerManager.Refinement.Cyclic

/-!
# The manager refines the abstract machine

Every event but the cyclic event in the run state moves the guests without a start. So every event
moves the guests by moves of the abstract machine, and roles stay exclusive in every run.
-/

namespace ContainerManager

open Containers

variable {n : ℕ} {R : Prop}

/-! ### Events without a start -/

/-- The guests move without a start or a role switch. -/
structure StartFree (cs cs' : Containers n) : Prop where
  moves : ∀ R, cs.OwnMoves R cs'
  roles : RolesWellFormed cs.views.role cs.roleList → RolesWellFormed cs.views.role cs'.roleList
  starts : ∀ i status, LogEntry.containerStart i status ∈ cs'.log →
    LogEntry.containerStart i status ∈ cs.log
  sysState : cs'.sysState = cs.sysState ∨ cs'.sysState = .shutdown

namespace StartFree

variable {cs cs' cs'' : Containers n}

lemma refl (cs : Containers n) : StartFree cs cs :=
  ⟨fun _ => .refl, id, fun _ _ => id, Or.inl rfl⟩

lemma trans (h : StartFree cs cs') (h' : StartFree cs' cs'') : StartFree cs cs'' where
  moves R := (h.moves R).trans (h'.moves R)
  roles hr := by
    have e : cs'.views.role = cs.views.role := (h.moves False).moves.role_eq
    have hr' := h'.roles (e ▸ h.roles hr)
    rwa [e] at hr'
  starts i status hi := h.starts i status (h'.starts i status hi)
  sysState := by
    rcases h'.sysState with e | e
    · rw [e]
      exact h.sysState
    · exact Or.inr e

lemma roleExclusion (h : StartFree cs cs') (hex : RoleExclusion cs) : RoleExclusion cs' :=
  hex.moves (h.moves False).moves (h.roles hex.roles) h.starts

/-- Nothing of the guests, the system state, the role list and the starts in the log changes. -/
lemma of_eq (hv : cs'.views = cs.views) (hs : cs'.sysState = cs.sysState)
    (hr : cs'.roleList = cs.roleList)
    (hl : ∀ i status, LogEntry.containerStart i status ∈ cs'.log →
      LogEntry.containerStart i status ∈ cs.log) : StartFree cs cs' :=
  ⟨fun _ => .of_views_eq hv, fun h => hr ▸ h, hl, Or.inl hs⟩

lemma setGuest {i : Fin n} {cc : ContainerConfig}
    (h : ∀ R, LifeMove R (cs.views i) (cc.view cs.sysState)) : StartFree cs (cs.setGuest i cc) :=
  ⟨fun R => setGuest_moves (h R), id, fun _ _ => id, Or.inl rfl⟩

lemma forEachGuest {f : Fin n → ContainerConfig → ContainerConfig}
    (h : ∀ R i, LifeMove R (cs.views i) ((f i (cs.containers i)).view cs.sysState)) :
    StartFree cs (cs.forEachGuest f) where
  moves R := forEachGuest_moves (h R)
  roles := by simp
  starts := by simp
  sysState := Or.inl (by simp)

lemma send (cs : Containers n) (m : Message) (sent : Bool) : StartFree cs (cs.send m sent) :=
  of_eq (by simp) (by simp) (by simp) (by simp)

end StartFree

lemma execTerminateOperation_startFree (dispatch : DispatchSys) (read : ReadSys)
    (cs : Containers n) : StartFree cs (execTerminateOperation dispatch read cs) := by
  unfold execTerminateOperation containerMngsmExecDelayedOperation containerMngsmDoCyclicOperation
    containerMngsmExit
  dsimp only
  split_ifs <;> exact .of_eq rfl rfl rfl (by simp [writeLog])

lemma execTerminateOperation_roleList (dispatch : DispatchSys) (read : ReadSys)
    (cs : Containers n) : (execTerminateOperation dispatch read cs).roleList = cs.roleList := by
  unfold execTerminateOperation containerMngsmExecDelayedOperation containerMngsmDoCyclicOperation
    containerMngsmExit
  dsimp only
  split_ifs <;> rfl

lemma execInternalEventShutdown_startFree (sys : ExecSys n) {cs : Containers n}
    (hs : cs.sysState = .shutdown) : StartFree cs (execInternalEventShutdown sys cs) := by
  have hcheck : StartFree cs (cs.forEachGuest fun i => execShutdownCheckGuest (sys.delete i)) :=
    .forEachGuest fun R i => by simpa [hs] using execShutdownCheckGuest_move _ _
  simp only [execInternalEventShutdown]
  split_ifs
  · exact hcheck.trans (execTerminateOperation_startFree _ _ _)
  · exact hcheck.trans (.forEachGuest fun R i => by
      simpa [hs] using execShutdownTimeoutGuest_move _ _ _)

lemma containerManagerShutdown_startFree (sys : Fin n → RequestSys) (cs : Containers n) :
    StartFree cs (containerManagerShutdown sys cs).1 where
  moves R := .of_guests fun i => by
    simpa [containerManagerShutdown] using
      containerRequestShutdown_move (sys i) (cs.containers i) .shutdown cs.sysState (Or.inr rfl)
  roles := by simp [containerManagerShutdown]
  starts := by simp [containerManagerShutdown]
  sysState := Or.inr (by simp [containerManagerShutdown])

lemma handleMessage_startFree (sys : MessageSys n) (cs : Containers n) (m : Message) :
    StartFree cs (handleMessage sys cs m) := by
  cases m with
  | netifUpdated =>
    simp only [handleMessage, containerNetifUpdated]
    refine .forEachGuest fun R i => ?_
    rw [containerNetifUpdateGuest_view]
    exact .idle
  | guestExit k incarnation =>
    simp only [handleMessage, containerExited]
    split_ifs
    · exact .setGuest fun R => containerExitedGuest_move _ _
    · exact .refl cs
  | systemShutdown => exact containerManagerShutdown_startFree sys.request cs
  | timerTick => exact .refl cs
  | other command => exact .refl cs

lemma lifecycleGuests_startFree {act : Fin n → ContainerConfig → ContainerConfig × ℤ}
    (name : String) (role : Bool) (cs : Containers n)
    (h : ∀ R i cc, LifeMove R (ContainerConfig.view cs.sysState cc)
      ((act i cc).1.view cs.sysState)) :
    StartFree cs (lifecycleGuests act name role cs).1 := by
  have key : StartFree cs (lifecycleGuests act name role cs).1 ∧
      (lifecycleGuests act name role cs).1.sysState = cs.sysState := by
    refine Loop.forEach_invariant
      (I := fun s : Containers n × ℤ => StartFree cs s.1 ∧ s.1.sysState = cs.sysState)
      (fun s i hs => ?_) ⟨.refl cs, rfl⟩
    by_cases hsel : lifecycleSelects role name (s.1.containers i) = true
    · simp only [hsel, if_true]
      exact ⟨hs.1.trans (.setGuest fun R => by simpa [hs.2] using h R i _), hs.2⟩
    · rw [if_neg hsel]
      exact hs
  exact key.1

lemma containerExternalInterfaceCommandLifecycle_startFree (sys : CommandSys n)
    (cs : Containers n) (p : ExtifPacket) (role : Bool) :
    StartFree cs (containerExternalInterfaceCommandLifecycle sys cs p role).1 := by
  have hkill : StartFree cs
      (containerExternalInterfaceForceRebootGuest sys p.guestName role cs).1 :=
    lifecycleGuests_startFree _ _ _ fun R i cc => by
      simpa [lxcutilContainerForcekill_view] using LifeMove.idle
  have hreboot : StartFree cs (containerExternalInterfaceRebootGuest sys p.guestName role cs).1 :=
    lifecycleGuests_startFree _ _ _ fun R i cc => containerRequestReboot_move _ _ _
  have hshut : StartFree cs (containerExternalInterfaceShutdownGuest sys p.guestName role cs).1 :=
    lifecycleGuests_startFree _ _ _ fun R i cc =>
      containerRequestShutdown_move _ _ _ _ (Or.inl rfl)
  have hcommand : StartFree cs (lifecycleCommand sys cs p role).1 := by
    rw [lifecycleCommand]
    split_ifs
    · exact hkill
    · exact hreboot
    · exact hshut
    · exact .refl cs
  simp only [containerExternalInterfaceCommandLifecycle]
  split_ifs
  · exact hcommand
  · exact hcommand
  · exact hcommand
  · exact .refl cs

lemma containerExternalInterfaceCommandChange_startFree (cs : Containers n) (p : ExtifPacket) :
    StartFree cs (containerExternalInterfaceCommandChange cs p).1 := by
  simp only [containerExternalInterfaceCommandChange]
  split_ifs
  · split
    · exact ⟨fun R => .refl, fun h => h.changeRoleList _ _ _, fun _ _ => id, Or.inl rfl⟩
    · exact .refl cs
  · exact .refl cs

lemma testSchedule_startFree (sys : CommandSys n) (cs : Containers n) (key : String) :
    StartFree cs (testSchedule sys cs key).1 := by
  simp only [testSchedule]
  split
  · exact .refl cs
  · exact .setGuest fun R => testScheduleGuest_move _ _ _ _

lemma containerExternalInterfaceCommandTest_startFree (sys : CommandSys n) (cs : Containers n)
    (p : ExtifPacket) : StartFree cs (containerExternalInterfaceCommandTest sys cs p).1 := by
  have htest := testSchedule_startFree sys cs
  simp only [containerExternalInterfaceCommandTest]
  split_ifs <;> first | exact htest _ | exact .refl cs | skip
  all_goals
    split
    · exact .refl cs
    · split_ifs <;> exact .refl cs

lemma containerExternalInterfaceExec_startFree (sys : CommandSys n) (cs : Containers n)
    (p : ExtifPacket) : StartFree cs (containerExternalInterfaceExec sys cs p).1 := by
  simp only [containerExternalInterfaceExec, containerExternalInterfaceCommandGet]
  split_ifs
  all_goals first
    | exact containerExternalInterfaceCommandLifecycle_startFree _ _ _ _
    | exact containerExternalInterfaceCommandChange_startFree _ _
    | exact containerExternalInterfaceCommandTest_startFree _ _ _
    | exact .refl cs

lemma containerMonitorPidfdHandler_startFree (sent : Bool) (source : PidfdSource n)
    (cs : Containers n) : StartFree cs (containerMonitorPidfdHandler sent source cs) := by
  refine Loop.forEach_rel StartFree.refl (fun _ _ _ => StartFree.trans) (fun s i => ?_) cs
  dsimp only
  split_ifs
  · let cc := { s.containers i with
      runtimeStat := { (s.containers i).runtimeStat with pidfdSource := none } }
    have hset : StartFree s (s.setGuest i cc) :=
      .setGuest fun R => by simpa [cc, ContainerConfig.view] using LifeMove.idle (R := R)
    exact hset.trans (.of_eq rfl rfl rfl fun _ _ => id)
  · exact .refl s
  · exact .refl s

lemma managerWorker_startFree (cs : Containers n) (k : ℕ) : StartFree cs (cs.managerWorker k) := by
  simp only [managerWorker]
  split
  · exact .of_eq rfl rfl rfl fun _ _ => id
  · exact .of_eq rfl rfl rfl (by simp [writeLog])

/-! ### Steps -/

/-- The cyclic event that an action runs, with the state it runs in: the message was handled. -/
def cyclicEvent (cs : Containers n) : Action n → Option (ExecSys n × Containers n)
  | .message m sys => some (sys.exec, handleMessage sys cs m)
  | .receive sys =>
    match cs.comm with
    | [] => none
    | m :: rest => some (sys.exec, handleMessage sys { cs with comm := rest } m)
  | _ => none

/-- An event ends with a cyclic event, or makes no start at all. -/
lemma step_cases (cs : Containers n) (a : Action n) :
    (∃ sys cs', cyclicEvent cs a = some (sys, cs') ∧ StartFree cs cs' ∧
        step cs a = containerExecInternalEvent sys cs') ∨
      cyclicEvent cs a = none ∧ StartFree cs (step cs a) := by
  cases a with
  | message m sys => exact Or.inl ⟨_, _, rfl, handleMessage_startFree sys cs m, rfl⟩
  | receive sys =>
    simp only [cyclicEvent, step, containerMngsmCommsocketHandler]
    cases hc : cs.comm with
    | nil => exact Or.inr ⟨rfl, .refl cs⟩
    | cons m rest =>
      refine Or.inl ⟨_, _, rfl, .trans ?_ (handleMessage_startFree sys _ m), rfl⟩
      exact .of_eq rfl rfl rfl fun _ _ => id
  | timer sent => exact Or.inr ⟨rfl, .send cs _ sent⟩
  | sigterm sent => exact Or.inr ⟨rfl, .send cs _ sent⟩
  | netlink m sent =>
    refine Or.inr ⟨rfl, .trans ?_ (.send _ _ _)⟩
    exact .of_eq rfl rfl rfl fun _ _ => id
  | pidfd id sent =>
    refine Or.inr ⟨rfl, ?_⟩
    simp only [step]
    split
    · exact .refl cs
    · exact containerMonitorPidfdHandler_startFree sent _ cs
  | command p sys => exact Or.inr ⟨rfl, containerExternalInterfaceExec_startFree sys cs p⟩
  | guestWorker i exec => exact Or.inr ⟨rfl, .setGuest fun R => guestWorkerDone_move _ _ _⟩
  | managerWorker k => exact Or.inr ⟨rfl, managerWorker_startFree cs k⟩

/-- The role switches of this action recover from failed mounts. -/
def StepRecovers (cs : Containers n) (a : Action n) : Prop :=
  ∀ sys cs', cyclicEvent cs a = some (sys, cs') → cs'.sysState = .run →
    SwitchesRecover sys.visit cs'

lemma containerExecInternalEvent_roleExclusion (sys : ExecSys n) {cs : Containers n}
    (h : RoleExclusion cs) : RoleExclusion (containerExecInternalEvent sys cs) := by
  simp only [containerExecInternalEvent]
  split
  · rename_i hs
    exact execInternalEventRun_roleExclusion sys h hs
  · rename_i hs
    exact (execInternalEventShutdown_startFree sys hs).roleExclusion h

lemma containerExecInternalEvent_moves (sys : ExecSys n) {cs : Containers n}
    (h : RoleExclusion cs) (hR : R → cs.sysState = .run → SwitchesRecover sys.visit cs) :
    cs.Moves R (containerExecInternalEvent sys cs) := by
  simp only [containerExecInternalEvent]
  split
  · rename_i hs
    exact execInternalEventRun_moves sys h hs fun hr => hR hr hs
  · rename_i hs
    exact ((execInternalEventShutdown_startFree sys hs).moves R).moves

/-- Every event keeps the roles exclusive. -/
lemma step_roleExclusion {cs : Containers n} (h : RoleExclusion cs) (a : Action n) :
    RoleExclusion (step cs a) := by
  rcases step_cases cs a with ⟨sys, cs', -, hf, e⟩ | ⟨-, hf⟩
  · rw [e]
    exact containerExecInternalEvent_roleExclusion sys (hf.roleExclusion h)
  · exact hf.roleExclusion h

/-- Every event moves the guests by moves of the abstract machine. -/
theorem step_moves {cs : Containers n} (h : RoleExclusion cs) (a : Action n)
    (hR : R → StepRecovers cs a) : cs.Moves R (step cs a) := by
  rcases step_cases cs a with ⟨sys, cs', hc, hf, e⟩ | ⟨-, hf⟩
  · rw [e]
    exact (hf.moves R).moves.trans (containerExecInternalEvent_moves sys (hf.roleExclusion h)
      fun hr hs => hR hr sys cs' hc hs)
  · exact (hf.moves R).moves

/-- What every step of a guest's machine keeps, every run keeps. -/
theorem run_moves_invariant {I : GuestView → Prop} (hI : ∀ v w, LifeStep False v w → I v → I w)
    {cs : Containers n} (h : RoleExclusion cs) {i : Fin n} (hi : I (cs.views i))
    (as : List (Action n)) : I ((Transition.run step cs as).views i) := by
  have key := Transition.run_invariant (I := fun cs => RoleExclusion cs ∧ I (cs.views i))
    (fun s a hs => ⟨step_roleExclusion hs.1 a,
      (step_moves hs.1 a False.elim).invariant hI hs.1.exclusive hs.2⟩) ⟨h, hi⟩ as
  exact key.2

lemma containerExecInternalEvent_sysState (sys : ExecSys n) {cs : Containers n}
    (h : cs.sysState = .shutdown) : (containerExecInternalEvent sys cs).sysState = .shutdown := by
  have hf := execInternalEventShutdown_startFree sys h
  simp only [containerExecInternalEvent]
  rw [h]
  simpa [h] using hf.sysState

/-- The shutdown state is never left. -/
lemma step_sysState {cs : Containers n} (h : cs.sysState = .shutdown) (a : Action n) :
    (step cs a).sysState = .shutdown := by
  rcases step_cases cs a with ⟨sys, cs', -, hf, e⟩ | ⟨-, hf⟩
  · rw [e]
    exact containerExecInternalEvent_sysState sys (by simpa [h] using hf.sysState)
  · simpa [h] using hf.sysState

end ContainerManager

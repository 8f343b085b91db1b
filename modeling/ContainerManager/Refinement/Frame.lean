import ContainerManager.Refinement.Boot

/-!
# What the handlers leave alone

Every handler that makes no start works on the guests only: the manager operation, the internal
socket, the event loop and the log are as they were, and no guest gets an instance or another event
source.
-/

namespace ContainerManager

open Containers

variable {n : ℕ}

/-! ### One guest -/

/-- The guest keeps its event source, and keeps its instance or has none. -/
structure KeepsInstance (cc cc' : ContainerConfig) : Prop where
  pidfdSource : cc'.runtimeStat.pidfdSource = cc.runtimeStat.pidfdSource
  lxc : cc'.runtimeStat.lxc = cc.runtimeStat.lxc ∨ cc'.runtimeStat.lxc = none

namespace KeepsInstance

variable {cc cc' cc'' : ContainerConfig}

lemma refl (cc : ContainerConfig) : KeepsInstance cc cc := ⟨rfl, Or.inl rfl⟩

lemma trans (h : KeepsInstance cc cc') (h' : KeepsInstance cc' cc'') : KeepsInstance cc cc'' where
  pidfdSource := h'.pidfdSource.trans h.pidfdSource
  lxc := by
    rcases h'.lxc with e | e
    · rw [e]
      exact h.lxc
    · exact Or.inr e

lemma some_of_some (h : KeepsInstance cc cc') {lxc : LxcContainer}
    (hl : cc'.runtimeStat.lxc = some lxc) : cc.runtimeStat.lxc = some lxc := by
  rcases h.lxc with e | e
  · rw [← e, hl]
  · simp [e] at hl

lemma of_eq (hp : cc'.runtimeStat.pidfdSource = cc.runtimeStat.pidfdSource)
    (hl : cc'.runtimeStat.lxc = cc.runtimeStat.lxc) : KeepsInstance cc cc' := ⟨hp, Or.inl hl⟩

lemma of_none (hp : cc'.runtimeStat.pidfdSource = cc.runtimeStat.pidfdSource)
    (hl : cc'.runtimeStat.lxc = none) : KeepsInstance cc cc' := ⟨hp, Or.inr hl⟩

end KeepsInstance

lemma lxcutilContainerForcekill_keeps (initPid : ℤ) (cc : ContainerConfig) :
    KeepsInstance cc (lxcutilContainerForcekill initPid cc) := by
  rw [lxcutilContainerForcekill_frame]
  exact .of_eq rfl rfl

lemma timeoutKill_keeps (initPid now : ℤ) (cc : ContainerConfig) (status : ContainerStatus) :
    KeepsInstance cc (timeoutKill initPid now cc status) := by
  rw [timeoutKill, lxcutilContainerForcekill_frame]
  exact .of_none rfl rfl

lemma execRunTimeoutGuest_keeps (initPid now : ℤ) (cc : ContainerConfig) :
    KeepsInstance cc (execRunTimeoutGuest initPid now cc) := by
  simp only [execRunTimeoutGuest]
  split_ifs
  · exact timeoutKill_keeps _ _ _ _
  · exact timeoutKill_keeps _ _ _ _
  · exact .refl cc

lemma execShutdownTimeoutGuest_keeps (initPid now : ℤ) (cc : ContainerConfig) :
    KeepsInstance cc (execShutdownTimeoutGuest initPid now cc) := by
  simp only [execShutdownTimeoutGuest]
  split_ifs
  · exact timeoutKill_keeps _ _ _ _
  · exact .of_eq rfl rfl
  · exact .refl cc

lemma execShutdownCheckGuest_keeps (delete : ℤ) (cc : ContainerConfig) :
    KeepsInstance cc (execShutdownCheckGuest delete cc) := by
  simp only [execShutdownCheckGuest]
  split_ifs <;> exact .of_eq rfl rfl

lemma containerDoDelayedOperation_keeps (sys : DelayedSys) (cc : ContainerConfig) :
    KeepsInstance cc (containerDoDelayedOperation sys cc).1 := by
  simp only [containerDoDelayedOperation]
  split_ifs <;> exact .of_eq rfl rfl

lemma execRunWorkerGuest_keeps (sys : RunWorkerSys) (cc : ContainerConfig) :
    KeepsInstance cc (execRunWorkerGuest sys cc) := by
  simp only [execRunWorkerGuest]
  split_ifs <;> exact .of_none rfl rfl

lemma execFinishWorkerGuest_keeps (delete : ℤ) (cc : ContainerConfig) :
    KeepsInstance cc (execFinishWorkerGuest delete cc) := by
  simp only [execFinishWorkerGuest]
  split_ifs <;> exact .of_eq rfl rfl

lemma execDisableGuest_keeps (sys : CleanupSys) (cc : ContainerConfig) :
    KeepsInstance cc (execDisableGuest sys cc) :=
  .of_none rfl rfl

lemma enableGuest_keeps (cc : ContainerConfig) : KeepsInstance cc (enableGuest cc) :=
  .of_eq rfl rfl

lemma containerExitedGuest_keeps (s : SystemState) (cc : ContainerConfig) :
    KeepsInstance cc (containerExitedGuest s cc).1 :=
  .of_none rfl rfl

lemma containerNetifUpdateGuest_keeps (attach : ℕ → ℕ → Bool) (nllist : List NetworkInterfaceInfo)
    (cc : ContainerConfig) : KeepsInstance cc (containerNetifUpdateGuest attach nllist cc).1 := by
  simp only [containerNetifUpdateGuest]
  split_ifs <;> exact .of_eq rfl rfl

lemma requestStop_keeps (sys : RequestSys) (cc : ContainerConfig)
    (failed accepted : ContainerStatus) :
    KeepsInstance cc (requestStop sys cc failed accepted) := by
  simp only [requestStop]
  split_ifs
  · rw [lxcutilContainerForcekill_frame]
    exact .of_none rfl rfl
  · exact .of_eq rfl rfl

lemma containerRequestShutdown_keeps (sys : RequestSys) (cc : ContainerConfig) (s : SystemState) :
    KeepsInstance cc (containerRequestShutdown sys cc s).1 := by
  have hbody : KeepsInstance cc (containerRequestShutdownBody sys cc s).1 := by
    cases s <;> unfold containerRequestShutdownBody <;> dsimp only <;> split <;> first
      | exact requestStop_keeps _ _ _ _
      | exact .of_eq rfl rfl
  exact hbody.trans (.of_eq rfl rfl)

lemma containerRequestReboot_keeps (sys : RequestSys) (cc : ContainerConfig) (s : SystemState) :
    KeepsInstance cc (containerRequestReboot sys cc s).1 := by
  cases s <;> unfold containerRequestReboot <;> dsimp only <;> split <;> first
    | exact requestStop_keeps _ _ _ _
    | exact .of_eq rfl rfl

lemma guestWorkerDone_keeps (exec : ℤ) (cc : ContainerConfig) :
    KeepsInstance cc (guestWorkerDone exec cc) := by
  simp only [guestWorkerDone]
  split_ifs <;> exact .of_eq rfl rfl

lemma testScheduleGuest_keeps (sys : PluginSys) (key : String) (cc : ContainerConfig) :
    KeepsInstance cc (testScheduleGuest sys key cc).1 := by
  simp only [testScheduleGuest]
  split_ifs <;> exact .of_eq rfl rfl

/-- A start only brings an instance when it succeeds. -/
lemma containerStart_keeps (sys : StartSys) (cc : ContainerConfig)
    (h : (containerStart sys cc).2 ≠ 0) : KeepsInstance cc (containerStart sys cc).1 := by
  by_cases hen : cc.Enabled
  · have o := containerStart_outcome sys cc hen
    generalize containerStart sys cc = r at o h ⊢
    cases o with
    | mountFailed => exact .of_eq rfl rfl
    | launchFailed cc' hm hbc hs hl hp => exact .of_none hp hl
    | launched => exact absurd rfl h
  · simp only [containerStart, containerStartBody]
    rw [if_pos (not_not.mp hen)]
    exact .of_eq rfl rfl

lemma containerStart_pidfdSource (sys : StartSys) (cc : ContainerConfig) :
    (containerStart sys cc).1.runtimeStat.pidfdSource = cc.runtimeStat.pidfdSource := by
  by_cases h : (containerStart sys cc).2 = 0
  · have hen : cc.Enabled := by
      intro hd
      simp [containerStart, containerStartBody, hd] at h
    have o := containerStart_outcome sys cc hen
    generalize containerStart sys cc = r at o h ⊢
    cases o with
    | mountFailed => rfl
    | launchFailed cc' hm hbc hs hl hp => exact hp
    | launched cc' hm hbc hs hl hp => exact hp
  · exact (containerStart_keeps sys cc h).pidfdSource

lemma containerStart_lxc (sys : StartSys) (cc : ContainerConfig)
    (h : (containerStart sys cc).2 = 0) :
    (containerStart sys cc).1.runtimeStat.lxc = some ⟨cc.launches + 1⟩ := by
  have hen : cc.Enabled := by
    intro hd
    simp [containerStart, containerStartBody, hd] at h
  have o := containerStart_outcome sys cc hen
  generalize containerStart sys cc = r at o h ⊢
  cases o with
  | mountFailed => simp at h
  | launchFailed => simp at h
  | launched cc' hm hbc hs hl => exact hl

/-! ### All guests -/

/-- All of the state but the guests, the system state and the role list. -/
def Containers.outside (cs : Containers n) :
    ManagerOperation × List NetworkInterfaceInfo × List Message × EventLoop n ×
      List (LogEntry n) :=
  (cs.operation, cs.nllist, cs.comm, cs.event, cs.log)

/-- Only the guests, the system state and the role list change, and no guest gets an instance. -/
structure GuestsOnly (cs cs' : Containers n) : Prop where
  guests : ∀ i, KeepsInstance (cs.containers i) (cs'.containers i)
  outside : cs'.outside = cs.outside

namespace GuestsOnly

variable {cs cs' cs'' : Containers n}

lemma refl (cs : Containers n) : GuestsOnly cs cs := ⟨fun _ => .refl _, rfl⟩

lemma trans (h : GuestsOnly cs cs') (h' : GuestsOnly cs' cs'') : GuestsOnly cs cs'' :=
  ⟨fun i => (h.guests i).trans (h'.guests i), h'.outside.trans h.outside⟩

lemma operation (h : GuestsOnly cs cs') : cs'.operation = cs.operation :=
  congrArg Prod.fst h.outside

lemma comm (h : GuestsOnly cs cs') : cs'.comm = cs.comm :=
  congrArg (fun o => o.2.2.1) h.outside

lemma event (h : GuestsOnly cs cs') : cs'.event = cs.event :=
  congrArg (fun o => o.2.2.2.1) h.outside

lemma log (h : GuestsOnly cs cs') : cs'.log = cs.log :=
  congrArg (fun o => o.2.2.2.2) h.outside

lemma of_containers (hc : cs'.containers = cs.containers) (ho : cs'.outside = cs.outside) :
    GuestsOnly cs cs' :=
  ⟨fun _ => hc ▸ .refl _, ho⟩

lemma setGuest {i : Fin n} {cc : ContainerConfig} (h : KeepsInstance (cs.containers i) cc) :
    GuestsOnly cs (cs.setGuest i cc) := by
  refine ⟨fun j => ?_, rfl⟩
  by_cases hj : j = i
  · subst hj
    simpa using h
  · simpa [hj] using KeepsInstance.refl _

lemma forEachGuest (cs : Containers n) {f : Fin n → ContainerConfig → ContainerConfig}
    (h : ∀ i cc, KeepsInstance cc (f i cc)) : GuestsOnly cs (cs.forEachGuest f) := by
  constructor
  · intro i
    rw [forEachGuest_containers]
    exact h i _
  · rw [forEachGuest_eq]
    rfl

end GuestsOnly

/-! ### Messages and commands -/

lemma containerManagerShutdown_guestsOnly (sys : Fin n → RequestSys) (cs : Containers n) :
    GuestsOnly cs (containerManagerShutdown sys cs).1 := by
  have hstate : GuestsOnly cs { cs with sysState := .shutdown } := .of_containers rfl rfl
  exact hstate.trans (.forEachGuest _ fun i cc => containerRequestShutdown_keeps (sys i) cc _)

lemma handleMessage_guestsOnly (sys : MessageSys n) (cs : Containers n) (m : Message) :
    GuestsOnly cs (handleMessage sys cs m) := by
  cases m with
  | netifUpdated => exact .forEachGuest cs fun _ cc => containerNetifUpdateGuest_keeps _ _ cc
  | guestExit k incarnation =>
    simp only [handleMessage, containerExited]
    split_ifs
    · exact .setGuest (containerExitedGuest_keeps _ _)
    · exact .refl cs
  | systemShutdown => exact containerManagerShutdown_guestsOnly sys.request cs
  | timerTick => exact .refl cs
  | other command => exact .refl cs

lemma lifecycleGuests_guestsOnly {act : Fin n → ContainerConfig → ContainerConfig × ℤ}
    (name : String) (role : Bool) (cs : Containers n)
    (h : ∀ i cc, KeepsInstance cc (act i cc).1) :
    GuestsOnly cs (lifecycleGuests act name role cs).1 := by
  refine Loop.forEach_invariant (I := fun s : Containers n × ℤ => GuestsOnly cs s.1)
    (fun s i hs => ?_) (.refl cs)
  dsimp only
  split_ifs
  · exact hs.trans (.setGuest (h i _))
  · exact hs.trans (.setGuest (h i _))
  · exact hs

lemma containerExternalInterfaceCommandLifecycle_guestsOnly (sys : CommandSys n)
    (cs : Containers n) (p : ExtifPacket) (role : Bool) :
    GuestsOnly cs (containerExternalInterfaceCommandLifecycle sys cs p role).1 := by
  have hkill : GuestsOnly cs
      (containerExternalInterfaceForceRebootGuest sys p.guestName role cs).1 :=
    lifecycleGuests_guestsOnly _ _ _ fun i cc => lxcutilContainerForcekill_keeps _ _
  have hreboot : GuestsOnly cs
      (containerExternalInterfaceRebootGuest sys p.guestName role cs).1 :=
    lifecycleGuests_guestsOnly _ _ _ fun i cc => containerRequestReboot_keeps _ _ _
  have hshut : GuestsOnly cs
      (containerExternalInterfaceShutdownGuest sys p.guestName role cs).1 :=
    lifecycleGuests_guestsOnly _ _ _ fun i cc => containerRequestShutdown_keeps _ _ _
  have hcommand : GuestsOnly cs (lifecycleCommand sys cs p role).1 := by
    rw [lifecycleCommand]
    split_ifs
    · exact hkill
    · exact hreboot
    · exact hshut
    · exact .refl cs
  simp only [containerExternalInterfaceCommandLifecycle]
  split_ifs
  · exact hcommand
  · exact hcommand
  · exact hcommand
  · exact .refl cs

lemma containerExternalInterfaceCommandChange_guestsOnly (cs : Containers n) (p : ExtifPacket) :
    GuestsOnly cs (containerExternalInterfaceCommandChange cs p).1 := by
  simp only [containerExternalInterfaceCommandChange]
  split_ifs
  · split <;> exact .of_containers rfl rfl
  · exact .refl cs

lemma testSchedule_guestsOnly (sys : CommandSys n) (cs : Containers n) (key : String) :
    GuestsOnly cs (testSchedule sys cs key).1 := by
  simp only [testSchedule]
  split
  · exact .refl cs
  · exact .setGuest (testScheduleGuest_keeps _ _ _)

lemma containerExternalInterfaceCommandTest_guestsOnly (sys : CommandSys n) (cs : Containers n)
    (p : ExtifPacket) : GuestsOnly cs (containerExternalInterfaceCommandTest sys cs p).1 := by
  have htest := testSchedule_guestsOnly sys cs
  simp only [containerExternalInterfaceCommandTest]
  split_ifs <;> first | exact htest _ | exact .refl cs | skip
  all_goals
    split
    · exact .refl cs
    · split_ifs <;> exact .refl cs

lemma containerExternalInterfaceExec_guestsOnly (sys : CommandSys n) (cs : Containers n)
    (p : ExtifPacket) : GuestsOnly cs (containerExternalInterfaceExec sys cs p).1 := by
  simp only [containerExternalInterfaceExec, containerExternalInterfaceCommandGet]
  split_ifs
  all_goals first
    | exact containerExternalInterfaceCommandLifecycle_guestsOnly _ _ _ _
    | exact containerExternalInterfaceCommandChange_guestsOnly _ _
    | exact containerExternalInterfaceCommandTest_guestsOnly _ _ _
    | exact .refl cs

/-! ### The cyclic event -/

/-- The guest that the visit of a guest starts, and the state it is started in. -/
def visitStart (sys : VisitSys) (cs : Containers n) (i : Fin n) : Option (Fin n × Containers n) :=
  match (cs.containers i).runtimeStat.status with
  | .dead => some (i, cs)
  | .notStarted =>
    match containerGetActiveGuestByRole cs.roleList (cs.containers i).role with
    | none => none
    | some active => if i ≠ active then some (active, switched sys.disable cs i active) else none
  | _ => none

/-- A visit works on the guests only, or goes on with a start. -/
lemma execRunVisit_cases (sys : VisitSys) (cs : Containers n) (i : Fin n) :
    GuestsOnly cs (execRunVisit sys cs i) ∨
      ∃ j cs', visitStart sys cs i = some (j, cs') ∧ GuestsOnly cs cs' ∧
        execRunVisit sys cs i = startAndNotify sys cs' j := by
  have e := execRunVisit_effect sys cs i
  generalize execRunVisit sys cs i = s at e ⊢
  cases e with
  | skip => exact Or.inl (.refl cs)
  | start h => exact Or.inr ⟨i, cs, by simp [visitStart, h], .refl cs, rfl⟩
  | switch j h hj hij =>
    refine Or.inr ⟨j, _, by simp [visitStart, h, hj, hij], ?_, rfl⟩
    exact .trans (.setGuest (execDisableGuest_keeps _ _)) (.setGuest (enableGuest_keeps _))
  | worker => exact Or.inl (.setGuest (execRunWorkerGuest_keeps _ _))
  | finish => exact Or.inl (.setGuest (execFinishWorkerGuest_keeps _ _))

/-- After its first loop, the cyclic event in the run state works on the guests, then polls. -/
lemma execInternalEventRun_guestsOnly (sys : ExecSys n) (cs : Containers n) :
    ∃ cs', GuestsOnly (execRunVisits sys.visit cs) cs' ∧
      execInternalEventRun sys cs = (containerMngsmDoCyclicOperation sys.read cs').1 :=
  ⟨_, .trans (.forEachGuest _ fun _ cc => execRunTimeoutGuest_keeps _ _ cc)
    (.forEachGuest _ fun _ cc => containerDoDelayedOperation_keeps _ cc), rfl⟩

/-- The cyclic event in the shutdown state works on the guests, and once they are exited on the
manager operation. -/
lemma execInternalEventShutdown_guestsOnly (sys : ExecSys n) (cs : Containers n) :
    ∃ cs', GuestsOnly cs cs' ∧
      execInternalEventShutdown sys cs =
        if cs.AllExited then execTerminateOperation sys.dispatch sys.read cs' else cs' := by
  have hcheck : GuestsOnly cs (cs.forEachGuest fun i => execShutdownCheckGuest (sys.delete i)) :=
    .forEachGuest cs fun _ cc => execShutdownCheckGuest_keeps _ cc
  simp only [execInternalEventShutdown]
  split_ifs
  · exact ⟨_, hcheck, rfl⟩
  · exact ⟨_, hcheck.trans (.forEachGuest _ fun _ cc => execShutdownTimeoutGuest_keeps _ _ cc),
      rfl⟩

/-- Once the guests are exited, the event works on the manager operation and the log only. -/
lemma execTerminateOperation_outside (dispatch : DispatchSys) (read : ReadSys)
    (cs : Containers n) :
    (execTerminateOperation dispatch read cs).containers = cs.containers ∧
      (execTerminateOperation dispatch read cs).comm = cs.comm ∧
      (execTerminateOperation dispatch read cs).event = cs.event := by
  unfold execTerminateOperation containerMngsmExecDelayedOperation containerMngsmDoCyclicOperation
    containerMngsmExit
  dsimp only
  split_ifs <;> exact ⟨rfl, rfl, rfl⟩

/-! ### Steps -/

section Framed

variable {P : VisitSys → Containers n → Fin n → Prop} {I : Containers n → Prop}
  {cs cs' : Containers n}

/-- Every start that the visits of this cyclic event make meets the condition, in the state it is
made in. -/
def ExecStarts (P : VisitSys → Containers n → Fin n → Prop) (sys : ExecSys n)
    (cs : Containers n) : Prop :=
  cs.sysState = .run → Transition.Guarded (fun cs i => execRunVisit (sys.visit i) cs i)
    (fun cs i => ∀ j cs', visitStart (sys.visit i) cs i = some (j, cs') → P (sys.visit i) cs' j) cs
    (List.finRange n)

/-- Every start that this action makes meets the condition. -/
def StepStarts (P : VisitSys → Containers n → Fin n → Prop) (cs : Containers n)
    (a : Action n) : Prop :=
  ∀ sys cs', cyclicEvent cs a = some (sys, cs') → ExecStarts P sys cs'

/-- A property of the guests and the event loop that starts keep when they meet the condition. -/
structure Framed (P : VisitSys → Containers n → Fin n → Prop) (I : Containers n → Prop) :
    Prop where
  guestsOnly : ∀ cs cs', GuestsOnly cs cs' → I cs → I cs'
  others : ∀ cs cs' : Containers n, I cs → cs'.containers = cs.containers →
    cs'.event = cs.event → I cs'
  start : ∀ sys cs i, P sys cs i → I cs → I (startGuest sys cs i).1
  handler : ∀ sent source cs, I cs → I (containerMonitorPidfdHandler sent source cs)

namespace Framed

lemma send (hI : Framed P I) (h : I cs) (m : Message) (sent : Bool) : I (cs.send m sent) := by
  rw [send_frame]
  exact hI.others cs _ h rfl rfl

lemma exec (hI : Framed P I) (h : I cs) {sys : ExecSys n} (hs : ExecStarts P sys cs) :
    I (containerExecInternalEvent sys cs) := by
  simp only [containerExecInternalEvent]
  split
  · rename_i hrun
    obtain ⟨cs', hg, e⟩ := execInternalEventRun_guestsOnly sys cs
    have hvisits : I (execRunVisits sys.visit cs) := by
      refine Transition.run_invariant_of_guarded (fun s i hv h => ?_) h (hs hrun)
      rcases execRunVisit_cases (sys.visit i) s i with hg | ⟨j, s', hst, hg, e⟩
      · exact hI.guestsOnly _ _ hg h
      · obtain ⟨comm, e'⟩ := startAndNotify_frame (sys.visit i) s' j
        rw [e, e']
        exact hI.others (startGuest (sys.visit i) s' j).1 _
          (hI.start _ _ _ (hv j s' hst) (hI.guestsOnly _ _ hg h)) rfl rfl
    rw [e]
    exact hI.others _ _ (hI.guestsOnly _ _ hg hvisits) rfl rfl
  · obtain ⟨cs', hg, e⟩ := execInternalEventShutdown_guestsOnly sys cs
    rw [e]
    split_ifs
    · obtain ⟨hc, -, he⟩ := execTerminateOperation_outside sys.dispatch sys.read cs'
      exact hI.others _ _ (hI.guestsOnly _ _ hg h) hc he
    · exact hI.guestsOnly _ _ hg h

lemma step (hI : Framed P I) (h : I cs) {a : Action n} (hs : StepStarts P cs a) :
    I (step cs a) := by
  cases a with
  | message m sys =>
    exact hI.exec (hI.guestsOnly _ _ (handleMessage_guestsOnly sys cs m) h) (hs _ _ rfl)
  | receive sys =>
    simp only [ContainerManager.step, containerMngsmCommsocketHandler]
    cases hc : cs.comm with
    | nil => exact h
    | cons m rest =>
      have hrest : I { cs with comm := rest } := hI.others _ _ h rfl rfl
      refine hI.exec (hI.guestsOnly _ _ (handleMessage_guestsOnly sys _ m) hrest) (hs _ _ ?_)
      simp [cyclicEvent, hc]
  | timer sent => exact hI.send h _ sent
  | sigterm sent => exact hI.send h _ sent
  | netlink m sent =>
    have hl : I { cs with nllist := (dataCb m cs.nllist).1 } := hI.others _ _ h rfl rfl
    exact hI.send hl _ _
  | pidfd id sent =>
    simp only [ContainerManager.step]
    split
    · exact h
    · exact hI.handler sent _ cs h
  | command p sys =>
    exact hI.guestsOnly _ _ (containerExternalInterfaceExec_guestsOnly sys cs p) h
  | guestWorker i exec => exact hI.guestsOnly _ _ (.setGuest (guestWorkerDone_keeps _ _)) h
  | managerWorker k =>
    simp only [ContainerManager.step, managerWorker]
    split <;> exact hI.others _ _ h rfl rfl

/-- The guests are started in the state they are set up in. -/
lemma booted (hI : Framed P I) {cs₀ : Containers n} (h₀ : Initial cs₀)
    (hP : ∀ sys (s : Containers n) i, s.containers i = enableGuest (cs₀.containers i) → P sys s i)
    (h : I cs₀) {sys : ℕ → VisitSys} {notify : Bool} (hb : Booted sys notify cs₀ cs) : I cs := by
  have hroles : BootInvariant False cs₀ [] (cs₀.roleList.zipIdx.foldl
      (fun s c => (containerStartByRole (sys c.2) s c.1.name).1) cs₀) ∧
      I (cs₀.roleList.zipIdx.foldl
        (fun s c => (containerStartByRole (sys c.2) s c.1.name).1) cs₀) := by
    refine Loop.foldl_invariant_rest (I := fun rest s => BootInvariant False cs₀ rest s ∧ I s)
      (fun s c rest ⟨hboot, h⟩ =>
        ⟨hboot.startByRole (fun i => (h₀.guests i).status) sys False.elim, ?_⟩)
      ⟨h₀.bootInvariant, h⟩
    simp only [containerStartByRole]
    split
    · exact h
    · rename_i j hj
      have hrole : (cs₀.containers j).role = c.1.name := by
        have e : (s.containers j).role = (cs₀.containers j).role :=
          congrFun hboot.moves.role_eq j
        rw [← e]
        exact hboot.roles.roles.role_active hj
      refine hI.start _ _ _ (hP _ _ _ ?_) (hI.guestsOnly _ _ (.setGuest (enableGuest_keeps _)) h)
      rw [setGuest_self, hboot.untouched c List.mem_cons_self j hrole]
  have hstart : I (containerMngsmStart sys notify cs₀) := hI.send hroles.2 _ _
  cases hb with
  | started => exact hstart
  | launched dispatch =>
    simp only [containerMngsmExecDelayedOperation]
    split_ifs <;> exact hI.others _ _ hstart rfl rfl

end Framed

end Framed

end ContainerManager

import ContainerManager.Refinement.Frame

/-!
# The steps of a guest

Every event takes each guest through finitely many calls of the functions that work on one guest.
What all of these keep, every reachable state has. Where the creation of a worker's thread may only
give certain results, the runs are those whose creations give them.
-/

namespace ContainerManager

open Containers

variable {n : ℕ}

/-! ### The creation of threads -/

/-- The visit of this guest runs its worker. -/
def VisitRunsWorker (cs : Containers n) (i : Fin n) : Prop :=
  (cs.containers i).runtimeStat.status = .notStarted ∧ cs.Active i ∧
    (cs.containers i).workqueue.status = .scheduled

/-- Every thread that the visits of this cyclic event create for a worker meets the condition. -/
def ExecCreates (P : ℤ → Prop) (sys : ExecSys n) (cs : Containers n) : Prop :=
  cs.sysState = .run → Transition.Guarded (fun cs i => execRunVisit (sys.visit i) cs i)
    (fun cs i => VisitRunsWorker cs i → P (sys.visit i).worker.pthreadCreate) cs (List.finRange n)

/-- Every thread that this action creates for a worker meets the condition. -/
def StepCreates (P : ℤ → Prop) (cs : Containers n) (a : Action n) : Prop :=
  ∀ sys cs', cyclicEvent cs a = some (sys, cs') → ExecCreates P sys cs'

/-! ### One guest -/

variable {P : ℤ → Prop}

/-- One call of a function of the manager that works on one guest; a thread it creates for a worker
meets the condition. -/
inductive GuestStep (P : ℤ → Prop) : ContainerConfig → ContainerConfig → Prop where
  | start (sys : StartSys) (cc : ContainerConfig) : GuestStep P cc (containerStart sys cc).1
  | monitor (source : Option ℕ) (cc : ContainerConfig) :
      GuestStep P cc { cc with runtimeStat := { cc.runtimeStat with pidfdSource := source } }
  | runWorker (sys : RunWorkerSys) (cc : ContainerConfig)
      (h : cc.workqueue.status = .scheduled → P sys.pthreadCreate)
      (hn : cc.runtimeStat.status = .notStarted) : GuestStep P cc (execRunWorkerGuest sys cc)
  | finishWorker (delete : ℤ) (cc : ContainerConfig) :
      GuestStep P cc (execFinishWorkerGuest delete cc)
  | workerDone (exec : ℤ) (cc : ContainerConfig) : GuestStep P cc (guestWorkerDone exec cc)
  | disable (sys : CleanupSys) (cc : ContainerConfig) : GuestStep P cc (execDisableGuest sys cc)
  | enable (cc : ContainerConfig) : GuestStep P cc (enableGuest cc)
  | exited (s : SystemState) (cc : ContainerConfig) : GuestStep P cc (containerExitedGuest s cc).1
  | netif (attach : ℕ → ℕ → Bool) (nllist : List NetworkInterfaceInfo) (cc : ContainerConfig) :
      GuestStep P cc (containerNetifUpdateGuest attach nllist cc).1
  | delayed (sys : DelayedSys) (cc : ContainerConfig) :
      GuestStep P cc (containerDoDelayedOperation sys cc).1
  | shutdownRequest (sys : RequestSys) (s : SystemState) (cc : ContainerConfig) :
      GuestStep P cc (containerRequestShutdown sys cc s).1
  | rebootRequest (sys : RequestSys) (s : SystemState) (cc : ContainerConfig) :
      GuestStep P cc (containerRequestReboot sys cc s).1
  | forcekill (initPid : ℤ) (cc : ContainerConfig) :
      GuestStep P cc (lxcutilContainerForcekill initPid cc)
  | runTimeout (initPid now : ℤ) (cc : ContainerConfig) :
      GuestStep P cc (execRunTimeoutGuest initPid now cc)
  | shutdownTimeout (initPid now : ℤ) (cc : ContainerConfig) :
      GuestStep P cc (execShutdownTimeoutGuest initPid now cc)
  | shutdownCheck (delete : ℤ) (cc : ContainerConfig) :
      GuestStep P cc (execShutdownCheckGuest delete cc)
  | schedule (sys : PluginSys) (key : String) (cc : ContainerConfig) :
      GuestStep P cc (testScheduleGuest sys key cc).1

/-! ### All guests -/

/-- Every guest has come here by calls for this guest. -/
def Containers.Steps (P : ℤ → Prop) (cs cs' : Containers n) : Prop :=
  ∀ i, Relation.ReflTransGen (GuestStep P) (cs.containers i) (cs'.containers i)

namespace Containers.Steps

variable {cs cs' cs'' : Containers n}

lemma refl (cs : Containers n) : Steps P cs cs := fun _ => .refl

lemma trans (h : Steps P cs cs') (h' : Steps P cs' cs'') : Steps P cs cs'' :=
  fun i => (h i).trans (h' i)

lemma of_containers (h : Steps P cs cs') (hc : cs''.containers = cs'.containers) :
    Steps P cs cs'' := by
  intro i
  rw [hc]
  exact h i

lemma setGuest (h : Steps P cs cs') {i : Fin n} {cc : ContainerConfig}
    (hg : GuestStep P (cs'.containers i) cc) : Steps P cs (cs'.setGuest i cc) := by
  intro j
  by_cases hj : j = i
  · subst hj
    rw [setGuest_self]
    exact (h j).tail hg
  · rw [setGuest_of_ne cs' hj]
    exact h j

lemma forEachGuest (h : Steps P cs cs') {f : Fin n → ContainerConfig → ContainerConfig}
    (hf : ∀ i cc, GuestStep P cc (f i cc)) : Steps P cs (cs'.forEachGuest f) := by
  intro i
  rw [forEachGuest_containers]
  exact (h i).tail (hf i _)

/-! ### The cyclic event -/

lemma startGuest (h : Steps P cs cs') (sys : VisitSys) (i : Fin n) :
    Steps P cs (startGuest sys cs' i).1 := by
  have hcall : Steps P cs (cs'.callStart sys.start i).1 := h.setGuest (.start _ _)
  simp only [ContainerManager.startGuest]
  split_ifs
  · obtain ⟨source, event, e⟩ :=
      containerMonitorAddguest_frame sys.monitor (cs'.callStart sys.start i).1 i
    rw [e]
    exact of_containers (hcall.setGuest (.monitor source _)) rfl
  · exact hcall

lemma startAndNotify (h : Steps P cs cs') (sys : VisitSys) (i : Fin n) :
    Steps P cs (startAndNotify sys cs' i) := by
  obtain ⟨comm, e⟩ := startAndNotify_frame sys cs' i
  rw [e]
  exact of_containers (h.startGuest sys i) rfl

lemma visit (h : Steps P cs cs') {sys : VisitSys} {i : Fin n}
    (hp : VisitRunsWorker cs' i → P sys.worker.pthreadCreate) :
    Steps P cs (execRunVisit sys cs' i) := by
  have e := execRunVisit_effect sys cs' i
  generalize execRunVisit sys cs' i = s at e ⊢
  cases e with
  | skip => exact h
  | start => exact h.startAndNotify _ _
  | switch j =>
    have hoff := h.setGuest (i := i) (.disable sys.disable _)
    exact (hoff.setGuest (i := j) (.enable _)).startAndNotify _ _
  | worker hn ha => exact h.setGuest (.runWorker _ _ (fun hs => hp ⟨hn, ha, hs⟩) hn)
  | finish => exact h.setGuest (.finishWorker _ _)

lemma exec (h : Steps P cs cs') {sys : ExecSys n} (hp : ExecCreates P sys cs') :
    Steps P cs (containerExecInternalEvent sys cs') := by
  simp only [containerExecInternalEvent]
  split
  · rename_i hrun
    have hvisits : Steps P cs (execRunVisits sys.visit cs') :=
      Transition.run_invariant_of_guarded (fun s i hv hs => hs.visit hv) h (hp hrun)
    have htimeouts := hvisits.forEachGuest fun i cc => .runTimeout (sys.initPid i) sys.now cc
    exact of_containers (htimeouts.forEachGuest fun i cc => .delayed (sys.delayed i) cc) rfl
  · have hcheck := h.forEachGuest fun i cc => .shutdownCheck (sys.delete i) cc
    simp only [execInternalEventShutdown]
    split_ifs
    · exact hcheck.of_containers (execTerminateOperation_outside _ _ _).1
    · exact hcheck.forEachGuest fun i cc => .shutdownTimeout (sys.initPid i) sys.now cc

/-! ### Messages and commands -/

lemma message (h : Steps P cs cs') (sys : MessageSys n) (m : Message) :
    Steps P cs (handleMessage sys cs' m) := by
  cases m with
  | netifUpdated => exact h.forEachGuest fun i cc => .netif _ _ cc
  | guestExit k incarnation =>
    simp only [handleMessage, containerExited]
    split_ifs
    · exact h.setGuest (.exited _ _)
    · exact h
  | systemShutdown =>
    have hstate : Steps P cs { cs' with sysState := .shutdown } := h.of_containers rfl
    exact hstate.forEachGuest fun i cc => .shutdownRequest _ _ cc
  | timerTick => exact h
  | other command => exact h

lemma lifecycle (h : Steps P cs cs') {act : Fin n → ContainerConfig → ContainerConfig × ℤ}
    (name : String) (role : Bool) (hact : ∀ i cc, GuestStep P cc (act i cc).1) :
    Steps P cs (lifecycleGuests act name role cs').1 := by
  refine Loop.forEach_invariant (I := fun s : Containers n × ℤ => Steps P cs s.1)
    (fun s i hs => ?_) h
  dsimp only
  split_ifs
  · exact hs.setGuest (hact i _)
  · exact hs.setGuest (hact i _)
  · exact hs

lemma commandLifecycle (h : Steps P cs cs') (sys : CommandSys n) (p : ExtifPacket) (role : Bool) :
    Steps P cs (containerExternalInterfaceCommandLifecycle sys cs' p role).1 := by
  have hkill : Steps P cs (containerExternalInterfaceForceRebootGuest sys p.guestName role cs').1 :=
    h.lifecycle _ _ fun i cc => .forcekill _ cc
  have hreboot : Steps P cs (containerExternalInterfaceRebootGuest sys p.guestName role cs').1 :=
    h.lifecycle _ _ fun i cc => .rebootRequest _ _ cc
  have hshut : Steps P cs (containerExternalInterfaceShutdownGuest sys p.guestName role cs').1 :=
    h.lifecycle _ _ fun i cc => .shutdownRequest _ _ cc
  have hcommand : Steps P cs (lifecycleCommand sys cs' p role).1 := by
    rw [lifecycleCommand]
    split_ifs
    · exact hkill
    · exact hreboot
    · exact hshut
    · exact h
  simp only [containerExternalInterfaceCommandLifecycle]
  split_ifs
  · exact hcommand
  · exact hcommand
  · exact hcommand
  · exact h

lemma commandTest (h : Steps P cs cs') (sys : CommandSys n) (p : ExtifPacket) :
    Steps P cs (containerExternalInterfaceCommandTest sys cs' p).1 := by
  have htest : ∀ key, Steps P cs (testSchedule sys cs' key).1 := by
    intro key
    simp only [testSchedule]
    split
    · exact h
    · exact h.setGuest (.schedule _ _ _)
  simp only [containerExternalInterfaceCommandTest]
  split_ifs <;> first | exact htest _ | exact h | skip
  all_goals
    split
    · exact h
    · split_ifs <;> exact h

lemma command (h : Steps P cs cs') (sys : CommandSys n) (p : ExtifPacket) :
    Steps P cs (containerExternalInterfaceExec sys cs' p).1 := by
  have hchange : Steps P cs (containerExternalInterfaceCommandChange cs' p).1 := by
    simp only [containerExternalInterfaceCommandChange]
    split_ifs
    · split <;> exact h.of_containers rfl
    · exact h
  simp only [containerExternalInterfaceExec, containerExternalInterfaceCommandGet]
  split_ifs
  all_goals first
    | exact h.commandLifecycle _ _ _
    | exact h.commandTest _ _
    | exact hchange
    | exact h

/-! ### Runs -/

lemma handler (h : Steps P cs cs') (sent : Bool) (source : PidfdSource n) :
    Steps P cs (containerMonitorPidfdHandler sent source cs') := by
  refine Loop.forEach_invariant (fun s i hs => ?_) h
  dsimp only
  split_ifs
  · have hsend : Steps P cs (s.send (.guestExit i source.incarnation) true) :=
      hs.of_containers (send_containers _ _ _)
    exact of_containers (hsend.setGuest (i := i) (.monitor none _)) (by simp)
  · exact hs
  · exact hs

lemma step (h : Steps P cs cs') {a : Action n} (hp : StepCreates P cs' a) :
    Steps P cs (step cs' a) := by
  cases a with
  | message m sys => exact (h.message sys m).exec (hp _ _ rfl)
  | receive sys =>
    simp only [ContainerManager.step, containerMngsmCommsocketHandler]
    cases hc : cs'.comm with
    | nil => exact h
    | cons m rest =>
      have hrest : Steps P cs { cs' with comm := rest } := h.of_containers rfl
      exact (hrest.message sys m).exec (hp _ _ (by simp [cyclicEvent, hc]))
  | timer sent => exact h.of_containers (send_containers _ _ _)
  | sigterm sent => exact h.of_containers (send_containers _ _ _)
  | netlink m sent => exact h.of_containers (send_containers _ _ _)
  | pidfd id sent =>
    simp only [ContainerManager.step]
    split
    · exact h
    · exact h.handler sent _
  | command p sys => exact h.command sys p
  | guestWorker i exec => exact h.setGuest (.workerDone _ _)
  | managerWorker k =>
    simp only [ContainerManager.step, managerWorker]
    split <;> exact h.of_containers rfl

lemma booted {cs₀ : Containers n} {sys : ℕ → VisitSys} {notify : Bool}
    (hb : Booted sys notify cs₀ cs) : Steps P cs₀ cs := by
  have hroles : Steps P cs₀ (cs₀.roleList.zipIdx.foldl
      (fun s c => (containerStartByRole (sys c.2) s c.1.name).1) cs₀) := by
    refine Loop.foldl_invariant (fun s c hs => ?_) (refl cs₀) _
    simp only [containerStartByRole]
    split
    · exact hs
    · rename_i j hj
      exact (hs.setGuest (i := j) (.enable _)).startGuest _ j
  have hstart : Steps P cs₀ (containerMngsmStart sys notify cs₀) :=
    hroles.of_containers (send_containers _ _ _)
  cases hb with
  | started => exact hstart
  | launched dispatch =>
    simp only [containerMngsmExecDelayedOperation]
    split_ifs <;> exact hstart.of_containers rfl

/-- In every state of a run whose created threads meet the condition, every guest has come from its
configuration by such calls. -/
theorem run {cs₀ : Containers n} {sys : ℕ → VisitSys} {notify : Bool}
    (hb : Booted sys notify cs₀ cs) {as : List (Action n)}
    (hp : Transition.Guarded ContainerManager.step (StepCreates P) cs as) :
    Steps P cs₀ (Transition.run ContainerManager.step cs as) :=
  Transition.run_invariant_of_guarded (fun _ _ hp hs => hs.step hp) (booted hb) hp

end Containers.Steps

lemma stepCreates_true (cs : Containers n) (a : Action n) : StepCreates (fun _ => True) cs a :=
  fun _ _ _ _ => Transition.guarded_of_forall (fun _ _ _ => trivial) _ _

/-- In a reachable state every guest has come from its configuration by calls for this guest. -/
theorem ReachableFrom.steps {cs₀ cs : Containers n} (h : ReachableFrom cs₀ cs) :
    cs₀.Steps (fun _ => True) cs :=
  Transition.Reachable.invariant (fun _ ⟨_, _, hb⟩ => .booted hb)
    (fun s a hs => hs.step (stepCreates_true s a)) h

end ContainerManager

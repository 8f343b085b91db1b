import ContainerManager.Properties.Consistency
import ContainerManager.Properties.Shutdown

/-!
# Shutdown requests to a guest

A guest that was asked to shut down is not started again until a role switch disabled and enabled
it, when no reboot was in progress at the request and no worker restarts it: neither one that was
queued at the request nor one that the test command queues later.
-/

namespace ContainerManager

open Containers

variable {n : ℕ} {R : Prop} {v w : GuestView}

/-! ### Histories -/

/-- A shutdown request in the run state was accepted while no reboot and no worker was pending, and
since then no role switch disabled the guest and no test command queued a worker. The history has
its newest event first. -/
def shutdownKept : List GuestEvent → Bool
  | [] => false
  | .shutdownRequest .run status worker ret :: history =>
    (ret = 0 ∧ status ≠ .disable ∧ status ≠ .reboot ∧ worker ≠ .scheduled ∧ worker ≠ .started ∧
      worker ≠ .completed) || shutdownKept history
  | .disabled :: _ => false
  | .scheduled :: _ => false
  | _ :: history => shutdownKept history

/-- A role switch disabled the guest, and nothing enabled it since. -/
def switchedOff : List GuestEvent → Bool
  | [] => false
  | .disabled :: _ => true
  | .enabled :: _ => false
  | _ :: history => switchedOff history

/-- Every start came while no shutdown was kept and the guest was not switched off. -/
def StartsAllowed : List GuestEvent → Prop
  | [] => True
  | .start _ _ :: history =>
    (shutdownKept history = false ∧ switchedOff history = false) ∧ StartsAllowed history
  | _ :: history => StartsAllowed history

lemma StartsAllowed.of_append {newer history : List GuestEvent}
    (h : StartsAllowed (newer ++ history)) : StartsAllowed history := by
  induction newer with
  | nil => exact h
  | cons e newer ih =>
    cases e with
    | start status ret => exact ih h.2
    | _ => exact ih h

/-- A kept shutdown is only lost by a switch or by a queued worker. -/
lemma disabled_mem_of_not_kept {mid : List GuestEvent} {status : ContainerStatus}
    {worker : WorkerStatus} {older : List GuestEvent} (hd : status ≠ .disable)
    (hr : status ≠ .reboot) (hw : ¬ worker.Pending) (hs : GuestEvent.scheduled ∉ mid)
    (h : shutdownKept (mid ++ .shutdownRequest .run status worker 0 :: older) = false) :
    GuestEvent.disabled ∈ mid := by
  induction mid with
  | nil =>
    simp only [WorkerStatus.Pending] at hw
    simp_all [shutdownKept]
  | cons e mid ih =>
    rw [List.mem_cons, not_or] at hs
    rw [List.mem_cons]
    cases e with
    | disabled => exact Or.inl rfl
    | scheduled => exact absurd rfl hs.1
    | shutdownRequest s st wq ret =>
      right
      cases s with
      | run =>
        rw [List.cons_append, shutdownKept, Bool.or_eq_false_iff] at h
        exact ih hs.2 h.2
      | shutdown => exact ih hs.2 h
    | _ => exact Or.inr (ih hs.2 h)

/-- A guest that was switched off and is not any more was enabled since. -/
lemma enabled_mem_of_not_off {later earlier : List GuestEvent}
    (h : switchedOff (later ++ .disabled :: earlier) = false) : GuestEvent.enabled ∈ later := by
  induction later with
  | nil => simp [switchedOff] at h
  | cons e later ih =>
    rw [List.mem_cons]
    cases e with
    | enabled => exact Or.inl rfl
    | disabled => simp [switchedOff] at h
    | _ => exact Or.inr (ih h)

/-! ### The guest's machine -/

/-- What a kept shutdown means for a guest, and that no start broke one. -/
structure GuestView.HonoursShutdown (v : GuestView) : Prop where
  consistent : v.Consistent
  not_exit : v.sys = .run → v.status ≠ .exit
  kept : v.sys = .run → shutdownKept v.history = true →
    (v.status = .notStarted ∨ v.status = .shutdown) ∧ ¬ v.worker.Pending ∧
      v.history.head? ≠ some .enabled
  off : switchedOff v.history = true → v.status = .disable
  starts : StartsAllowed v.history

namespace GuestView

/-- A start is allowed: the guest is dead, or was enabled just before. -/
lemma HonoursShutdown.start_allowed (h : v.HonoursShutdown) (hst : v.Startable) :
    shutdownKept v.history = false ∧ switchedOff v.history = false := by
  constructor
  · by_contra hk
    obtain ⟨hs, -, hh⟩ := h.kept hst.1 (by simpa using hk)
    rcases hst.2 with e | ⟨-, e⟩
    · rcases hs with hs | hs <;> simp [e] at hs
    · exact hh e
  · by_contra hk
    have hd := h.off (by simpa using hk)
    rcases hst.2 with e | ⟨e, -⟩ <;> simp [e] at hd

/-- After a start nothing is kept. -/
lemma HonoursShutdown.of_start (h : v.HonoursShutdown) (hst : v.Startable) (hc : w.Consistent)
    (hx : w.sys = .run → w.status ≠ .exit) {ret : ℤ}
    (hh : w.history = .start v.status ret :: v.history) : w.HonoursShutdown := by
  obtain ⟨hk, ho⟩ := h.start_allowed hst
  refine ⟨hc, hx, ?_, ?_, ?_⟩
  · intro _ hk'
    rw [hh] at hk'
    simp [shutdownKept, hk] at hk'
  · intro ho'
    rw [hh] at ho'
    simp [switchedOff, ho] at ho'
  · rw [hh]
    exact ⟨⟨hk, ho⟩, h.starts⟩

/-- The history is kept but for a stop or a kill. -/
def KeepsHistory (v w : GuestView) : Prop :=
  w.history = v.history ∨
    ∃ now, w.history = .stop now :: v.history ∨ w.history = .forcekill now :: v.history

/-- A move that neither starts nor switches the guest and makes nothing pending. -/
lemma HonoursShutdown.of_history (h : v.HonoursShutdown) (hc : w.Consistent)
    (hx : w.sys = .run → w.status ≠ .exit) (hs : w.sys = .run → v.sys = .run)
    (hh : KeepsHistory v w) (hd : w.status = .disable ↔ v.status = .disable)
    (hk : w.sys = .run → v.status = .notStarted ∨ v.status = .shutdown → ¬ v.worker.Pending →
      (w.status = .notStarted ∨ w.status = .shutdown) ∧ ¬ w.worker.Pending) :
    w.HonoursShutdown := by
  have hkept : shutdownKept w.history = shutdownKept v.history ∧
      switchedOff w.history = switchedOff v.history ∧
      (StartsAllowed w.history ↔ StartsAllowed v.history) ∧
      (w.history.head? = some .enabled → v.history.head? = some .enabled) := by
    rcases hh with e | ⟨now, e | e⟩ <;> rw [e] <;> simp [shutdownKept, switchedOff, StartsAllowed]
  obtain ⟨hkept, hoff, hstarts, hhead⟩ := hkept
  refine ⟨hc, hx, ?_, ?_, hstarts.mpr h.starts⟩
  · intro hr hk'
    obtain ⟨h1, h2, h3⟩ := h.kept (hs hr) (hkept ▸ hk')
    obtain ⟨h4, h5⟩ := hk hr h1 h2
    exact ⟨h4, h5, fun e => h3 (hhead e)⟩
  · intro ho
    exact hd.mpr (h.off (hoff ▸ ho))

lemma HonoursShutdown.request {kind : RequestKind} {s : SystemState} (h : v.HonoursShutdown)
    (hs : s = v.sys ∨ s = .shutdown) (he : RequestEffect kind s v w) : w.HonoursShutdown := by
  have hc := h.consistent.request hs he
  have hsys := he.sys
  have hd := he.status_disable
  have hrun : w.sys = .run → v.sys = .run := by
    intro hr
    rw [hsys] at hr
    simpa [hr, eq_comm] using hs
  have hx : w.sys = .run → w.status ≠ .exit := by
    intro hr
    obtain rfl : s = .run := hsys.symm.trans hr
    exact he.not_exit (h.not_exit (hrun hr))
  cases he with
  | idle hst =>
    refine h.of_history hc hx hrun (Or.inl rfl) hd fun hr hst' hw => ⟨?_, hw⟩
    obtain rfl : s = .run := hr
    rcases hst' with e | e <;> cases kind <;> simp [RequestKind.idleStatus, e]
  | failed hst =>
    exact h.of_history hc hx hrun (Or.inl rfl) hd fun _ hst' => by simp [hst] at hst'
  | accepted now hst hl =>
    exact h.of_history hc hx hrun (Or.inr ⟨now, Or.inl rfl⟩) hd
      fun _ hst' => by simp [hst] at hst'
  | worker now hst hs =>
    exact h.of_history hc hx hrun (Or.inl rfl) hd fun _ hst' => by simp [hst] at hst'

/-- A shutdown request that is kept leaves the guest not started or going down. -/
lemma HonoursShutdown.request_kept (h : v.HonoursShutdown) (hs : v.sys = .run)
    (he : RequestEffect .shutdown .run v w) (hd : v.status ≠ .disable) (hr : v.status ≠ .reboot)
    (hw : ¬ v.worker.Pending) :
    (w.status = .notStarted ∨ w.status = .shutdown) ∧ ¬ w.worker.Pending := by
  have hx := h.not_exit hs
  have hrw : v.status ≠ .runWorker := by
    intro e
    rcases (h.consistent.runWorker hs).mp e with e | e <;> simp [e, WorkerStatus.Pending] at hw
  cases he with
  | idle hst => cases hv : v.status <;> simp_all [RequestKind.idleStatus]
  | failed hst => exact ⟨Or.inl rfl, hw⟩
  | accepted now hst hl => exact ⟨Or.inr rfl, hw⟩
  | worker now hst hs => exact absurd hst hrw

end GuestView

open GuestView

lemma LifeStep.honoursShutdown (hm : LifeStep R v w) (h : v.HonoursShutdown) :
    w.HonoursShutdown := by
  have hc := hm.consistent h.consistent
  have hx := hm.keeps_not_exit h.not_exit
  cases hm with
  | disable hs hst base hb hu =>
    exact ⟨hc, hx, fun _ hk => by simp [disabled, shutdownKept] at hk, fun _ => rfl, h.starts⟩
  | enable hs hst =>
    refine ⟨hc, hx, ?_, fun ho => by simp [enabled, switchedOff] at ho, h.starts⟩
    intro _ hk
    obtain ⟨hidle, -⟩ := h.kept hs hk
    simp [hst] at hidle
  | move hm =>
    have hd := hm.status_disable
    cases hm with
    | idle => exact h
    | mountFailed hst => exact h.of_start hst hc hx rfl
    | launchFailed hst => exact h.of_start hst hc hx rfl
    | launched hst => exact h.of_start hst hc hx rfl
    | cleaned hs hst hw base hb hu =>
      exact h.of_history hc hx id (Or.inl rfl) hd fun _ hst' hw' => ⟨hst', hw'⟩
    | workerStarted hs hst hw base hb hu thread =>
      exact h.of_history hc hx id (Or.inl rfl) hd fun _ _ hw' => absurd (Or.inl hw) hw'
    | workerRemoved hs hst hw base hb hu =>
      exact h.of_history hc hx id (Or.inl rfl) hd fun _ _ hw' => absurd (Or.inl hw) hw'
    | workerCompleted ht =>
      have hw := h.consistent.thread ht
      exact h.of_history hc hx id (Or.inl rfl) hd fun _ _ hw' => absurd (Or.inr (Or.inl hw)) hw'
    | workerFinished hs hst hw =>
      exact h.of_history hc hx id (Or.inl rfl) hd
        fun _ _ hw' => absurd (Or.inr (Or.inr hw)) hw'
    | workerExited hs hst hw =>
      exact h.of_history hc hx id (Or.inl rfl) hd fun hr => by simp [hs] at hr
    | workerTimeout now hs hst ht =>
      exact h.of_history hc hx id (Or.inl rfl) hd fun hr => by simp [hs] at hr
    | killed now hs ho =>
      refine h.of_history hc hx id (Or.inr ⟨now, Or.inr rfl⟩) hd fun _ hst' hw' => ⟨Or.inl ?_, hw'⟩
      rcases hst' with e | e <;> simp [e]
    | killedAtShutdown now hs ho =>
      exact h.of_history hc hx id (Or.inr ⟨now, Or.inr rfl⟩) hd fun hr => by simp [hs] at hr
    | exited =>
      refine h.of_history hc hx id (Or.inl rfl) hd fun hr hst' hw' => ⟨Or.inl ?_, hw'⟩
      have hrun : v.sys = .run := hr
      rcases hst' with e | e <;> simp [hrun, e, exitedStatus]
    | requestShutdown s hs w he ret =>
      have hw := h.request hs he
      refine ⟨hc, hx, fun hr hk => ?_, fun ho => hw.off ho, hw.starts⟩
      obtain rfl : s = .run := he.sys.symm.trans hr
      have hrun : v.sys = .run := by simpa [eq_comm] using hs
      suffices hidle : (w.status = .notStarted ∨ w.status = .shutdown) ∧ ¬ w.worker.Pending from
        ⟨hidle.1, hidle.2, by simp⟩
      rw [shutdownKept, Bool.or_eq_true] at hk
      rcases hk with hk | hk
      · obtain ⟨-, hdis, hreb, hsch, hsta, hcom⟩ := of_decide_eq_true hk
        apply h.request_kept hrun he hdis hreb
        rintro (e | e | e)
        · exact hsch e
        · exact hsta e
        · exact hcom e
      · obtain ⟨h1, h2, -⟩ := hw.kept hr hk
        exact ⟨h1, h2⟩
    | requestReboot w he => exact h.request (Or.inl rfl) he
    | scheduled hw =>
      exact ⟨hc, hx, fun _ hk => by simp [shutdownKept] at hk, h.off, h.starts⟩

lemma Fresh.honoursShutdown {cc : ContainerConfig} (h : Fresh cc) :
    (cc.view .run).HonoursShutdown where
  consistent := h.consistent
  not_exit _ := by simp [h.status]
  kept _ hk := by simp [ContainerConfig.view, h.history, shutdownKept] at hk
  off ho := by simp [ContainerConfig.view, h.history, switchedOff] at ho
  starts := by
    have e : (cc.view .run).history = [] := h.history
    rw [e]
    trivial

/-! ### Role switches -/

/-- The command changes the active guest of a role. -/
def Action.ChangesActive : Action n → Prop
  | .command p _ => p.command = 0x3000
  | _ => False

/-- Every enabled guest is the active one of its role, and none was ever disabled. -/
structure Unswitched (cs : Containers n) : Prop where
  active : ∀ i, (cs.containers i).Enabled → cs.Active i
  never : ∀ i, GuestEvent.disabled ∉ (cs.containers i).history

lemma LifeMove.disabled_notMem (h : LifeMove R v w) (hv : GuestEvent.disabled ∉ v.history) :
    GuestEvent.disabled ∉ w.history := by
  cases h with
  | requestShutdown s hs w hw ret => cases hw <;> simpa using hv
  | requestReboot w hw => cases hw <;> simpa using hv
  | _ => simpa using hv

section Unswitched

variable {cs cs' : Containers n}

/-- Own moves of the guests keep it. -/
lemma Unswitched.own (h : Unswitched cs) (hm : cs.OwnMoves R cs')
    (hr : cs'.roleList = cs.roleList) :
    Unswitched cs' where
  active i hi := by
    have hrole : (cs'.containers i).role = (cs.containers i).role := congrFun hm.moves.role_eq i
    have hen : (cs.containers i).Enabled := by
      intro hd
      exact hi (hm.invariant (I := fun v => v.status = .disable)
        (fun _ _ hm hv => hm.status_disable.mpr hv) (i := i) hd)
    rw [Active, hr, hrole]
    exact h.active i hen
  never i :=
    hm.invariant (I := fun v => GuestEvent.disabled ∉ v.history)
      (fun _ _ hm hv => hm.disabled_notMem hv) (i := i) (h.never i)

/-- A pass has no guest to switch to. -/
lemma Unswitched.visit (h : Unswitched cs) (hs : cs.sysState = .run) {sys : VisitSys} {i : Fin n} :
    Unswitched (execRunVisit sys cs i) := by
  have e := execRunVisit_effect sys cs i
  obtain ⟨-, hr⟩ := e.frame
  refine h.own (R := False) ?_ hr
  generalize execRunVisit sys cs i = cs' at e ⊢
  cases e with
  | skip => exact .refl
  | start hd =>
    rw [Containers.OwnMoves, startAndNotify_views]
    exact startGuest_moves sys cs i ⟨hs, Or.inl hd⟩ False.elim
  | switch j hn hj hij =>
    have ha := h.active i (by simp [ContainerConfig.Enabled, hn])
    rw [Active, hj] at ha
    exact absurd (Option.some.inj ha).symm hij
  | worker hn ha => exact setGuest_moves (by simpa [hs] using execRunWorkerGuest_move _ _ hn)
  | finish hf => exact setGuest_moves (by simpa [hs] using execFinishWorkerGuest_move _ _ hf)

lemma Unswitched.exec (h : Unswitched cs) (sys : ExecSys n) :
    Unswitched (containerExecInternalEvent sys cs) := by
  simp only [containerExecInternalEvent]
  split
  · rename_i hs
    have hvisits : Unswitched (execRunVisits sys.visit cs) ∧
        (execRunVisits sys.visit cs).sysState = .run := by
      apply Loop.forEach_invariant (I := fun s : Containers n => Unswitched s ∧ s.sysState = .run)
      · rintro s i ⟨hset, hrun⟩
        have e := execRunVisit_effect (sys.visit i) s i
        exact ⟨hset.visit hrun, e.frame.1.trans hrun⟩
      · exact ⟨h, hs⟩
    exact hvisits.1.own (R := False) (execInternalEventRun_rest sys hvisits.2)
      (execInternalEventRun_roleList sys cs)
  · rename_i hs
    have hf := execInternalEventShutdown_startFree sys hs
    refine h.own (hf.moves False) ?_
    simp only [execInternalEventShutdown]
    split_ifs
    · rw [execTerminateOperation_roleList, forEachGuest_roleList]
    · rw [forEachGuest_roleList, forEachGuest_roleList]

lemma handleMessage_roleList (sys : MessageSys n) (cs : Containers n) (m : Message) :
    (handleMessage sys cs m).roleList = cs.roleList := by
  cases m with
  | guestExit k incarnation =>
    simp only [handleMessage, containerExited]
    split_ifs <;> simp
  | _ => simp [handleMessage, containerNetifUpdated, containerManagerShutdown]

lemma lifecycleGuests_roleList (act : Fin n → ContainerConfig → ContainerConfig × ℤ)
    (name : String) (role : Bool) (cs : Containers n) :
    (lifecycleGuests act name role cs).1.roleList = cs.roleList := by
  apply Loop.forEach_invariant (I := fun s : Containers n × ℤ => s.1.roleList = cs.roleList) _ rfl
  intro s i hs
  dsimp only
  split_ifs <;> simpa using hs

lemma containerExternalInterfaceExec_roleList (sys : CommandSys n) (cs : Containers n)
    {p : ExtifPacket} (hp : p.command ≠ 0x3000) :
    (containerExternalInterfaceExec sys cs p).1.roleList = cs.roleList := by
  have hlifecycle (role : Bool) :
      (containerExternalInterfaceCommandLifecycle sys cs p role).1.roleList = cs.roleList := by
    have hcommand : (lifecycleCommand sys cs p role).1.roleList = cs.roleList := by
      rw [lifecycleCommand, containerExternalInterfaceForceRebootGuest,
        containerExternalInterfaceRebootGuest, containerExternalInterfaceShutdownGuest]
      split_ifs <;> first | exact lifecycleGuests_roleList _ _ _ _ | rfl
    simp only [containerExternalInterfaceCommandLifecycle]
    split_ifs <;> first | exact hcommand | rfl
  have htest : (containerExternalInterfaceCommandTest sys cs p).1.roleList = cs.roleList := by
    have hschedule (key : String) : (testSchedule sys cs key).1.roleList = cs.roleList := by
      simp only [testSchedule]
      split <;> rfl
    simp only [containerExternalInterfaceCommandTest]
    split_ifs <;> first | exact hschedule _ | rfl | skip
    all_goals
      split
      · rfl
      · split_ifs <;> rfl
  simp only [containerExternalInterfaceExec, containerExternalInterfaceCommandGet]
  split_ifs <;> first | exact hlifecycle _ | exact htest | contradiction | rfl

/-- An event that is not such a command keeps it. -/
lemma Unswitched.step (h : Unswitched cs) {a : Action n} (ha : ¬ a.ChangesActive) :
    Unswitched (step cs a) := by
  -- the message of a cyclic event keeps the role lists, and so do the other events
  rcases step_cases cs a with ⟨sys, cs', hc, hf, e⟩ | ⟨hc, hf⟩
  · rw [e]
    refine (h.own (hf.moves False) ?_).exec sys
    cases a with
    | message m msys =>
      obtain ⟨-, rfl⟩ := Prod.mk.inj (Option.some.inj hc)
      exact handleMessage_roleList msys cs m
    | receive msys =>
      cases hcomm : cs.comm with
      | nil => simp [cyclicEvent, hcomm] at hc
      | cons m rest =>
        simp only [cyclicEvent, hcomm] at hc
        obtain ⟨-, rfl⟩ := Prod.mk.inj (Option.some.inj hc)
        exact handleMessage_roleList msys _ _
    | _ => simp [cyclicEvent] at hc
  · refine h.own (hf.moves False) ?_
    cases a with
    | message m msys => simp [cyclicEvent] at hc
    | receive msys =>
      simp only [cyclicEvent] at hc
      simp only [ContainerManager.step, containerMngsmCommsocketHandler]
      cases hcomm : cs.comm with
      | nil => rfl
      | cons m rest => simp [hcomm] at hc
    | command p csys => exact containerExternalInterfaceExec_roleList csys cs ha
    | pidfd id sent =>
      simp only [ContainerManager.step]
      split
      · rfl
      · rename_i source _
        apply Loop.forEach_invariant (I := fun s : Containers n => s.roleList = cs.roleList) _ rfl
        intro s i hs
        dsimp only
        split_ifs <;> simpa using hs
    | managerWorker k =>
      simp only [ContainerManager.step, managerWorker]
      split <;> rfl
    | _ => simp [ContainerManager.step]

/-- At the start of a role its active guest is enabled. -/
lemma Unswitched.startByRole {cs₀ : Containers n} {c : RoleConfig n × ℕ}
    {rest : List (RoleConfig n × ℕ)} (h : Unswitched cs)
    (hb : BootInvariant False cs₀ (c :: rest) cs) (sys : VisitSys) :
    Unswitched (containerStartByRole sys cs c.1.name).1 := by
  simp only [containerStartByRole]
  split
  · exact h
  · rename_i j hj
    have hrole : (cs.containers j).role = c.1.name := hb.roles.roles.role_active hj
    have hset : Unswitched (cs.setGuest j (enableGuest (cs.containers j))) := by
      constructor
      · intro i hi
        by_cases hij : i = j
        · subst hij
          rw [Active, setGuest_self, setGuest_roleList]
          show containerGetActiveGuestByRole cs.roleList (cs.containers i).role = some i
          rw [hrole]
          exact hj
        · rw [Active, setGuest_of_ne _ hij, setGuest_roleList]
          rw [setGuest_of_ne _ hij] at hi
          exact h.active i hi
      · intro i
        by_cases hij : i = j
        · subst hij
          rw [setGuest_self]
          simpa [enableGuest, ContainerConfig.setStatus, ContainerConfig.record] using h.never i
        · rw [setGuest_of_ne _ hij]
          exact h.never i
    have hst : ((cs.setGuest j (enableGuest (cs.containers j))).views j).Startable := by
      rw [views_apply, setGuest_self, setGuest_sysState, hb.sysState]
      exact enableGuest_startable _
    obtain ⟨containers, event, e⟩ :=
      startGuest_frame sys (cs.setGuest j (enableGuest (cs.containers j))) j
    refine hset.own (startGuest_moves (R := False) sys _ j hst False.elim) ?_
    rw [e]

lemma Booted.unswitched {cs₀ : Containers n} {sys : ℕ → VisitSys} {notify : Bool}
    (hb : Booted sys notify cs₀ cs) (h₀ : Initial cs₀) : Unswitched cs := by
  have hfresh : Unswitched cs₀ :=
    ⟨fun i hi => absurd (h₀.guests i).status hi, fun i => by simp [(h₀.guests i).history]⟩
  have hroles : BootInvariant False cs₀ [] (cs₀.roleList.zipIdx.foldl
      (fun s c => (containerStartByRole (sys c.2) s c.1.name).1) cs₀) ∧
      Unswitched (cs₀.roleList.zipIdx.foldl
        (fun s c => (containerStartByRole (sys c.2) s c.1.name).1) cs₀) :=
    Loop.foldl_invariant_rest (I := fun rest s => BootInvariant False cs₀ rest s ∧ Unswitched s)
      (fun s c rest hI => ⟨hI.1.startByRole (fun i => (h₀.guests i).status) sys False.elim,
        hI.2.startByRole hI.1 (sys c.2)⟩) ⟨h₀.bootInvariant, hfresh⟩
  have hstart : Unswitched (containerMngsmStart sys notify cs₀) :=
    hroles.2.own (R := False) (.of_views_eq (send_views _ _ _)) (send_roleList _ _ _)
  cases hb with
  | started => exact hstart
  | launched dispatch =>
    have hf := containerMngsmExecDelayedOperation_startFree dispatch
      (containerMngsmStart sys notify cs₀) 0
    refine hstart.own (hf.moves False) ?_
    simp only [containerMngsmExecDelayedOperation]
    split_ifs <;> rfl

/-- Only a command that changes the active guest of a role causes a switch: in a run without one no
guest is ever disabled. -/
theorem never_disabled {cs₀ : Containers n} {sys : ℕ → VisitSys} {notify : Bool}
    (hb : Booted sys notify cs₀ cs) (h₀ : Initial cs₀) {as : List (Action n)}
    (has : ∀ a ∈ as, ¬ a.ChangesActive) (i : Fin n) :
    GuestEvent.disabled ∉ ((Transition.run step cs as).containers i).history := by
  have hguard : Transition.Guarded step (fun _ a => ¬ a.ChangesActive) cs as :=
    Transition.guarded_of_mem has
  exact (Transition.run_invariant_of_guarded (fun _ _ ha hs => hs.step ha) (hb.unswitched h₀)
    hguard).never i

end Unswitched

/-! ### Runs -/

/-- After an accepted shutdown request in the run state, the guest is only started when a role
switch disabled it and one enabled it again. The history has its newest event first. -/
def ShutdownHonoured (history : List GuestEvent) (status : ContainerStatus) (worker : WorkerStatus)
    (mid older : List GuestEvent) : Prop :=
  ∀ newer st ret, history =
      newer ++ .start st ret :: (mid ++ .shutdownRequest .run status worker 0 :: older) →
    ∃ later earlier, mid = later ++ .disabled :: earlier ∧ GuestEvent.enabled ∈ later

theorem shutdown_honoured {cs : Containers n} (h : Reachable cs) (i : Fin n)
    {status : ContainerStatus} {worker : WorkerStatus} {mid older : List GuestEvent}
    (hd : status ≠ .disable) (hr : status ≠ .reboot)
    (hw : worker ≠ .scheduled ∧ worker ≠ .started ∧ worker ≠ .completed)
    (hs : GuestEvent.scheduled ∉ mid) :
    ShutdownHonoured (cs.containers i).history status worker mid older := by
  intro newer st ret hh
  have hst := (h.guest_invariant (fun _ => Fresh.honoursShutdown)
    (fun _ _ hm => hm.honoursShutdown) i).starts
  have hview : (cs.views i).history = (cs.containers i).history := rfl
  rw [hview, hh] at hst
  obtain ⟨⟨hkept, hoff⟩, -⟩ := hst.of_append
  have hpend : ¬ worker.Pending := by
    rintro (e | e | e)
    · exact hw.1 e
    · exact hw.2.1 e
    · exact hw.2.2 e
  have hmem := disabled_mem_of_not_kept hd hr hpend hs hkept
  obtain ⟨later, earlier, rfl, hlater⟩ := List.eq_append_cons_of_mem hmem
  rw [List.append_assoc, List.cons_append] at hoff
  exact ⟨later, earlier, rfl, enabled_mem_of_not_off hoff⟩

/-- A packet that asks the guest of this name to shut down (1) or to reboot (2). -/
def lifecyclePacket (subcommand : ℕ) (name : String) : ExtifPacket :=
  { size := 136, command := 0x2000, subcommand := subcommand, guestName := name }

/-- A packet that makes the guest of this name the active one of its role. -/
def changePacket (name : String) : ExtifPacket :=
  { size := 132, command := 0x3000, guestName := name }

/-- A guest is shut down, switched off by a change of the active guest, and switched on by
another. -/
def iviSwitched : Containers 2 :=
  Transition.run step iviBooted
    [.command (lifecyclePacket 1 "ivi-a") (commandOk 0), .message (.guestExit 0 1) (messageOk 0),
      .command (changePacket "ivi-b") (commandOk 0), .message .timerTick (messageOk 0),
      .command (lifecyclePacket 1 "ivi-b") (commandOk 0), .message (.guestExit 1 1) (messageOk 0),
      .command (changePacket "ivi-a") (commandOk 0), .message .timerTick (messageOk 0)]

/-- The shutdown of the first guest is honoured: it is started again after the switches only. -/
theorem shutdown_honoured_iviSwitched :
    ShutdownHonoured (iviSwitched.containers 0).history .started .inactive [.enabled, .disabled]
      [.stop 0, .start .notStarted 0, .enabled] :=
  shutdown_honoured (iviBooted_reachable.run _) 0 (by decide) (by decide) (by decide) (by decide)

/-- In every reachable state, every accepted shutdown request to an enabled guest is honoured. -/
def ShutdownsHonoured (cs : Containers n) : Prop :=
  ∀ i status worker mid older, status ≠ .disable →
    ShutdownHonoured (cs.containers i).history status worker mid older

/-- A guest is asked to shut down while it reboots. -/
def clusterRebooted : Containers 1 :=
  Transition.run step (containerMngsmStart (fun _ => visitOk) true (setupManager clusterGuest []))
    [.command (lifecyclePacket 2 "cluster") (commandOk 0),
      .command (lifecyclePacket 1 "cluster") (commandOk 0),
      .message (.guestExit 0 1) (messageOk 0)]

/-- It is started again when it exits. -/
theorem clusterRebooted_not_honoured :
    Reachable clusterRebooted ∧ ¬ ShutdownsHonoured clusterRebooted := by
  refine ⟨(setupManager_reachable clusterGuest_fresh ⟨by simp, by simp, rfl, rfl⟩ _ _).run _, ?_⟩
  intro h
  obtain ⟨later, earlier, hmid, -⟩ := h 0 .reboot .inactive []
    [.stop 0, .start .notStarted 0, .enabled] (by decide) [] .dead 0 (by decide)
  simp at hmid

end ContainerManager

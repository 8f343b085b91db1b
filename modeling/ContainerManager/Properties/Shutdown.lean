import ContainerManager.Refinement.Boot

/-!
# The shutdown phase

After the system shutdown every guest is going down, runs a worker, is exited or is disabled. An
exited or disabled guest stays so, and one cyclic event after all deadlines leaves no other guest.
-/

namespace ContainerManager

open Containers

variable {n : ℕ} {R : Prop} {v w : GuestView}

/-- The statuses of a guest in the shutdown phase. -/
def ContainerStatus.Closing (status : ContainerStatus) : Prop :=
  status = .shutdown ∨ status = .runWorker ∨ status = .exit ∨ status = .disable

/-! ### The guest's machine -/

/-- A request at the system shutdown brings every guest into the shutdown phase. -/
lemma RequestEffect.closing (h : RequestEffect .shutdown .shutdown v w) : w.status.Closing := by
  cases h with
  | idle h => cases hv : v.status <;> simp_all [RequestKind.idleStatus, ContainerStatus.Closing]
  | failed h => simp [RequestKind.failedStatus, ContainerStatus.Closing]
  | accepted now h hl => simp [RequestKind.acceptedStatus, ContainerStatus.Closing]
  | worker now h hs => simp [h, ContainerStatus.Closing]

/-- A later request leaves the guest in the shutdown phase as it is. -/
lemma RequestEffect.status_of_closing {kind : RequestKind}
    (h : RequestEffect kind .shutdown v w) (hc : v.status.Closing) : w.status = v.status := by
  cases h with
  | idle h =>
    rcases hc with hc | hc | hc | hc <;> cases kind <;> simp [hc, RequestKind.idleStatus]
  | failed h => simp [h, ContainerStatus.Closing] at hc
  | accepted now h hl => simp [h, ContainerStatus.Closing] at hc
  | worker now h hs => rfl

lemma RequestEffect.sys {kind : RequestKind} {s : SystemState} (h : RequestEffect kind s v w) :
    w.sys = s := by
  cases h <;> rfl

/-- In the shutdown phase a guest keeps its status or exits, and a disabled one stays disabled. -/
lemma LifeStep.closing (h : LifeStep R v w) (hs : v.sys = .shutdown) (hc : v.status.Closing) :
    w.sys = .shutdown ∧ (w.status = v.status ∨ v.status ≠ .disable ∧ w.status = .exit) := by
  cases h with
  | disable hr => simp [hs] at hr
  | enable hr => simp [hs] at hr
  | move h =>
    cases h with
    | idle => exact ⟨hs, Or.inl rfl⟩
    | workerCompleted ht => exact ⟨hs, Or.inl rfl⟩
    | workerExited _ h hw => exact ⟨hs, Or.inr ⟨by simp [h], rfl⟩⟩
    | workerTimeout now _ h ht => exact ⟨hs, Or.inr ⟨by simp [h], rfl⟩⟩
    | killedAtShutdown now _ h =>
      refine ⟨hs, Or.inr ⟨?_, rfl⟩⟩
      rcases h.1 with h | h <;> simp [h]
    | exited =>
      refine ⟨hs, ?_⟩
      rcases hc with hc | hc | hc | hc <;> simp [hs, hc, exitedStatus]
    | requestShutdown s hsys w h ret =>
      obtain rfl : s = .shutdown := by simpa [hs] using hsys
      exact ⟨h.sys, Or.inl (h.status_of_closing hc)⟩
    | requestReboot w h =>
      rw [hs] at h
      exact ⟨h.sys, Or.inl (h.status_of_closing hc)⟩
    | scheduled hw => exact ⟨hs, Or.inl rfl⟩
    | mountFailed h => exact absurd h.1 (by simp [hs])
    | launchFailed h => exact absurd h.1 (by simp [hs])
    | launched h => exact absurd h.1 (by simp [hs])
    | cleaned hr => simp [hs] at hr
    | workerStarted hr => simp [hs] at hr
    | workerRemoved hr => simp [hs] at hr
    | workerFinished hr => simp [hs] at hr
    | killed now hr => simp [hs] at hr

/-- A guest is in the shutdown phase. -/
def GuestView.Closing (v : GuestView) : Prop := v.sys = .shutdown ∧ v.status.Closing

lemma LifeStep.keeps_closing (h : LifeStep R v w) (hc : v.Closing) : w.Closing := by
  obtain ⟨hs, hst⟩ := h.closing hc.1 hc.2
  refine ⟨hs, ?_⟩
  rcases hst with e | ⟨-, e⟩
  · rw [e]
    exact hc.2
  · simp [e, ContainerStatus.Closing]

lemma LifeStep.keeps_exit (h : LifeStep R v w) (hc : v.sys = .shutdown ∧ v.status = .exit) :
    w.sys = .shutdown ∧ w.status = .exit := by
  obtain ⟨hs, hst⟩ := h.closing hc.1 (by simp [hc.2, ContainerStatus.Closing])
  refine ⟨hs, ?_⟩
  rcases hst with e | ⟨-, e⟩
  · rw [e, hc.2]
  · exact e

lemma LifeStep.keeps_disable (h : LifeStep R v w)
    (hc : v.sys = .shutdown ∧ v.status = .disable) : w.sys = .shutdown ∧ w.status = .disable := by
  obtain ⟨hs, hst⟩ := h.closing hc.1 (by simp [hc.2, ContainerStatus.Closing])
  refine ⟨hs, ?_⟩
  rcases hst with e | ⟨hne, -⟩
  · rw [e, hc.2]
  · exact absurd hc.2 hne

lemma RequestEffect.not_exit {kind : RequestKind} (h : RequestEffect kind .run v w)
    (hv : v.status ≠ .exit) : w.status ≠ .exit := by
  cases h with
  | idle h => cases kind <;> cases hs : v.status <;> simp_all [RequestKind.idleStatus]
  | failed h => cases kind <;> simp [RequestKind.failedStatus]
  | accepted now h hl => cases kind <;> simp [RequestKind.acceptedStatus]
  | worker now h hs => exact hv

/-- No guest exits while the system runs. -/
lemma LifeStep.keeps_not_exit (h : LifeStep R v w) (hv : v.sys = .run → v.status ≠ .exit)
    (hs : w.sys = .run) : w.status ≠ .exit := by
  cases h with
  | disable => simp [GuestView.disabled]
  | enable => simp [GuestView.enabled]
  | move h =>
    cases h with
    | idle => exact hv hs
    | mountFailed => exact hv hs
    | launchFailed => simp
    | launched => simp
    | cleaned => exact hv hs
    | workerStarted => simp
    | workerRemoved =>
      rcases statusAfterExecute_cases v.after with ⟨e, -⟩ | ⟨e, -⟩ <;> simp [e]
    | workerCompleted => exact hv hs
    | workerFinished =>
      rcases statusAfterExecute_cases (if v.after = 1 then 1 else 0) with ⟨e, -⟩ | ⟨e, -⟩ <;>
        simp [e]
    | workerExited hr => simp [hr] at hs
    | workerTimeout now hr => simp [hr] at hs
    | killed => split_ifs <;> simp
    | killedAtShutdown now hr => simp [hr] at hs
    | exited =>
      have hne := hv hs
      have hrun : v.sys = .run := hs
      rw [hrun]
      cases hst : v.status <;> simp_all [exitedStatus]
    | requestShutdown s hsys w h ret =>
      obtain rfl : s = .run := h.sys.symm.trans hs
      exact h.not_exit (hv (by simpa [eq_comm] using hsys))
    | requestReboot w h =>
      have hr : v.sys = .run := h.sys.symm.trans hs
      rw [hr] at h
      exact h.not_exit (hv hr)
    | scheduled => exact hv hs

/-! ### One cyclic event after all deadlines -/

lemma execShutdownCheckGuest_cases (delete : ℤ) (cc : ContainerConfig) :
    (execShutdownCheckGuest delete cc).runtimeStat = cc.runtimeStat ∨
      (execShutdownCheckGuest delete cc).runtimeStat.status = .exit := by
  simp only [execShutdownCheckGuest]
  split_ifs
  · exact Or.inr rfl
  · exact Or.inl rfl
  · exact Or.inl rfl

/-- The timeout loop leaves no guest in a status with a deadline that is over. -/
lemma execShutdownTimeoutGuest_overdue (initPid now : ℤ) {cc : ContainerConfig}
    (hc : cc.runtimeStat.status.Closing)
    (ht : cc.runtimeStat.timeout < now ∨ cc.runtimeStat.status = .exit) :
    (execShutdownTimeoutGuest initPid now cc).runtimeStat.status = .exit ∨
      (execShutdownTimeoutGuest initPid now cc).runtimeStat.status = .disable := by
  rcases hc with hc | hc | hc | hc
  · have ht' : cc.runtimeStat.timeout < now := by simpa [hc] using ht
    simp [execShutdownTimeoutGuest, timedOut, hc, ht', timeoutKill, ContainerConfig.record,
      ContainerConfig.setStatus]
  · have ht' : cc.runtimeStat.timeout < now := by simpa [hc] using ht
    simp [execShutdownTimeoutGuest, timedOut, hc, ht', ContainerConfig.setStatus]
  · simp [execShutdownTimeoutGuest, timedOut, hc]
  · simp [execShutdownTimeoutGuest, timedOut, hc]

/-- The manager's terminate operation does not touch the guests. -/
lemma execTerminateOperation_containers (dispatch : DispatchSys) (read : ReadSys)
    (cs : Containers n) : (execTerminateOperation dispatch read cs).containers = cs.containers := by
  unfold execTerminateOperation containerMngsmExecDelayedOperation containerMngsmDoCyclicOperation
    containerMngsmExit
  dsimp only
  split_ifs <;> rfl

lemma execInternalEventShutdown_overdue (sys : ExecSys n) {cs : Containers n}
    (hc : ∀ i, (cs.containers i).runtimeStat.status.Closing)
    (ht : ∀ i, (cs.containers i).runtimeStat.timeout < sys.now) (i : Fin n) :
    ((execInternalEventShutdown sys cs).containers i).runtimeStat.status = .exit ∨
      ((execInternalEventShutdown sys cs).containers i).runtimeStat.status = .disable := by
  have hcheck := execShutdownCheckGuest_cases (sys.delete i) (cs.containers i)
  simp only [execInternalEventShutdown]
  split_ifs with hall
  · rw [execTerminateOperation_containers, forEachGuest_containers]
    have hi : (cs.containers i).runtimeStat.status = .exit ∨
        (cs.containers i).runtimeStat.status = .disable := by
      simpa [execShutdownCounted] using hall i
    rcases hcheck with e | e
    · rw [e]
      exact hi
    · exact Or.inl e
  · rw [forEachGuest_containers, forEachGuest_containers]
    rcases hcheck with e | e
    · refine execShutdownTimeoutGuest_overdue _ _ ?_ (Or.inl ?_) <;> rw [e]
      · exact hc i
      · exact ht i
    · exact execShutdownTimeoutGuest_overdue _ _ (by simp [e, ContainerStatus.Closing]) (Or.inr e)

/-! ### The phase -/

lemma containerManagerShutdown_closing (sys : Fin n → RequestSys) (cs : Containers n) (i : Fin n) :
    ((containerManagerShutdown sys cs).1.views i).Closing := by
  have he := containerRequestShutdownBody_effect (sys i) (cs.containers i) .shutdown cs.sysState
  have hc : ((containerRequestShutdown (sys i) (cs.containers i) .shutdown).1.view
      .shutdown).status.Closing := he.closing
  simpa [containerManagerShutdown, GuestView.Closing] using ⟨rfl, hc⟩

lemma run_sysState {cs : Containers n} (h : cs.sysState = .shutdown) (as : List (Action n)) :
    (Transition.run step cs as).sysState = .shutdown :=
  Transition.run_invariant (I := fun s : Containers n => s.sysState = .shutdown)
    (fun _ a hs => step_sysState hs a) h as

lemma Reachable.not_exit {cs : Containers n} (h : Reachable cs) (i : Fin n)
    (hs : cs.sysState = .run) : (cs.containers i).runtimeStat.status ≠ .exit :=
  h.guest_invariant (I := fun v => v.sys = .run → v.status ≠ .exit)
    (fun cc hf _ => by simp [hf.status]) (fun _ _ hm hv => hm.keeps_not_exit hv) i hs

/-- The states after the system shutdown of `cs` and any further events. -/
def AfterShutdown (cs s : Containers n) : Prop :=
  ∃ sys as, s = Transition.run step (containerManagerShutdown sys cs).1 as

lemma AfterShutdown.roleExclusion {cs s : Containers n} (hcs : Reachable cs)
    (h : AfterShutdown cs s) : RoleExclusion s := by
  obtain ⟨sys, as, rfl⟩ := h
  exact Transition.run_invariant (I := RoleExclusion) (fun _ a hs => step_roleExclusion hs a)
    ((containerManagerShutdown_startFree sys cs).roleExclusion hcs.roleExclusion) as

lemma AfterShutdown.closing {cs s : Containers n} (hcs : Reachable cs) (h : AfterShutdown cs s)
    (i : Fin n) : (s.views i).Closing := by
  obtain ⟨sys, as, rfl⟩ := h
  exact run_moves_invariant (fun _ _ hm => hm.keeps_closing)
    ((containerManagerShutdown_startFree sys cs).roleExclusion hcs.roleExclusion)
    (containerManagerShutdown_closing sys cs i) as

lemma AfterShutdown.sysState {cs s : Containers n} (h : AfterShutdown cs s) :
    s.sysState = .shutdown := by
  obtain ⟨sys, as, rfl⟩ := h
  exact run_sysState (by simp [containerManagerShutdown]) as

theorem shutdown_closes {cs : Containers n} (hcs : Reachable cs) :
    (cs.sysState = .shutdown → ∀ as, (Transition.run step cs as).sysState = .shutdown) ∧
    (cs.sysState = .run → ∀ i, (cs.containers i).runtimeStat.status ≠ .exit) ∧
    ∀ s, AfterShutdown cs s →
      s.sysState = .shutdown ∧
      (∀ i, (s.containers i).runtimeStat.status = .shutdown ∨
        (s.containers i).runtimeStat.status = .runWorker ∨
        (s.containers i).runtimeStat.status = .exit ∨
        (s.containers i).runtimeStat.status = .disable) ∧
      (∀ i as, ((s.containers i).runtimeStat.status = .exit →
          ((Transition.run step s as).containers i).runtimeStat.status = .exit) ∧
        ((s.containers i).runtimeStat.status = .disable →
          ((Transition.run step s as).containers i).runtimeStat.status = .disable)) ∧
      ∀ sys : ExecSys n, (∀ i, (s.containers i).runtimeStat.timeout < sys.now) →
        ∀ i, ((containerExecInternalEvent sys s).containers i).runtimeStat.status = .exit ∨
          ((containerExecInternalEvent sys s).containers i).runtimeStat.status = .disable := by
  refine ⟨run_sysState, fun hs i => hcs.not_exit i hs, fun s h => ?_⟩
  have hsys := h.sysState
  have hc := fun i => (h.closing hcs i).2
  refine ⟨hsys, hc, fun i as => ⟨fun he => ?_, fun hd => ?_⟩, fun sys ht => ?_⟩
  · exact (run_moves_invariant (fun _ _ hm => hm.keeps_exit) (h.roleExclusion hcs) (i := i)
      ⟨hsys, he⟩ as).2
  · exact (run_moves_invariant (fun _ _ hm => hm.keeps_disable) (h.roleExclusion hcs) (i := i)
      ⟨hsys, hd⟩ as).2
  · simp only [containerExecInternalEvent]
    rw [hsys]
    exact execInternalEventShutdown_overdue sys hc ht

/-- The two guests are shut down, and both deadlines pass. -/
theorem shutdown_closes_ivi :
    iviBooted.sysState = .run ∧ ∀ i,
      ((containerExecInternalEvent (execOk 20000)
        (containerManagerShutdown (fun _ => ⟨true, 1, 100, 0⟩) iviBooted).1).containers
          i).runtimeStat.status = .exit ∨
      ((containerExecInternalEvent (execOk 20000)
        (containerManagerShutdown (fun _ => ⟨true, 1, 100, 0⟩) iviBooted).1).containers
          i).runtimeStat.status = .disable :=
  ⟨by decide, ((shutdown_closes iviBooted_reachable).2.2 _ ⟨_, [], rfl⟩).2.2.2 (execOk 20000)
    (by decide)⟩

end ContainerManager

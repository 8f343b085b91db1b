import ContainerManager.Properties.Consistency
import ContainerManager.Properties.Release
import ContainerManager.Refinement.Operation
import ContainerManager.Refinement.Workers

/-!
# A started worker exists

A thread that could not be created is noticed when `pthread_create` returns a negative value, which
it never does: it returns a positive error number.
-/

namespace ContainerManager

open Containers

variable {n : ℕ}

/-- A started worker has its thread. -/
def Workqueue.Live (wq : Workqueue) : Prop := wq.status = .started → wq.thread = true

/-- A started worker has a thread that completes it, a guest that waits for its worker has one that
is started or completed, and a running operation with dispatched elements has a thread or unread
answers. -/
structure WorkersExist (cs : Containers n) : Prop where
  guests : ∀ i, (cs.containers i).workqueue.status = .started →
    (cs.containers i).workqueue.thread = true ∧
      ∀ exec, ((step cs (.guestWorker i exec)).containers i).workqueue.status = .completed
  waiting : ∀ i, (cs.containers i).runtimeStat.status = .runWorker →
    (cs.containers i).workqueue.thread = true ∨ (cs.containers i).workqueue.status = .completed
  manager : ∀ storage, cs.operation.storage = some storage →
    (∃ e ∈ cs.operation.mountList, e.isDispatched = true) →
      (∃ t ∈ cs.operation.threads, t.serial = storage.serial ∧ storage.workerClosed = false) ∨
        storage.packets ≠ []

/-! ### The conditions -/

/-- The dispatch gets to the creation of its thread. -/
def CreatesThread (kind : OperationKind) (sys : DispatchSys) (cmo : ManagerOperation) : Prop :=
  cmo.storage = none ∧ (sys.mallocStorage ∧ sys.mallocWorker ∧ sys.socketpair) ∧
    ∃ e elems, (dispatchElems kind.selects sys.mallocElem cmo.mountList).2 = some (e :: elems)

/-- A dispatch creates its thread, or fails with a negative value. -/
def DispatchCreates (kind : OperationKind) (sys : DispatchSys) (cmo : ManagerOperation) : Prop :=
  CreatesThread kind sys cmo → sys.pthreadCreate ≤ 0

/-- The disks that the thread of a dispatch is to check or format when they cannot be mounted are
mounted at the first attempt. -/
def DispatchMounts (kind : OperationKind) (sys : DispatchSys) (cmo : ManagerOperation) : Prop :=
  CreatesThread kind sys cmo → sys.pthreadCreate = 0 → FirstMountsSucceed kind sys.worker cmo

/-- No thread creation of this action fails with a positive error number. -/
structure StepSpawns (cs : Containers n) (a : Action n) : Prop where
  workers : StepCreates (· ≤ 0) cs a
  terminate : ∀ sys cs', cyclicEvent cs a = some (sys, cs') → cs'.sysState = .shutdown →
    cs'.AllExited → DispatchCreates .terminate sys.dispatch cs'.operation

/-! ### The guests' workers -/

lemma live_invariant : QueueInvariant (· ≤ 0) Workqueue.Live where
  initial mutexInit hs := by
    simp only [containerWorkqueueInitialize] at hs
    split_ifs at hs
  schedule wq sys key args l h hs := by
    rw [containerWorkqueueSchedule_thread]
    rcases containerWorkqueueSchedule_cases wq sys key args l with ⟨-, -, e, -⟩ | ⟨-, e, -⟩
    · simp [e] at hs
    · exact h (e ▸ hs)
  run wq pthreadCreate hp h hs := by
    simp only [containerWorkqueueRun] at hs ⊢
    split_ifs at hs ⊢ with hns hneg
    · exact h hs
    · exact decide_eq_true (le_antisymm hp (not_lt.mp hneg))
  thread wq exec _ _ hs := by simp [containerWorkqueueThread] at hs
  cleanup wq delete h hs := by
    rw [containerWorkqueueCleanup_thread]
    by_cases hc : wq.status = .completed
    · simp [(containerWorkqueueCleanup_completed delete hc).1] at hs
    · rw [(containerWorkqueueCleanup_of_ne delete hc).1] at hs
      exact h hs
  remove wq delete h hs := by
    rw [containerWorkqueueRemove_thread]
    simp only [containerWorkqueueRemove] at hs
    split at hs
    · exact h hs
    · exact h hs
    · rw [containerWorkqueueUnloadPlugin_status] at hs
      dsimp only at hs
      split_ifs at hs

/-- A guest waits for a worker that is started or completed. -/
def GuestView.Waits (v : GuestView) : Prop :=
  v.status = .runWorker → v.worker = .started ∨ v.worker = .completed

lemma RequestEffect.waits {kind : RequestKind} {s : SystemState} {v w : GuestView}
    (he : RequestEffect kind s v w) (h : v.Waits) : w.Waits := by
  cases he with
  | idle hst => exact fun hr => h ((kind.idleStatus_runWorker s _).mp hr)
  | failed hst =>
    intro hr
    cases kind <;> cases s <;> simp [RequestKind.failedStatus] at hr
  | accepted now hst hl =>
    intro hr
    cases kind <;> cases s <;> simp [RequestKind.acceptedStatus] at hr
  | worker now hst hs => exact h

lemma LifeMove.waits {R : Prop} {v w : GuestView} (hm : LifeMove R v w) (h : v.Waits) :
    w.Waits := by
  cases hm with
  | idle => exact h
  | mountFailed hst => exact fun hr => absurd hr hst.not_runWorker
  | workerStarted => exact fun _ => Or.inl rfl
  | workerRemoved => exact fun hr => absurd hr (statusAfterExecute_ne_runWorker _)
  | workerFinished => exact fun hr => absurd hr (statusAfterExecute_ne_runWorker _)
  | workerCompleted => exact fun _ => Or.inr rfl
  | killed now hs hov =>
    intro hr
    dsimp only at hr
    split_ifs at hr
  | exited =>
    intro hr
    apply h
    dsimp only at hr
    cases hs : v.sys
    · rw [hs] at hr
      exact (exitedStatus_run_runWorker _).mp hr
    · rw [hs] at hr
      cases hv : v.status <;> simp [exitedStatus, hv] at hr
  | requestShutdown s hs w he ret => exact he.waits h
  | requestReboot w he => exact he.waits h
  | scheduled hw =>
    intro hr
    rcases h hr with e | e <;> simp [e] at hw
  | cleaned hs hst => exact fun hr => by simp [hst] at hr
  | _ => exact fun hr => by simp at hr

lemma LifeStep.waits {R : Prop} {v w : GuestView} (hm : LifeStep R v w) (h : v.Waits) :
    w.Waits := by
  cases hm with
  | move hm => exact hm.waits h
  | disable => exact fun hr => by simp [GuestView.disabled] at hr
  | enable => exact fun hr => by simp [GuestView.enabled] at hr

/-! ### The manager's worker -/

/-- A dispatch that succeeds got to the creation of its thread. -/
lemma createsThread_of_dispatch {kind : OperationKind} {sys : DispatchSys} {cmo : ManagerOperation}
    (h0 : (kind.dispatch sys cmo).2 = 0) : CreatesThread kind sys cmo ∧ 0 ≤ sys.pthreadCreate := by
  rw [OperationKind.dispatch_eq, managerOperationDispatch] at h0
  by_cases hst : cmo.storage.isSome
  · simp [hst] at h0
  rw [if_neg hst] at h0
  by_cases hok : sys.mallocStorage ∧ sys.mallocWorker ∧ sys.socketpair
  swap
  · rw [if_pos hok] at h0
    simp at h0
  rw [if_neg (not_not.mpr hok)] at h0
  dsimp only at h0
  split at h0
  · simp at h0
  · simp at h0
  · rename_i elems hne hd
    by_cases hneg : sys.pthreadCreate < 0
    · simp [hneg] at h0
    · obtain ⟨e, rest, rfl⟩ := List.exists_cons_of_ne_nil hne
      exact ⟨⟨by simpa using hst, hok, e, rest, hd⟩, not_lt.mp hneg⟩

/-- A mounted disk is neither checked nor formatted. -/
lemma firstMountsSucceed_terminate (sys : WorkerSys) (cmo : ManagerOperation) :
    FirstMountsSucceed .terminate sys cmo := by
  intro e _ hs hr
  simp [OperationKind.selects, terminateSelects, hr.1] at hs

/-- What a run keeps of the manager's operation. Between two operations every marked element is one
that the next terminate dispatch selects, unless no disk is mounted and it selects none; so the
answers under way are always those to the dispatched elements. -/
structure OperationLive (cmo : ManagerOperation) : Prop where
  nodup : (cmo.mountList.map MountElem.index).Nodup
  active : .canceled ∉ cmo.mountList.map MountElem.state
  threads : ∀ t ∈ cmo.threads, t.serial < cmo.dispatches
  idle : cmo.storage = none → (∀ e ∈ cmo.mountList, e.isDispatched = true → e.isMounted = true) ∨
    ∀ e ∈ cmo.mountList, e.isMounted = false
  running : cmo.storage ≠ none → ∃ k serial rets, Exchanging k serial (cmo, rets)

namespace OperationLive

variable {cmo : ManagerOperation}

lemma state_ne (h : OperationLive cmo) {e : MountElem} (he : e ∈ cmo.mountList) :
    e.state ≠ .canceled := fun hs => h.active (hs ▸ List.mem_map_of_mem he)

/-- What a dispatch function selects, when no element is canceled. -/
lemma selects_iff (h : OperationLive cmo) {e : MountElem} (he : e ∈ cmo.mountList)
    (kind : OperationKind) :
    kind.selects e = true ↔ e.isMounted = decide (kind = .terminate) := by
  cases kind <;> simp [OperationKind.selects, launchSelects, terminateSelects, h.state_ne he]

/-- An element that is still marked is dispatched again. -/
lemma dispatchable (h : OperationLive cmo) {kind : OperationKind} (hnone : cmo.storage = none)
    (hl : kind = .launch → ∀ e ∈ cmo.mountList, e.isMounted = false)
    (hs : ∃ e ∈ cmo.mountList, kind.selects e = true) : Dispatchable kind cmo := by
  refine ⟨h.nodup, fun e he hde => ?_, h.threads⟩
  rw [h.selects_iff he]
  cases kind with
  | launch => exact hl rfl e he
  | terminate =>
    rcases h.idle hnone with hidle | hidle
    · exact hidle e he hde
    · obtain ⟨e', he', hse'⟩ := hs
      rw [h.selects_iff he', hidle e' he'] at hse'
      simp at hse'

lemma dispatch (h : OperationLive cmo) (kind : OperationKind) {sys : DispatchSys}
    (hl : kind = .launch → ∀ e ∈ cmo.mountList, e.isMounted = false)
    (hc : DispatchCreates kind sys cmo) (hf : DispatchMounts kind sys cmo) :
    OperationLive (kind.dispatch sys cmo).1 := by
  have hrun : (kind.dispatch sys cmo).2 = 0 → sys.pthreadCreate = 0 ∧ (Dispatchable kind cmo →
      ∃ k serial rets, Exchanging k serial ((kind.dispatch sys cmo).1, rets)) := by
    intro h0
    obtain ⟨hthread, hp⟩ := createsThread_of_dispatch h0
    have hp0 := le_antisymm (hc hthread) hp
    refine ⟨hp0, fun hd => ⟨_, _, _, exchanging_of_kept_nil hd hp0 h0 ?_⟩⟩
    exact (keptElems_dispatchCopies _).mpr (hf hthread hp0)
  have o := managerOperationDispatch_outcome kind kind.selects sys cmo
  rw [← OperationKind.dispatch_eq] at o
  generalize kind.dispatch sys cmo = r at o hrun ⊢
  cases o with
  | busy => exact h
  | nothing => exact h
  | failed l ret hnone hret _ hi hm =>
    have hunmounted : (∀ e ∈ cmo.mountList, e.isMounted = false) →
        ∀ e' ∈ l, e'.isMounted = false := by
      intro hall e' he'
      obtain ⟨e, he, rfl | ⟨-, rfl⟩⟩ := hm e' he'
      · exact hall e' he
      · exact hall e he
    refine ⟨by rw [hi]; exact h.nodup, fun hs => ?_, h.threads, fun _ => ?_,
      fun hs => absurd hnone hs⟩
    · obtain ⟨e', he', hs⟩ := List.mem_map.mp hs
      obtain ⟨e, he, rfl | ⟨-, rfl⟩⟩ := hm e' he' <;> exact h.state_ne he hs
    · cases kind with
      | launch => exact Or.inr (hunmounted (hl rfl))
      | terminate =>
        refine (h.idle hnone).imp (fun hidle e' he' hde => ?_) hunmounted
        obtain ⟨e, he, rfl | ⟨hs, rfl⟩⟩ := hm e' he'
        · exact hidle e' he hde
        · exact (h.selects_iff he _).mp hs
  | dispatched hnone hs =>
    obtain ⟨hp, hrun⟩ := hrun rfl
    refine ⟨?_, ?_, ?_, by simp, fun _ => hrun (h.dispatchable hnone hl hs)⟩
    · simpa [Function.comp_def] using h.nodup
    · simpa [Function.comp_def] using h.active
    · intro t ht
      rw [if_pos hp] at ht
      rcases List.mem_append.mp ht with ht | ht
      · exact (h.threads t ht).trans (Nat.lt_succ_self _)
      · rw [List.mem_singleton.mp ht]
        exact Nat.lt_succ_self _

/-- A poll keeps the exchange, and completes the operation when no element is marked any more. -/
lemma poll (h : OperationLive cmo) (read : ReadSys) :
    OperationLive (managerOperationDelayedPoll read cmo).1 := by
  have hrun : cmo.storage ≠ none →
      ∃ k serial rets, Exchanging k serial ((managerOperationDelayedPoll read cmo).1, rets) := by
    intro hs
    obtain ⟨k, serial, rets, hex⟩ := h.running hs
    exact ⟨k, serial, _, hex.poll read⟩
  have o := managerOperationDelayedPoll_outcome read cmo
  generalize managerOperationDelayedPoll read cmo = r at o hrun ⊢
  cases o with
  | idle => exact h
  | failed => exact h
  | running hsome cmo' hr hd =>
    obtain ⟨hi, hst, ht, hn⟩ := hr.frame
    refine ⟨by rw [hi]; exact h.nodup, by rw [hst]; exact h.active,
      by rw [ht, hn]; exact h.threads, fun hnone => ?_, fun _ => hrun hsome⟩
    cases hr with
    | nothing => exact absurd hnone hsome
    | packet | eof => simp at hnone
  | completed hsome cmo' hr hd =>
    obtain ⟨hi, hst, ht, hn⟩ := hr.frame
    refine ⟨hi ▸ h.nodup, hst ▸ h.active, ?_, fun _ => Or.inl fun e he hde => ?_, by simp⟩
    · intro t htm
      exact lt_of_lt_of_eq (h.threads t (ht ▸ htm)) hn.symm
    · simp [hd e he] at hde

/-- A worker keeps the exchange. -/
lemma worker (h : OperationLive cmo) (k : ℕ) : OperationLive (managerWorkerStep k cmo).1 := by
  have hrun : cmo.storage ≠ none →
      ∃ j serial rets, Exchanging j serial ((managerWorkerStep k cmo).1, rets) := by
    intro hs
    obtain ⟨j, serial, rets, hex⟩ := h.running hs
    exact ⟨j, serial, rets, hex.step (.worker k)⟩
  rcases managerWorkerStep_cases k cmo with hstep | ⟨serial, kind, action, todo, ht, hstep⟩
  · rw [hstep]
    exact h
  · rw [hstep] at hrun ⊢
    refine ⟨h.nodup, h.active, fun t htm => ?_, fun hnone => h.idle (by simpa using hnone),
      fun hs => hrun (by simpa using hs)⟩
    rcases List.mem_or_eq_of_mem_set htm with htm | rfl
    · exact h.threads t htm
    · exact h.threads ⟨serial, kind, action :: todo⟩ (List.mem_of_getElem? ht)

/-- A running operation has a thread or unread answers. -/
lemma exists_worker (h : OperationLive cmo) {storage : OperationStorage}
    (hst : cmo.storage = some storage) :
    (∃ t ∈ cmo.threads, t.serial = storage.serial ∧ storage.workerClosed = false) ∨
      storage.packets ≠ [] := by
  obtain ⟨k, serial, rets, hex⟩ := h.running (by simp [hst])
  obtain ⟨kind, todo, ht, -, -, hsync⟩ := hex.thread
  obtain ⟨hser, hans, -, hclosed, index, hout⟩ := hsync storage hst
  by_cases hcl : storage.workerClosed = true
  · -- everything is written, and an element still waits for its answer
    refine Or.inr fun hp => ?_
    rw [hclosed hcl, hp] at hans
    exact hans.finished index hout
  · exact Or.inl ⟨_, List.mem_of_getElem? ht, hser.symm, by simpa using hcl⟩

lemma step {cs : Containers n} (h : OperationLive cs.operation) {a : Action n}
    (hs : StepSpawns cs a) : OperationLive (step cs a).operation := by
  have o := step_operationStep cs a
  show OperationLive (ContainerManager.step cs a).operationLog.1
  generalize (ContainerManager.step cs a).operationLog = log at o ⊢
  cases o with
  | idle => exact h
  | poll sys cs' hc hp => exact h.poll sys.read
  | terminate sys cs' hc hd hall =>
    have hdispatch := hs.terminate sys cs' hc hd hall
    rw [cyclicEvent_operation hc] at hdispatch
    exact h.dispatch .terminate (by simp) hdispatch fun _ _ =>
      firstMountsSucceed_terminate _ _
  | worker k => exact h.worker k

end OperationLive

/-! ### The calls -/

/-- A worker that cannot be run for want of a thread stays scheduled. -/
def RunReports (pthreadCreate : ℤ) (wq : Workqueue) : Prop :=
  pthreadCreate ≠ 0 → containerWorkqueueRun pthreadCreate wq = (wq, -3)

lemma runReports_iff {pthreadCreate : ℤ} {wq : Workqueue} (hs : wq.status = .scheduled) :
    RunReports pthreadCreate wq ↔ pthreadCreate ≤ 0 := by
  constructor
  · intro h
    by_contra hp
    have hrun := congrArg Prod.snd (h (by omega))
    simp [containerWorkqueueRun, hs, show ¬ pthreadCreate < 0 by omega] at hrun
  · intro hp hne
    obtain ⟨object, status, after, result, thread, loaded, deleted⟩ := wq
    obtain rfl : status = .scheduled := hs
    simp [containerWorkqueueRun, show pthreadCreate < 0 by omega]

/-- A dispatch that cannot create its thread fails, and no operation is running. -/
def DispatchReports (kind : OperationKind) (sys : DispatchSys) (cmo : ManagerOperation) : Prop :=
  sys.pthreadCreate ≠ 0 →
    (kind.dispatch sys cmo).2 < 0 ∧ (kind.dispatch sys cmo).1.storage = none

lemma dispatchReports_iff {kind : OperationKind} {sys : DispatchSys} {cmo : ManagerOperation}
    (hc : CreatesThread kind sys cmo) :
    DispatchReports kind sys cmo ↔ sys.pthreadCreate ≤ 0 := by
  obtain ⟨hnone, hok, e, elems, hd⟩ := hc
  rw [DispatchReports]
  rw [OperationKind.dispatch_eq]
  rw [managerOperationDispatch]
  rw [if_neg (by simp [hnone]), if_neg (not_not.mpr hok)]
  dsimp only
  rw [hd]
  dsimp only
  constructor
  · intro h
    by_contra hp
    have hret := (h (by omega)).1
    simp [show ¬ sys.pthreadCreate < 0 by omega] at hret
  · intro hp hne
    rw [if_pos (show sys.pthreadCreate < 0 by omega)]
    exact ⟨show (-3 : ℤ) < 0 by decide, hnone⟩

/-! ### Runs -/

/-- The states in which the event loop starts, when the creation of the launch worker's thread does
not fail with a positive error number and the worker needs no recovery. -/
inductive Spawned (sys : ℕ → VisitSys) (notify : Bool) (cs₀ : Containers n) :
    Containers n → Prop where
  | started : Spawned sys notify cs₀ (containerMngsmStart sys notify cs₀)
  | launched (dispatch : DispatchSys)
      (hc : DispatchCreates .launch dispatch (containerMngsmStart sys notify cs₀).operation)
      (hm : DispatchMounts .launch dispatch (containerMngsmStart sys notify cs₀).operation) :
      Spawned sys notify cs₀ (containerMngsmExecDelayedOperation dispatch
        (containerMngsmStart sys notify cs₀) 0).1

lemma Spawned.booted {sys : ℕ → VisitSys} {notify : Bool} {cs₀ cs : Containers n}
    (h : Spawned sys notify cs₀ cs) : Booted sys notify cs₀ cs := by
  cases h with
  | started => exact .started
  | launched dispatch => exact .launched dispatch

lemma Spawned.operationLive {sys : ℕ → VisitSys} {notify : Bool} {cs₀ cs : Containers n}
    (h₀ : Initial cs₀) (h : Spawned sys notify cs₀ cs) : OperationLive cs.operation := by
  have ho : (containerMngsmStart sys notify cs₀).operation = cs₀.operation :=
    (containerMngsmStart_outside sys notify cs₀).1
  have hunmounted : ∀ e ∈ cs₀.operation.mountList, e.isMounted = false := fun e he => by
    simpa using (h₀.operation.elems e he).1
  have hstart : OperationLive (containerMngsmStart sys notify cs₀).operation := by
    rw [ho]
    refine ⟨h₀.operation.nodup, ?_, by simp [h₀.operation.threads], fun _ => Or.inr hunmounted,
      by simp [h₀.operation.storage]⟩
    intro hm
    obtain ⟨e, he, hs⟩ := List.mem_map.mp hm
    simp [(h₀.operation.elems e he).2.2] at hs
  cases h with
  | started => exact hstart
  | launched dispatch hc hm =>
    exact hstart.dispatch .launch (fun _ => ho ▸ hunmounted) hc hm

/-- Workers exist in every state of a run in which no thread creation fails with a positive error
number and the launch worker mounts its disks without a recovery. A single call notices the failure
exactly when the error number is not positive. -/
theorem workers_exist {cs₀ cs : Containers n} (h₀ : Initial cs₀) {sys : ℕ → VisitSys}
    {notify : Bool} (hb : Spawned sys notify cs₀ cs) {as : List (Action n)}
    (hs : Transition.Guarded step StepSpawns cs as) :
    WorkersExist (Transition.run step cs as) ∧
      (∀ pthreadCreate wq, wq.status = .scheduled →
        (RunReports pthreadCreate wq ↔ pthreadCreate ≤ 0)) ∧
      ∀ kind dispatch cmo, CreatesThread kind dispatch cmo →
        (DispatchReports kind dispatch cmo ↔ dispatch.pthreadCreate ≤ 0) := by
  refine ⟨?_, fun _ _ => runReports_iff, fun _ _ _ => dispatchReports_iff⟩
  have hlive := live_invariant.queues_run h₀ hb.booted (hs.mono fun _ _ h => h.workers)
  have hreach : Reachable (Transition.run step cs as) :=
    Reachable.run ⟨cs₀, h₀, .init ⟨sys, notify, hb.booted⟩⟩ as
  have hwait : ∀ i, ((Transition.run step cs as).views i).Waits := fun i =>
    hreach.guest_invariant (I := GuestView.Waits)
      (fun cc hf hr => by simp [hf.status] at hr) (fun _ _ hm => hm.waits) i
  have hop : OperationLive (Transition.run step cs as).operation :=
    Transition.run_invariant_of_guarded (I := fun s => OperationLive s.operation)
      (fun _ _ hg h => h.step hg) (hb.operationLive h₀) hs
  refine ⟨fun i hst => ⟨hlive i hst, fun exec => ?_⟩, fun i hr => ?_,
    fun storage hst _ => hop.exists_worker hst⟩
  · simp [step, guestWorkerDone, hlive i hst, containerWorkqueueThread]
  · exact (hwait i hr).imp (hlive i) id

/-- The guest whose disk could not be mounted, and a launch worker with two disks. -/
def clusterSpawned : Containers 1 :=
  (containerMngsmExecDelayedOperation dispatchOk (containerMngsmStart (fun _ => visitDiskFails) true
    (setupManager clusterGuest managerDisks)) 0).1

lemma clusterSpawned_spawned :
    Spawned (fun _ => visitDiskFails) true (setupManager clusterGuest managerDisks)
      clusterSpawned :=
  .launched dispatchOk (fun _ => le_rfl) fun _ _ _ _ _ _ => Or.inl rfl

/-- The queued recovery runs and its worker ends, and the launch worker mounts a disk. -/
def recoveryRuns : List (Action 1) :=
  [.receive (messageOk 50), .guestWorker (Fin.last 0) 0, .managerWorker 0]

theorem workers_exist_cluster :
    WorkersExist (Transition.run step clusterSpawned recoveryRuns) ∧
      (∀ pthreadCreate wq, wq.status = .scheduled →
        (RunReports pthreadCreate wq ↔ pthreadCreate ≤ 0)) ∧
      ∀ kind dispatch cmo, CreatesThread kind dispatch cmo →
        (DispatchReports kind dispatch cmo ↔ dispatch.pthreadCreate ≤ 0) := by
  have hnone : ∀ (cs : Containers 1) (a : Action 1), cyclicEvent cs a = none → StepSpawns cs a :=
    fun cs a h => ⟨fun sys cs' hc => by simp [h] at hc, fun sys cs' hc => by simp [h] at hc⟩
  refine workers_exist (setupManager_initial clusterGuest_fresh ⟨by decide, by decide, rfl, rfl⟩)
    clusterSpawned_spawned ⟨⟨?_, ?_⟩, hnone _ _ rfl, hnone _ _ rfl, trivial⟩
  · intro sys cs' hc _
    obtain ⟨rfl, rfl⟩ := Prod.mk.inj (Option.some.inj hc)
    exact ⟨fun _ => le_rfl, trivial⟩
  · intro sys cs' hc hs
    obtain ⟨rfl, rfl⟩ := Prod.mk.inj (Option.some.inj hc)
    exact absurd hs (by decide)

/-- A cyclic event in which no more thread can be created. -/
def outOfThreads : MessageSys 1 :=
  { messageOk 50 with exec :=
    { execOk 50 with visit := fun _ => { visitOk with worker := ⟨cleanupOk, 11, 0, 0⟩ } } }

/-- The guest waits for a worker that was never started. -/
theorem failed_creation_waits :
    Reachable clusterBooted ∧ ¬ WorkersExist (step clusterBooted (.receive outOfThreads)) := by
  refine ⟨clusterBooted_reachable, ?_⟩
  intro h
  exact absurd (h.guests 0 (by decide)).1 (by decide)

end ContainerManager

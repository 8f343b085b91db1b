import ContainerManager.Operations.Exchange
import ContainerManager.Refinement.Frame

/-!
# What an event does to the manager's operation

An event polls the operation, dispatches the terminate worker, lets a worker thread take an action,
or leaves the operation alone.
-/

namespace ContainerManager

open Containers

variable {n : ℕ}

/-- What the worker threads did, newest first. -/
def Containers.workerLog (cs : Containers n) : List (OperationKind × WorkerAction) :=
  cs.log.filterMap fun
    | .worker kind action => some (kind, action)
    | _ => none

lemma mem_workerLog {cs : Containers n} {kind : OperationKind} {action : WorkerAction} :
    (kind, action) ∈ cs.workerLog ↔ .worker kind action ∈ cs.log := by
  simp only [Containers.workerLog]
  rw [List.mem_filterMap]
  constructor
  · rintro ⟨e, he, h⟩
    cases e <;> simp at h
    obtain ⟨rfl, rfl⟩ := h
    exact he
  · exact fun h => ⟨_, h, rfl⟩

/-- The operation and the log of the workers. -/
def Containers.operationLog (cs : Containers n) :
    ManagerOperation × List (OperationKind × WorkerAction) :=
  (cs.operation, cs.workerLog)

/-- The operation is polled by every cyclic event of the run state, and in the shutdown state once
the guests are exited. -/
def Containers.Polls (cs : Containers n) : Prop := cs.sysState = .run ∨ cs.AllExited

/-- The ways an event changes the operation. -/
inductive OperationStep (cs : Containers n) :
    Action n → ManagerOperation × List (OperationKind × WorkerAction) → Prop where
  | idle {a : Action n} : OperationStep cs a cs.operationLog
  | poll {a : Action n} (sys : ExecSys n) (cs' : Containers n)
      (hc : cyclicEvent cs a = some (sys, cs')) (hp : cs'.Polls) :
      OperationStep cs a ((managerOperationDelayedPoll sys.read cs.operation).1, cs.workerLog)
  | terminate {a : Action n} (sys : ExecSys n) (cs' : Containers n)
      (hc : cyclicEvent cs a = some (sys, cs')) (hs : cs'.sysState = .shutdown)
      (hall : cs'.AllExited) :
      OperationStep cs a
        ((managerOperationDelayedTerminate sys.dispatch cs.operation).1, cs.workerLog)
  | worker (k : ℕ) :
      OperationStep cs (.managerWorker k) ((managerWorkerStep k cs.operation).1,
        (managerWorkerStep k cs.operation).2.toList ++ cs.workerLog)

section Frame

variable {cs cs' : Containers n}

lemma operationLog_of_eq (ho : cs'.operation = cs.operation) (hl : cs'.log = cs.log) :
    cs'.operationLog = cs.operationLog := by
  simp only [Containers.operationLog, Containers.workerLog]
  rw [ho, hl]

lemma GuestsOnly.operationLog (h : GuestsOnly cs cs') : cs'.operationLog = cs.operationLog :=
  operationLog_of_eq h.operation h.log

lemma startAndNotify_operationLog (sys : VisitSys) (cs : Containers n) (i : Fin n) :
    (startAndNotify sys cs i).operationLog = cs.operationLog := by
  obtain ⟨comm, e⟩ := startAndNotify_frame sys cs i
  obtain ⟨containers, event, e'⟩ := startGuest_frame sys cs i
  rw [e, e']
  rfl

lemma execRunVisits_operationLog (visit : Fin n → VisitSys) (cs : Containers n) :
    (execRunVisits visit cs).operationLog = cs.operationLog := by
  refine Loop.forEach_congr Containers.operationLog (fun s i => ?_) cs
  rcases execRunVisit_cases (visit i) s i with hg | ⟨j, s', -, hg, e⟩
  · exact hg.operationLog
  · rw [e, startAndNotify_operationLog]
    exact hg.operationLog

lemma containerMonitorPidfdHandler_operationLog (sent : Bool) (source : PidfdSource n)
    (cs : Containers n) :
    (containerMonitorPidfdHandler sent source cs).operationLog = cs.operationLog := by
  refine Loop.forEach_congr Containers.operationLog (fun s i => ?_) cs
  dsimp only
  split_ifs <;> rfl

/-- The terminate operation goes on by what the dispatch returned. -/
lemma execTerminateOperation_eq (dispatch : DispatchSys) (read : ReadSys) (cs : Containers n) :
    execTerminateOperation dispatch read cs =
      let r := managerOperationDelayedTerminate dispatch cs.operation
      let cs := { cs with operation := r.1 }
      if r.2 = -1 then
        let p := containerMngsmDoCyclicOperation read cs
        if p.2 = 1 then containerMngsmExit p.1 .complete else p.1
      else if r.2 = 1 then containerMngsmExit cs .notRequired
      else if r.2 = 0 then cs
      else containerMngsmExit cs .failed := by
  have e : containerMngsmExecDelayedOperation dispatch cs 1 =
      ({ cs with operation := (managerOperationDelayedTerminate dispatch cs.operation).1 },
        let ret := (managerOperationDelayedTerminate dispatch cs.operation).2
        if ret = 0 ∨ ret = 1 ∨ ret = -1 then ret else -3) := rfl
  simp only [execTerminateOperation]
  rw [e]
  generalize managerOperationDelayedTerminate dispatch cs.operation = r
  by_cases hb : r.2 = -1
  · simp [hb]
  by_cases h1 : r.2 = 1
  · simp [h1]
  by_cases h0 : r.2 = 0
  · simp [h0]
  · simp [hb, h1, h0]

/-- The terminate operation dispatches, or polls when an operation is running. -/
lemma execTerminateOperation_operationLog (dispatch : DispatchSys) (read : ReadSys)
    (cs : Containers n) :
    (execTerminateOperation dispatch read cs).operationLog =
        ((managerOperationDelayedTerminate dispatch cs.operation).1, cs.workerLog) ∨
      (execTerminateOperation dispatch read cs).operationLog =
        ((managerOperationDelayedPoll read cs.operation).1, cs.workerLog) := by
  have o := managerOperationDispatch_outcome .terminate terminateSelects dispatch cs.operation
  rw [execTerminateOperation_eq]
  rw [managerOperationDelayedTerminate]
  generalize managerOperationDispatch .terminate terminateSelects dispatch cs.operation = r at o ⊢
  -- a running operation is left as it is
  have hbusy : r.2 = -1 → r.1 = cs.operation := by
    intro h
    cases o with
    | busy => rfl
    | failed l ret hnone hret => rcases hret with rfl | rfl <;> simp at h
    | nothing => rfl
    | dispatched => simp at h
  dsimp only
  split_ifs with h
  · exact Or.inr (by rw [← hbusy h]; rfl)
  · exact Or.inr (by rw [← hbusy h]; rfl)
  all_goals exact Or.inl rfl

end Frame

/-! ### Steps -/

/-- Handling a message leaves the operation alone. -/
lemma cyclicEvent_operationLog {cs cs' : Containers n} {a : Action n} {sys : ExecSys n}
    (hc : cyclicEvent cs a = some (sys, cs')) : cs'.operationLog = cs.operationLog := by
  cases a <;> simp only [cyclicEvent, reduceCtorEq, Option.some.injEq, Prod.mk.injEq] at hc
  · obtain ⟨-, rfl⟩ := hc
    exact (handleMessage_guestsOnly _ cs _).operationLog
  · split at hc
    · simp at hc
    · obtain ⟨-, rfl⟩ := Prod.mk.inj (Option.some.inj hc)
      exact (handleMessage_guestsOnly _ _ _).operationLog

lemma cyclicEvent_operation {cs cs' : Containers n} {a : Action n} {sys : ExecSys n}
    (hc : cyclicEvent cs a = some (sys, cs')) : cs'.operation = cs.operation :=
  congrArg Prod.fst (cyclicEvent_operationLog hc)

lemma execInternalEvent_operationLog (sys : ExecSys n) (cs : Containers n) :
    (containerExecInternalEvent sys cs).operationLog = cs.operationLog ∨
      (cs.Polls ∧ (containerExecInternalEvent sys cs).operationLog =
        ((managerOperationDelayedPoll sys.read cs.operation).1, cs.workerLog)) ∨
      (cs.sysState = .shutdown ∧ cs.AllExited ∧ (containerExecInternalEvent sys cs).operationLog =
        ((managerOperationDelayedTerminate sys.dispatch cs.operation).1, cs.workerLog)) := by
  simp only [containerExecInternalEvent]
  split
  · rename_i hs
    obtain ⟨cs', hg, e⟩ := execInternalEventRun_guestsOnly sys cs
    have ho := hg.operationLog.trans (execRunVisits_operationLog sys.visit cs)
    refine Or.inr (Or.inl ⟨Or.inl hs, ?_⟩)
    obtain ⟨ho, hl⟩ := Prod.mk.inj ho
    rw [e, ← ho, ← hl]
    rfl
  · rename_i hs
    obtain ⟨cs', hg, e⟩ := execInternalEventShutdown_guestsOnly sys cs
    rw [e]
    obtain ⟨ho, hl⟩ := Prod.mk.inj hg.operationLog
    rw [← ho, ← hl]
    split_ifs with hall
    · rcases execTerminateOperation_operationLog sys.dispatch sys.read cs' with h | h
      · exact Or.inr (Or.inr ⟨hs, hall, h⟩)
      · exact Or.inr (Or.inl ⟨Or.inr hall, h⟩)
    · exact Or.inl hg.operationLog

lemma step_operationStep (cs : Containers n) (a : Action n) :
    OperationStep cs a (step cs a).operationLog := by
  have exec : ∀ sys cs', cyclicEvent cs a = some (sys, cs') →
      OperationStep cs a (containerExecInternalEvent sys cs').operationLog := by
    intro sys cs' hc
    obtain ⟨ho, hl⟩ := Prod.mk.inj (cyclicEvent_operationLog hc)
    rcases execInternalEvent_operationLog sys cs' with h | ⟨hp, h⟩ | ⟨hs, hall, h⟩
    · rw [h, cyclicEvent_operationLog hc]
      exact .idle
    · rw [h, ho, hl]
      exact .poll sys cs' hc hp
    · rw [h, ho, hl]
      exact .terminate sys cs' hc hs hall
  have same : ∀ cs' : Containers n, cs'.operationLog = cs.operationLog →
      OperationStep cs a cs'.operationLog := fun cs' h => h ▸ .idle
  cases a with
  | message m sys => exact exec _ _ rfl
  | receive sys =>
    simp only [step, containerMngsmCommsocketHandler]
    cases hc : cs.comm with
    | nil => exact .idle
    | cons m rest =>
      exact exec _ _ (by simp [cyclicEvent, hc])
  | timer sent => exact same _ (by rw [step, send_frame]; rfl)
  | sigterm sent => exact same _ (by rw [step, send_frame]; rfl)
  | netlink m sent => exact same _ (by rw [step, send_frame]; rfl)
  | pidfd id sent =>
    simp only [step]
    split
    · exact .idle
    · exact same _ (containerMonitorPidfdHandler_operationLog sent _ cs)
  | command p sys => exact same _ (containerExternalInterfaceExec_guestsOnly sys cs p).operationLog
  | guestWorker i exec => exact .idle
  | managerWorker k =>
    have e : (step cs (.managerWorker k)).operationLog = ((managerWorkerStep k cs.operation).1,
        (managerWorkerStep k cs.operation).2.toList ++ cs.workerLog) := by
      simp only [step, Containers.managerWorker]
      cases (managerWorkerStep k cs.operation).2 <;> rfl
    rw [e]
    exact .worker k

end ContainerManager

import ContainerManager.Refinement.Mounts

/-!
# The delayed mounts of a guest in a run

What a step of a guest can do to its queue of delayed mounts: a start queues everything, a cleanup
drops everything, and only the cyclic event mounts. Every other function leaves the queue alone and
starts no guest.
-/

namespace ContainerManager

open Containers

variable {n : ℕ} {P : ℤ → Prop} {cc cc' : ContainerConfig}

/-- The function leaves the delayed mounts alone, and the guest is only started if it was before. -/
structure KeepsDelayed (cc cc' : ContainerConfig) : Prop where
  delayed : cc'.fsconfig.delayed = cc.fsconfig.delayed
  launches : cc'.launches = cc.launches
  started : cc'.runtimeStat.status = .started → cc.runtimeStat.status = .started

/-- All elements are queued. -/
def DelayedMount.requeue (d : DelayedMount) : DelayedMount :=
  { d with runtimeList := d.initialList }

/-- No element is queued. -/
def DelayedMount.clear (d : DelayedMount) : DelayedMount := { d with runtimeList := [] }

/-- What a step of a guest can do to its delayed mounts. -/
inductive DelayedMove (cc cc' : ContainerConfig) : Prop where
  | keep (h : KeepsDelayed cc cc')
  /-- a new incarnation is started -/
  | launched (hd : cc'.fsconfig.delayed = cc.fsconfig.delayed.requeue)
      (hl : cc'.launches = cc.launches + 1) (hs : cc'.runtimeStat.status = .started)
  /-- a start queued the elements, but the launch failed -/
  | launchFailed (hd : cc'.fsconfig.delayed = cc.fsconfig.delayed.requeue)
      (hl : cc'.launches = cc.launches) (hs : cc'.runtimeStat.status = .dead)
  | cleaned (hd : cc'.fsconfig.delayed = cc.fsconfig.delayed.clear)
      (hl : cc'.launches = cc.launches) (hs : cc'.runtimeStat.status ≠ .started)
  | mounted (sys : DelayedSys) (h : cc' = (containerDoDelayedOperation sys cc).1)

/-! ### The functions that leave the queue alone -/

namespace KeepsDelayed

lemma refl (cc : ContainerConfig) : KeepsDelayed cc cc := ⟨rfl, rfl, id⟩

lemma of_ne (hd : cc'.fsconfig.delayed = cc.fsconfig.delayed) (hl : cc'.launches = cc.launches)
    (hs : cc'.runtimeStat.status ≠ .started) : KeepsDelayed cc cc' :=
  ⟨hd, hl, fun h => absurd h hs⟩

lemma forcekill (initPid : ℤ) (cc : ContainerConfig) :
    KeepsDelayed cc (lxcutilContainerForcekill initPid cc) := by
  rw [lxcutilContainerForcekill_frame]
  exact ⟨rfl, rfl, id⟩

lemma timeoutKill (initPid now : ℤ) (cc : ContainerConfig) {status : ContainerStatus}
    (h : status ≠ .started) : KeepsDelayed cc (timeoutKill initPid now cc status) := by
  rw [ContainerManager.timeoutKill, lxcutilContainerForcekill_frame]
  exact .of_ne rfl rfl h

lemma runTimeout (initPid now : ℤ) (cc : ContainerConfig) :
    KeepsDelayed cc (execRunTimeoutGuest initPid now cc) := by
  simp only [execRunTimeoutGuest]
  split_ifs
  · exact timeoutKill _ _ _ (by decide)
  · exact timeoutKill _ _ _ (by decide)
  · exact refl cc

lemma shutdownTimeout (initPid now : ℤ) (cc : ContainerConfig) :
    KeepsDelayed cc (execShutdownTimeoutGuest initPid now cc) := by
  simp only [execShutdownTimeoutGuest]
  split_ifs
  · exact timeoutKill _ _ _ (by decide)
  · exact .of_ne rfl rfl (by simp [ContainerConfig.setStatus])
  · exact refl cc

lemma shutdownCheck (delete : ℤ) (cc : ContainerConfig) :
    KeepsDelayed cc (execShutdownCheckGuest delete cc) := by
  simp only [execShutdownCheckGuest]
  split_ifs
  · exact .of_ne rfl rfl (by simp [ContainerConfig.setStatus])
  · exact ⟨rfl, rfl, id⟩
  · exact refl cc

lemma statusAfterExecute_ne_started (after : ℤ) : statusAfterExecute after ≠ .started := by
  rcases statusAfterExecute_cases after with ⟨h, -⟩ | ⟨h, -⟩ <;> simp [h]

lemma finishWorker (delete : ℤ) (cc : ContainerConfig) :
    KeepsDelayed cc (execFinishWorkerGuest delete cc) := by
  simp only [execFinishWorkerGuest]
  split_ifs
  · exact .of_ne rfl rfl (statusAfterExecute_ne_started _)
  · exact ⟨rfl, rfl, id⟩
  · exact refl cc

lemma workerDone (exec : ℤ) (cc : ContainerConfig) : KeepsDelayed cc (guestWorkerDone exec cc) := by
  simp only [guestWorkerDone]
  split_ifs
  · exact ⟨rfl, rfl, id⟩
  · exact refl cc

lemma enable (cc : ContainerConfig) : KeepsDelayed cc (enableGuest cc) :=
  .of_ne rfl rfl (by simp [enableGuest, ContainerConfig.setStatus, ContainerConfig.record])

lemma exited (s : SystemState) (cc : ContainerConfig) :
    KeepsDelayed cc (containerExitedGuest s cc).1 := by
  refine .of_ne rfl rfl ?_
  show (exitedStatus s cc.runtimeStat.status).1 ≠ .started
  cases s <;> cases cc.runtimeStat.status <;> decide

lemma netif (attach : ℕ → ℕ → Bool) (nllist : List NetworkInterfaceInfo) (cc : ContainerConfig) :
    KeepsDelayed cc (containerNetifUpdateGuest attach nllist cc).1 := by
  simp only [containerNetifUpdateGuest]
  split_ifs
  · exact refl cc
  · exact ⟨rfl, rfl, id⟩

lemma requestStop (sys : RequestSys) (cc : ContainerConfig) {failed accepted : ContainerStatus}
    (hf : failed ≠ .started) (ha : accepted ≠ .started) :
    KeepsDelayed cc (requestStop sys cc failed accepted) := by
  simp only [ContainerManager.requestStop]
  split_ifs
  · rw [lxcutilContainerForcekill_frame]
    exact .of_ne rfl rfl hf
  · exact .of_ne rfl rfl ha

lemma record (cc : ContainerConfig) (e : GuestEvent) (h : KeepsDelayed cc cc') :
    KeepsDelayed cc (cc'.record e) := ⟨h.delayed, h.launches, h.started⟩

lemma setStatus (cc : ContainerConfig) {status : ContainerStatus} (h : status ≠ .started) :
    KeepsDelayed cc (cc.setStatus status) := .of_ne rfl rfl h

lemma timeoutSet (now : ℤ) (cc : ContainerConfig) :
    KeepsDelayed cc (containerTimeoutSet now cc) := by
  simp only [containerTimeoutSet]
  exact ⟨rfl, rfl, id⟩

lemma shutdownRequest (sys : RequestSys) (s : SystemState) (cc : ContainerConfig) :
    KeepsDelayed cc (containerRequestShutdown sys cc s).1 := by
  apply record
  cases s <;> unfold containerRequestShutdownBody <;> dsimp only <;> split <;> first
    | exact requestStop _ _ (by decide) (by decide)
    | exact refl cc
    | exact timeoutSet _ _
    | exact setStatus _ (by decide)

lemma rebootRequest (sys : RequestSys) (s : SystemState) (cc : ContainerConfig) :
    KeepsDelayed cc (containerRequestReboot sys cc s).1 := by
  cases s <;> unfold containerRequestReboot <;> dsimp only <;> split <;> first
    | exact requestStop _ _ (by decide) (by decide)
    | exact refl cc
    | exact timeoutSet _ _
    | exact setStatus _ (by decide)

lemma schedule (sys : PluginSys) (key : String) (cc : ContainerConfig) :
    KeepsDelayed cc (testScheduleGuest sys key cc).1 := by
  simp only [testScheduleGuest]
  split_ifs <;> exact ⟨rfl, rfl, id⟩

end KeepsDelayed

/-! ### One pass over the queue -/

/-- The elements that a pass leaves in the queue. -/
def delayedStays (sys : DelayedSys) (lxc : Option LxcContainer) (l : List DelayedMountElem) :
    List DelayedMountElem :=
  (l.zipIdx.filter fun e => delayedElemStays sys lxc e.2 e.1).map Prod.fst

/-- The mount call of a pass for its `k`-th element, if there is one. -/
def delayedElemCall (sys : DelayedSys) (cc : ContainerConfig) (k : ℕ) (dmelem : DelayedMountElem) :
    Option DelayedMountCall :=
  if dmelem.type = .delayed ∧ sys.nodeCheck k then
    some ⟨cc.launches, cc.runtimeStat.status, dmelem, cc.runtimeStat.lxc.isSome ∧ sys.mount k⟩
  else none

/-- The mount calls that a pass makes for these elements. -/
def delayedPassCalls (sys : DelayedSys) (cc : ContainerConfig) (l : List DelayedMountElem) :
    List DelayedMountCall :=
  l.zipIdx.filterMap fun e => delayedElemCall sys cc e.2 e.1

section Pass

variable (sys : DelayedSys) (lxc : Option LxcContainer) (l : List DelayedMountElem)

lemma containerDoDelayedOperation_started (hs : cc.runtimeStat.status = .started) :
    (containerDoDelayedOperation sys cc).1.fsconfig.delayed = { cc.fsconfig.delayed with
      runtimeList := delayedStays sys cc.runtimeStat.lxc cc.fsconfig.delayed.runtimeList
      mountCalls := cc.fsconfig.delayed.mountCalls ++
        delayedPassCalls sys cc cc.fsconfig.delayed.runtimeList } := by
  rw [containerDoDelayedOperation, if_neg (by simp [hs])]
  rfl

lemma containerDoDelayedOperation_idle (hs : cc.runtimeStat.status ≠ .started) :
    containerDoDelayedOperation sys cc = (cc, -2) := by
  rw [containerDoDelayedOperation, if_pos hs]

lemma delayedStays_concat (e : DelayedMountElem) : delayedStays sys lxc (l ++ [e]) =
    delayedStays sys lxc l ++ if delayedElemStays sys lxc l.length e then [e] else [] := by
  simp only [delayedStays, List.zipIdx_append, List.filter_append, List.map_append]
  congr 1
  by_cases he : delayedElemStays sys lxc l.length e <;> simp [he]

lemma delayedPassCalls_concat (cc : ContainerConfig) (e : DelayedMountElem) :
    delayedPassCalls sys cc (l ++ [e]) =
      delayedPassCalls sys cc l ++ (delayedElemCall sys cc l.length e).toList := by
  simp only [delayedPassCalls, List.zipIdx_append, List.filterMap_append]
  congr 1
  cases h : delayedElemCall sys cc l.length e <;> simp [h]

lemma delayedStays_sublist : (delayedStays sys lxc l).Sublist l := by
  induction l using List.reverseRecOn with
  | nil => exact List.Sublist.refl _
  | append_singleton l e ih =>
    rw [delayedStays_concat]
    apply ih.append
    split_ifs
    · exact List.Sublist.refl _
    · exact List.nil_sublist _

end Pass

/-! ### Starts and cleanups -/

/-- A start queues everything, unless it could not mount the disks or the guest is disabled. -/
lemma containerStart_delayed (sys : StartSys) (cc : ContainerConfig) :
    DelayedMove cc (containerStart sys cc).1 ∧ ((containerStart sys cc).2 = 0 →
      (containerStart sys cc).1.fsconfig.delayed = cc.fsconfig.delayed.requeue ∧
        (containerStart sys cc).1.launches = cc.launches + 1 ∧
        (containerStart sys cc).1.runtimeStat.status = .started) := by
  simp only [containerStart, containerStartBody]
  by_cases hd : cc.runtimeStat.status = .disable
  · rw [if_pos hd]
    exact ⟨.keep ⟨rfl, rfl, id⟩, by simp⟩
  · rw [if_neg hd]
    rcases containerStartPreprocessBase_cases sys.mount cc.baseconfig with ⟨h0, -⟩ | hneg
    · simp only [h0, containerSetupDelayedOperation, containerLaunch, lxcutilCreateInstance]
      by_cases hc : sys.create
      · by_cases hst : sys.start
        · simp only [hc, hst]
          exact ⟨.launched rfl rfl rfl, fun _ => ⟨rfl, rfl, rfl⟩⟩
        · simp only [hc, hst]
          exact ⟨.launchFailed rfl rfl rfl, by simp⟩
      · simp only [hc]
        exact ⟨.launchFailed rfl rfl rfl, by simp⟩
    · simp only [hneg]
      exact ⟨.keep ⟨rfl, rfl, id⟩, by simp⟩

lemma execRunWorkerGuest_delayed (sys : RunWorkerSys)
    (hn : cc.runtimeStat.status = .notStarted) : DelayedMove cc (execRunWorkerGuest sys cc) := by
  have hcleanup : (containerCleanup sys.cleanup cc 200).runtimeStat.status ≠ .started := by
    simp [hn]
  simp only [execRunWorkerGuest]
  split_ifs
  · exact .cleaned rfl rfl (KeepsDelayed.statusAfterExecute_ne_started _)
  · exact .cleaned rfl rfl hcleanup
  · exact .cleaned rfl rfl hcleanup
  · exact .cleaned rfl rfl (by simp [ContainerConfig.setStatus])
  · exact .cleaned rfl rfl hcleanup

lemma execDisableGuest_delayed (sys : CleanupSys) (cc : ContainerConfig) :
    DelayedMove cc (execDisableGuest sys cc) :=
  .cleaned rfl rfl (by simp [execDisableGuest, ContainerConfig.setStatus, ContainerConfig.record])

/-- A step of a guest is one of these moves. -/
lemma GuestStep.delayedMove (h : GuestStep P cc cc') : DelayedMove cc cc' := by
  cases h with
  | start sys => exact (containerStart_delayed sys cc).1
  | runWorker sys _ h hn => exact execRunWorkerGuest_delayed sys hn
  | disable sys => exact execDisableGuest_delayed sys cc
  | delayed sys => exact .mounted sys rfl
  | monitor source => exact .keep ⟨rfl, rfl, id⟩
  | enable => exact .keep (.enable cc)
  | exited s => exact .keep (.exited s cc)
  | finishWorker delete => exact .keep (.finishWorker delete cc)
  | workerDone exec => exact .keep (.workerDone exec cc)
  | netif attach nllist => exact .keep (.netif attach nllist cc)
  | shutdownRequest sys s => exact .keep (.shutdownRequest sys s cc)
  | rebootRequest sys s => exact .keep (.rebootRequest sys s cc)
  | forcekill initPid => exact .keep (.forcekill initPid cc)
  | runTimeout initPid now => exact .keep (.runTimeout initPid now cc)
  | shutdownTimeout initPid now => exact .keep (.shutdownTimeout initPid now cc)
  | shutdownCheck delete => exact .keep (.shutdownCheck delete cc)
  | schedule sys key => exact .keep (.schedule sys key cc)

/-- In a reachable state the delayed mounts of every guest are those of its configuration after such
moves. -/
lemma ReachableFrom.delayedMoves {cs₀ cs : Containers n} (h : ReachableFrom cs₀ cs) (i : Fin n) :
    Relation.ReflTransGen DelayedMove (cs₀.containers i) (cs.containers i) :=
  Relation.ReflTransGen.mono (fun _ _ hstep => GuestStep.delayedMove hstep) _ _ (h.steps i)

end ContainerManager

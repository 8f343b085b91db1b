import ContainerManager.Properties.Answers

/-!
# The recovery of a busy device

`mount_disk_once` returns -1 for every failure, so the worker checks or formats a device also when
its last mount failed because the device is busy: it could not be detached, or was busy again
afterwards. The other rules of the recovery hold for every run of the worker.
-/

namespace ContainerManager

/-! ### The rules of the recovery -/

/-- The mount and unmount calls of an action. -/
def WorkerAction.calls : WorkerAction → List MountCall
  | .mount _ _ calls => calls
  | .unmount _ _ calls => calls
  | _ => []

/-- The result of a call that mounts the device. -/
def MountCall.mountResult (dev : String) : MountCall → Option SysResult
  | .mount source _ _ _ _ result => if source = some dev then some result else none
  | _ => none

/-- How the last `mount` of the device ended. -/
def lastMountResult (dev : String) (trace : List WorkerAction) : Option SysResult :=
  ((trace.flatMap WorkerAction.calls).filterMap (MountCall.mountResult dev)).getLast?

/-- What a recovery child is forked for. -/
def WorkerAction.recovery : WorkerAction → Option (ℕ × DiskRedundancyType)
  | .recover index redundancy => some (index, redundancy)
  | _ => none

/-- The element that the host cancels while a child is waited for: the wait goes on over timeouts
and interruptions, and the request is what the poll after them has to read. -/
def cancelRequest (polls : List PollResult) : Option ℕ :=
  match polls.find? fun p => p ≠ .timeout ∧ p ≠ .intr with
  | some (.control (some (index, request))) => if request = 1 then some index else none
  | _ => none

/-- No recovery child is forked for an element after a request to cancel it was read, which happens
while an earlier child is waited for. -/
def RespectsCancel (sys : WorkerSys) (trace : List WorkerAction) : Prop :=
  trace.Pairwise fun a b => ∀ child canceled redundancy redundancy',
    a = .recover child redundancy → cancelRequest (sys.poll child) = some canceled →
      b ≠ .recover canceled redundancy'

/-- What the worker thread keeps to when it forks recovery children. -/
structure RecoversSafely (sys : WorkerSys) (elems : List MountElem) : Prop where
  /-- the last `mount` of the device before failed, and the device was not busy -/
  notBusy : ∀ before after index redundancy,
    containerManagerWorkerThread sys elems = before ++ .recover index redundancy :: after →
      ∀ e ∈ elems, e.index = index → lastMountResult e.blockdev.1 before = some .error
  /-- the element is waiting, was not mounted, and is one to be checked or formatted -/
  waiting : ∀ index redundancy,
    .recover index redundancy ∈ containerManagerWorkerThread sys elems →
      ∃ e ∈ elems, e.index = index ∧ e.redundancy = redundancy ∧ e.Recoverable ∧
        e.state = .queued ∧ ¬ (sys.first index 0).Succeeds
  once : (((containerManagerWorkerThread sys elems).filterMap WorkerAction.recovery).map
    Prod.fst).Nodup
  canceled : RespectsCancel sys (containerManagerWorkerThread sys elems)
  left : ∀ left ∈ (managerWorkerExec sys (managerMountOperation sys sys.first false elems).1).1,
    ∀ e ∈ left, e.state ≠ .queued

/-! ### Attempts at a device -/

/-- The device stays busy: it could not be detached, or was busy again afterwards. -/
def MountSys.StaysBusy (sys : MountSys) : Prop :=
  sys.mount = .ebusy ∧ (sys.umount2 ≠ .ok ∨ sys.remount = .ebusy)

instance (sys : MountSys) : Decidable sys.Succeeds :=
  inferInstanceAs (Decidable (_ ∨ _))

/-- The devices that the first pass attempts for the element, with what it meets there. -/
def MountElem.deviceAttempts (first : ℕ → ℕ → MountSys) (e : MountElem) :
    List (Option String × MountSys) :=
  if e.isMounted then []
  else
    match e.redundancy with
    | .failover =>
      if (first e.index 0).Succeeds then [(some e.blockdev.1, first e.index 0)]
      else [(some e.blockdev.1, first e.index 0), (e.blockdev.2, first e.index 1)]
    | .fsck | .mkfs => [(some e.blockdev.1, first e.index 0)]
    | .ab => []

/-- The last attempt of the first pass at the device. -/
def lastDeviceAttempt (first : ℕ → ℕ → MountSys) (elems : List MountElem) (dev : String) :
    Option MountSys :=
  (((elems.flatMap (MountElem.deviceAttempts first)).filter fun a => a.1 = some dev).getLast?).map
    Prod.snd

/-- For a waiting element to be checked or formatted that could not be mounted, the last attempt at
its device did not leave it busy or mounted. -/
def NoneStaysBusy (first : ℕ → ℕ → MountSys) (elems : List MountElem) : Prop :=
  ∀ e ∈ elems, e.Recoverable → e.state = .queued → ¬ (first e.index 0).Succeeds →
    ∀ attempt, lastDeviceAttempt first elems e.blockdev.1 = some attempt →
      ¬ attempt.StaysBusy ∧ ¬ attempt.Succeeds

/-- The results of the one or two `mount` calls of an attempt. -/
def MountSys.mountResults (sys : MountSys) : List SysResult :=
  if sys.mount = .ebusy ∧ sys.umount2 = .ok then [.ebusy, sys.remount] else [sys.mount]

lemma MountSys.getLast_mountResults (sys : MountSys) :
    sys.mountResults.getLast? = some .error ↔ ¬ sys.StaysBusy ∧ ¬ sys.Succeeds := by
  obtain ⟨mount, umount2, remount⟩ := sys
  cases mount <;> cases umount2 <;> cases remount <;>
    simp [mountResults, StaysBusy, Succeeds]

@[simp] lemma MountCall.mountResult_mount (dev : String) (source target fstype : Option String)
    (mountflags : List MountFlag) (data : Option String) (result : SysResult) :
    mountResult dev (.mount source target fstype mountflags data result) =
      if source = some dev then some result else none := rfl

@[simp] lemma MountCall.mountResult_umount (dev : String) (target : Option String)
    (result : SysResult) : mountResult dev (.umount target result) = none := rfl

@[simp] lemma MountCall.mountResult_umount2 (dev : String) (target : Option String)
    (result : SysResult) : mountResult dev (.umount2 target result) = none := rfl

lemma mountDevice_mountResults (sys : MountSys) (dev : String) (source : Option String)
    (a : MountArgs) :
    (mountDevice sys source a).2.filterMap (MountCall.mountResult dev) =
      if source = some dev then sys.mountResults else [] := by
  obtain ⟨mount, umount2, remount⟩ := sys
  by_cases hs : source = some dev <;> cases mount <;> cases umount2 <;>
    simp [mountDevice, List.filterMap_cons, MountSys.mountResults, hs]

lemma unmountRetry_mountResults (sys : UnmountSys) (dev : String) (path : Option String)
    (timeoutAt : ℤ) (count left : ℕ) :
    (unmountRetry sys path timeoutAt count left).2.filterMap (MountCall.mountResult dev) = [] := by
  induction left generalizing count with
  | zero => rfl
  | succ left ih =>
    simp only [unmountRetry]
    split
    · rfl
    · rfl
    · split_ifs
      · rfl
      · rw [List.filterMap_cons, MountCall.mountResult_umount]
        exact ih (count + 1)

lemma unmountDisk_mountResults (sys : UnmountSys) (dev : String) (path : Option String)
    (timeoutAt : ℤ) (retryMax : ℕ) :
    (unmountDisk sys path timeoutAt retryMax).2.filterMap (MountCall.mountResult dev) = [] := by
  simp only [unmountDisk]
  split_ifs
  · exact unmountRetry_mountResults sys dev path timeoutAt 0 retryMax
  · rw [List.filterMap_append, unmountRetry_mountResults]
    rfl

/-- Without an unmount, the calls of the first pass for an element are those of its attempts. -/
lemma firstActions_calls (sys : WorkerSys) {e : MountElem} (hm : e.isMounted = false) :
    (firstActions sys e).flatMap WorkerAction.calls =
      (e.deviceAttempts sys.first).flatMap fun a => (mountDevice a.2 a.1
        ⟨some e.mountTo, some e.filesystem, extradiskMntflag e.mode, e.option⟩).2 := by
  have hok := mountDevice_succeeds (sys.first e.index 0) (some e.blockdev.1)
    ⟨some e.mountTo, some e.filesystem, extradiskMntflag e.mode, e.option⟩
  simp only [firstActions, managerMountElem, MountElem.deviceAttempts, hm, Bool.false_eq_true,
    if_false]
  cases hr : e.redundancy with
  | failover =>
    by_cases hs : (sys.first e.index 0).Succeeds
    · rw [iff_true_right hs] at hok
      simp [mountDiskFailover, hok, hs, WorkerAction.calls]
    · rw [iff_false_right hs, Bool.not_eq_true] at hok
      simp [mountDiskFailover, hok, hs, WorkerAction.calls]
  | fsck =>
    dsimp only
    split_ifs <;> simp [mountDiskOnce, WorkerAction.calls]
  | mkfs =>
    dsimp only
    split_ifs <;> simp [mountDiskOnce, WorkerAction.calls]
  | ab => rfl

lemma flatMap_filter_eq {α β : Type*} (p : α → Bool) (f : α → List β) (l : List α) :
    (l.filter p).flatMap f = l.flatMap fun a => if p a then f a else [] := by
  induction l with
  | nil => rfl
  | cons a l ih => by_cases h : p a <;> simp [h, ih]

/-- The first pass mounts the device at the attempts of the element. -/
lemma firstActions_mountResults (sys : WorkerSys) (dev : String) (e : MountElem) :
    ((firstActions sys e).flatMap WorkerAction.calls).filterMap (MountCall.mountResult dev) =
      ((e.deviceAttempts sys.first).filter fun a => a.1 = some dev).flatMap
        fun a => a.2.mountResults := by
  cases hm : e.isMounted with
  | true =>
    simp [firstActions, managerMountElem, MountElem.deviceAttempts, hm, WorkerAction.calls,
      unmountDisk_mountResults]
  | false =>
    rw [firstActions_calls sys hm, List.filterMap_flatMap, flatMap_filter_eq]
    simp [mountDevice_mountResults]

lemma MountSys.mountResults_ne_nil (sys : MountSys) : sys.mountResults ≠ [] := by
  simp only [mountResults]
  split_ifs <;> simp

/-- The last `mount` of a device in the first pass is that of the last attempt. -/
lemma lastMountResult_first (sys : WorkerSys) (dev : String) (elems : List MountElem) :
    lastMountResult dev (elems.flatMap (firstActions sys)) =
      (lastDeviceAttempt sys.first elems dev).bind fun attempt =>
        attempt.mountResults.getLast? := by
  simp only [lastMountResult, lastDeviceAttempt]
  rw [List.flatMap_assoc, List.filterMap_flatMap]
  simp only [firstActions_mountResults]
  rw [← List.flatMap_assoc, ← List.filter_flatMap, List.getLast?_flatMap,
    List.getLast?_eq_head?_reverse, Option.bind_map]
  cases ((elems.flatMap (MountElem.deviceAttempts sys.first)).filter
      fun a => decide (a.1 = some dev)).reverse with
  | nil => rfl
  | cons a l =>
    obtain ⟨result, hresult⟩ :=
      Option.ne_none_iff_exists'.mp (mt List.getLast?_eq_none_iff.mp a.2.mountResults_ne_nil)
    simp [hresult]

/-- An element that is attempted has a last attempt at its device. -/
lemma lastDeviceAttempt_isSome (first : ℕ → ℕ → MountSys) {elems : List MountElem} {e : MountElem}
    (he : e ∈ elems) (hr : e.Recoverable) :
    ∃ attempt, lastDeviceAttempt first elems e.blockdev.1 = some attempt := by
  have hmem : (some e.blockdev.1, first e.index 0) ∈ e.deviceAttempts first := by
    simp only [MountElem.deviceAttempts, hr.1]
    rcases hr.2 with h | h <;> simp [h]
  have hne : (elems.flatMap (MountElem.deviceAttempts first)).filter
      (fun a => a.1 = some e.blockdev.1) ≠ [] := by
    apply List.ne_nil_of_mem
    exact List.mem_filter.mpr ⟨List.mem_flatMap.mpr ⟨e, he, hmem⟩, by simp⟩
  obtain ⟨a, ha⟩ := Option.ne_none_iff_exists'.mp (mt List.getLast?_eq_none_iff.mp hne)
  exact ⟨a.2, by simp [lastDeviceAttempt, ha]⟩

/-- The last `mount` of the device before the recovery failed, and the device was not busy, exactly
when the last attempt says so. -/
lemma lastMountResult_first_iff {sys : WorkerSys} {elems : List MountElem} {e : MountElem}
    (he : e ∈ elems) (hr : e.Recoverable) :
    lastMountResult e.blockdev.1 (elems.flatMap (firstActions sys)) = some .error ↔
      ∀ attempt, lastDeviceAttempt sys.first elems e.blockdev.1 = some attempt →
        ¬ attempt.StaysBusy ∧ ¬ attempt.Succeeds := by
  obtain ⟨attempt, ha⟩ := lastDeviceAttempt_isSome sys.first he hr
  rw [lastMountResult_first, ha]
  simp [MountSys.getLast_mountResults]

/-! ### The loop of the recovery -/

/-- While an element still waits for its child, the poll loop gives the request it read. -/
lemma managerWorkerPoll_request {polls : List PollResult} {wreq : Option ℕ}
    (h : managerWorkerPoll false polls = some wreq) : cancelRequest polls = wreq := by
  induction polls with
  | nil => simp [managerWorkerPoll] at h
  | cons p polls ih =>
    cases p with
    | timeout =>
      simp only [managerWorkerPoll, Bool.false_eq_true, if_false] at h
      rw [← ih h]
      rfl
    | intr =>
      rw [← ih h]
      rfl
    | control read =>
      cases read with
      | none => exact Option.some.inj h
      | some read =>
        by_cases hone : read.2 = 1 <;> simpa [managerWorkerPoll, cancelRequest, hone] using h
    | childExit | error => exact Option.some.inj h

/-- The current element waits for its child, so not all are completed. -/
lemma allCompleted_of_queued {visited rest : List MountElem} {e : MountElem}
    (hq : e.state = .queued) : allCompleted (visited ++ e :: rest) = false := by
  simp [allCompleted, hq]

/-- What the loop of the recovery does, from a place in it. -/
structure ExecLoopOutcome (sys : WorkerSys) (canceled : List ℕ) (visited elems : List MountElem)
    (r : Option (List MountElem) × List WorkerAction) : Prop where
  actions : ∀ a ∈ r.2, (∃ index redundancy, a = .recover index redundancy) ∨
    ∃ index, a = .respond ⟨index, 0, 1⟩
  recovery : (r.2.filterMap WorkerAction.recovery).Sublist
    ((elems.filter fun e => e.state = .queued).map fun e => (e.index, e.redundancy))
  skipped : ∀ index ∈ canceled, ∀ redundancy, .recover index redundancy ∉ r.2
  respects : RespectsCancel sys r.2
  left : (∀ e ∈ visited, e.state ≠ .queued) → ∀ left ∈ r.1, ∀ e ∈ left, e.state ≠ .queued

/-- An element that is still waiting was not canceled. -/
lemma MountElem.cancelIf_queued {canceled : List ℕ} {e : MountElem} :
    (e.cancelIf canceled).state = .queued ↔ e.index ∉ canceled ∧ e.state = .queued := by
  by_cases h : e.index ∈ canceled <;> simp [MountElem.cancelIf, h]

lemma MountElem.cancelIf_of_queued {canceled : List ℕ} {e : MountElem}
    (h : (e.cancelIf canceled).state = .queued) : e.cancelIf canceled = e := by
  simp [MountElem.cancelIf, (MountElem.cancelIf_queued.mp h).1]

lemma allCompleted_not_queued {elems : List MountElem} (h : allCompleted elems = true) :
    ∀ e ∈ elems, e.state ≠ .queued := by
  intro e he hq
  have hstate := List.all_eq_true.mp h e he
  simp [hq] at hstate

/-- After its child the element is complete or canceled. -/
lemma MountElem.recovered_state (e : MountElem) :
    (if e.state ≠ .canceled then { e with state := .complete } else e).state ≠ .queued := by
  split_ifs with h
  · simp
  · rw [not_not] at h
    simp [h]

/-- Nor is an element that was visited before. -/
lemma visited_not_queued {canceled : List ℕ} {visited : List MountElem} {e : MountElem}
    (he : e.state ≠ .queued) (h : ∀ e ∈ visited, e.state ≠ .queued) :
    ∀ e' ∈ visited.map (MountElem.cancelIf canceled) ++ [e], e'.state ≠ .queued := by
  intro e' he'
  rcases List.mem_append.mp he' with he' | he'
  · obtain ⟨v, hv, rfl⟩ := List.mem_map.mp he'
    intro hq
    exact h v hv (MountElem.cancelIf_queued.mp hq).2
  · rw [List.mem_singleton.mp he']
    exact he

namespace ExecLoopOutcome

variable {sys : WorkerSys} {canceled : List ℕ} {visited rest : List MountElem} {e : MountElem}
  {r : Option (List MountElem) × List WorkerAction}

/-- The current element is not forked for. -/
lemma skip {e' : MountElem} (h : ExecLoopOutcome sys canceled (visited ++ [e']) rest r)
    (he' : e'.state ≠ .queued) : ExecLoopOutcome sys canceled visited (e :: rest) r := by
  refine ⟨h.actions, h.recovery.trans ?_, h.skipped, h.respects, ?_⟩
  · exact ((List.sublist_cons_self e rest).filter _).map _
  · intro hv
    apply h.left
    intro e'' hm
    rcases List.mem_append.mp hm with hm | hm
    · exact hv e'' hm
    · rw [List.mem_singleton.mp hm]
      exact he'

lemma filter_queued_cons (hq : e.state = .queued) :
    ((e :: rest).filter fun e => e.state = .queued).map (fun e => (e.index, e.redundancy)) =
      (e.index, e.redundancy) ::
        (rest.filter fun e => e.state = .queued).map fun e => (e.index, e.redundancy) := by
  simp [hq]

/-- The child is forked, and its poll fails. -/
lemma pollFailed (hq : e.state = .queued) (hnot : e.index ∉ canceled) :
    ExecLoopOutcome sys canceled visited (e :: rest) (none, [.recover e.index e.redundancy]) := by
  refine ⟨by simp, ?_, ?_, by simp [RespectsCancel], by simp⟩
  · rw [filter_queued_cons hq]
    exact (List.nil_sublist _).cons_cons _
  · intro index hi redundancy hm
    simp only [List.mem_singleton, WorkerAction.recover.injEq] at hm
    exact hnot (hm.1 ▸ hi)

/-- The child is forked first, then a request that came in the meantime is answered, and then the
rest follows. -/
lemma forked {wreq : Option ℕ} {visited' : List MountElem}
    (h : ExecLoopOutcome sys (wreq.toList ++ canceled) visited' rest r) (hq : e.state = .queued)
    (hnot : e.index ∉ canceled) (hread : cancelRequest (sys.poll e.index) = wreq)
    (hv' : (∀ e ∈ visited, e.state ≠ .queued) → ∀ e ∈ visited', e.state ≠ .queued) :
    ExecLoopOutcome sys canceled visited (e :: rest)
      (r.1, (.recover e.index e.redundancy ::
        wreq.toList.map fun index => .respond ⟨index, 0, 1⟩) ++ r.2) := by
  refine ⟨?_, ?_, ?_, ?_, fun hv => h.left (hv' hv)⟩
  · intro a ha
    rcases List.mem_append.mp ha with ha | ha
    · rcases List.mem_cons.mp ha with rfl | ha
      · exact Or.inl ⟨_, _, rfl⟩
      · obtain ⟨index, -, rfl⟩ := List.mem_map.mp ha
        exact Or.inr ⟨index, rfl⟩
    · exact h.actions a ha
  · have hnone : (wreq.toList.map fun index =>
        WorkerAction.respond ⟨index, 0, 1⟩).filterMap WorkerAction.recovery = [] := by
      simp [List.filterMap_map, WorkerAction.recovery, Function.comp_def]
    rw [filter_queued_cons hq, List.filterMap_append, List.filterMap_cons, hnone]
    exact h.recovery.cons_cons _
  · intro index hi redundancy hm
    rcases List.mem_append.mp hm with hm | hm
    · rcases List.mem_cons.mp hm with hm | hm
      · exact hnot ((WorkerAction.recover.inj hm).1 ▸ hi)
      · simp at hm
    · exact h.skipped index (List.mem_append_right _ hi) redundancy hm
  · simp only [RespectsCancel]
    rw [List.cons_append, List.pairwise_cons, List.pairwise_append, List.pairwise_map]
    refine ⟨?_, ?_, h.respects, ?_⟩
    · -- the request that was read names an element that is skipped from here on
      intro b hb child index redundancy redundancy' hchild hindex hrecover
      obtain ⟨rfl, -⟩ := WorkerAction.recover.inj hchild
      rw [hrecover] at hb
      rcases List.mem_append.mp hb with hb | hb
      · simp at hb
      · refine h.skipped index ?_ redundancy' hb
        simp [← hread, hindex]
    · cases wreq <;> simp
    · intro a ha b hb child index redundancy redundancy' hchild
      obtain ⟨index', -, rfl⟩ := List.mem_map.mp ha
      simp at hchild

/-- Nothing is left to do. -/
lemma allDone {left : List MountElem} (h : allCompleted left = true) :
    ExecLoopOutcome sys canceled visited rest (some left, []) := by
  refine ⟨by simp, List.nil_sublist _, by simp, by simp [RespectsCancel], ?_⟩
  intro _ l hl
  obtain rfl := Option.some.inj hl
  exact allCompleted_not_queued h

end ExecLoopOutcome

lemma execLoop_outcome (sys : WorkerSys) (canceled : List ℕ) (visited elems : List MountElem) :
    ExecLoopOutcome sys canceled visited elems
      (managerWorkerExecLoop sys canceled visited elems) := by
  induction elems generalizing canceled visited with
  | nil =>
    refine ⟨by simp [managerWorkerExecLoop], by simp [managerWorkerExecLoop],
      by simp [managerWorkerExecLoop], by simp [managerWorkerExecLoop, RespectsCancel], ?_⟩
    intro hv left hl
    obtain rfl : visited = left := Option.some.inj hl
    exact hv
  | cons e rest ih =>
    simp only [managerWorkerExecLoop]
    split_ifs with hq hfork
    · exact (ih canceled _).skip hq
    · rw [not_not] at hq
      obtain ⟨hnot, hqueued⟩ := MountElem.cancelIf_queued.mp hq
      rw [MountElem.cancelIf_of_queued hq]
      split
      · exact .pollFailed hqueued hnot
      · rename_i wreq hpoll
        rw [allCompleted_of_queued hqueued] at hpoll
        have hread := managerWorkerPoll_request hpoll
        generalize e.cancelIf (wreq.toList ++ canceled) = e₁
        have hstate := e₁.recovered_state
        generalize (if e₁.state ≠ .canceled then { e₁ with state := .complete } else e₁) = e₂
          at hstate ⊢
        split_ifs with hall
        · have hdone : ExecLoopOutcome sys (wreq.toList ++ canceled)
              (visited.map (MountElem.cancelIf (wreq.toList ++ canceled)) ++ [e₂]) rest
              (some _, []) := .allDone hall
          have hbreak := hdone.forked hqueued hnot hread (visited_not_queued hstate)
          rwa [List.append_nil] at hbreak
        · exact (ih (wreq.toList ++ canceled) _).forked hqueued hnot hread
            (visited_not_queued hstate)
    · exact (ih canceled _).skip (by simp)

/-- When every child is forked and exits, there is one for every waiting element. -/
lemma execLoop_recovers_queued (sys : WorkerSys) (hfork : ∀ k, sys.fork k = true)
    (hpoll : ∀ k, sys.poll k = [.childExit]) (visited elems : List MountElem) :
    ∀ e ∈ elems, e.state = .queued →
      .recover e.index e.redundancy ∈ (managerWorkerExecLoop sys [] visited elems).2 := by
  induction elems generalizing visited with
  | nil => simp
  | cons e rest ih =>
    intro e' he' hq
    have hnil : ∀ e : MountElem, e.cancelIf [] = e := by simp [MountElem.cancelIf]
    simp only [managerWorkerExecLoop, hnil, hfork, hpoll, managerWorkerPoll, Option.toList_none,
      List.nil_append, List.map_nil, not_true, if_false]
    generalize (if e.state ≠ .canceled then { e with state := .complete } else e) = e₂
    by_cases hskip : e.state ≠ .queued
    · rw [if_pos hskip]
      rcases List.mem_cons.mp he' with rfl | he'
      · exact absurd hq hskip
      · exact ih _ e' he' hq
    · rw [if_neg hskip]
      rcases List.mem_cons.mp he' with rfl | he'
      · split_ifs <;> simp
      · split_ifs with hall
        · exfalso
          refine allCompleted_not_queued hall e' ?_ hq
          simpa [hnil] using Or.inr (Or.inr he')
        · exact List.mem_append_right _ (ih _ e' he' hq)

/-! ### The thread -/

/-- A mount pass forks no child. -/
lemma managerMountElem_actions (sys : WorkerSys) (mount : ℕ → ℕ → MountSys) (isRetake : Bool)
    (e : MountElem) : ∀ a ∈ (managerMountElem sys mount isRetake e).2, a.recovery = none := by
  have o := managerMountElem_outcome sys mount isRetake e
  generalize managerMountElem sys mount isRetake e = r at o ⊢
  cases o with
  | unmounted ret | answered ret =>
    by_cases hret : ret < 0 <;> simp [WorkerAction.recovery, hret]
  | unsupported => simp [WorkerAction.recovery]
  | kept => simp [WorkerAction.recovery]

/-- After the recovery the thread forks no child. -/
lemma laterActions_exec (sys : WorkerSys) (kept : List MountElem) :
    ∃ tail, laterActions sys kept = (managerWorkerExec sys kept).2 ++ tail ∧
      ∀ a ∈ tail, a.recovery = none := by
  simp only [laterActions]
  split_ifs with hk
  · subst hk
    exact ⟨[.close], rfl, by simp [WorkerAction.recovery]⟩
  · split
    · exact ⟨[], by simp, by simp⟩
    · rename_i left hleft
      refine ⟨_, List.append_assoc _ _ _, ?_⟩
      intro a ha
      rw [managerMountOperation_eq] at ha
      rcases List.mem_append.mp ha with ha | ha
      · obtain ⟨e, -, he⟩ := List.mem_flatMap.mp ha
        exact managerMountElem_actions sys sys.retake true e a he
      · rw [List.mem_singleton.mp ha]
        rfl

/-- Where an element stands that is not in the first part. -/
lemma before_of_not_mem_left {α : Type*} {s t before after : List α} {a : α}
    (h : s ++ t = before ++ a :: after) (hs : a ∉ s) :
    ∃ t₁, before = s ++ t₁ ∧ t = t₁ ++ a :: after := by
  rcases List.append_eq_append_iff.mp h with ⟨t₁, hbefore, ht⟩ | ⟨s₂, rfl, hcons⟩
  · exact ⟨t₁, hbefore, ht⟩
  · cases s₂ with
    | nil => exact ⟨[], by simp, hcons.symm⟩
    | cons a' s₂ =>
      obtain ⟨rfl, -⟩ := List.cons.inj hcons
      simp at hs

/-- Where an element stands that is not in the last part. -/
lemma before_of_not_mem_right {α : Type*} {s t before after : List α} {a : α}
    (h : s ++ t = before ++ a :: after) (ht : a ∉ t) : ∃ s₂, s = before ++ a :: s₂ := by
  rcases List.append_eq_append_iff.mp h with ⟨t₁, -, rfl⟩ | ⟨s₂, rfl, hcons⟩
  · simp at ht
  · cases s₂ with
    | nil =>
      rw [List.nil_append] at hcons
      rw [← hcons] at ht
      simp at ht
    | cons a' s₂ =>
      obtain ⟨rfl, -⟩ := List.cons.inj hcons
      exact ⟨s₂, rfl⟩

lemma first_actions (sys : WorkerSys) (elems : List MountElem) :
    ∀ a ∈ elems.flatMap (firstActions sys), a.recovery = none := by
  intro a ha
  obtain ⟨e, -, he⟩ := List.mem_flatMap.mp ha
  exact managerMountElem_actions sys sys.first false e a he

/-- The children are forked by the recovery of the elements that the first pass keeps. -/
lemma thread_before_recover {sys : WorkerSys} {elems : List MountElem}
    {before after : List WorkerAction} {index : ℕ} {redundancy : DiskRedundancyType}
    (h : containerManagerWorkerThread sys elems = before ++ .recover index redundancy :: after) :
    ∃ exec₁ exec₂, before = elems.flatMap (firstActions sys) ++ exec₁ ∧
      (managerWorkerExecLoop sys [] [] (keptElems sys elems)).2 =
        exec₁ ++ .recover index redundancy :: exec₂ := by
  obtain ⟨tail, htail, hnone⟩ := laterActions_exec sys (keptElems sys elems)
  rw [containerManagerWorkerThread_eq] at h
  obtain ⟨exec₁, hbefore, hlater⟩ := before_of_not_mem_left h fun hm => by
    have hrec := first_actions sys elems _ hm
    simp [WorkerAction.recovery] at hrec
  rw [htail] at hlater
  obtain ⟨exec₂, hexec⟩ := before_of_not_mem_right hlater fun hm => by
    have hrec := hnone _ hm
    simp [WorkerAction.recovery] at hrec
  exact ⟨exec₁, exec₂, hbefore, hexec⟩

/-- Before a child, only the first pass mounts. -/
lemma lastMountResult_before_recover {sys : WorkerSys} {elems : List MountElem}
    {before after : List WorkerAction} {index : ℕ} {redundancy : DiskRedundancyType}
    (h : containerManagerWorkerThread sys elems = before ++ .recover index redundancy :: after)
    (dev : String) :
    lastMountResult dev before = lastMountResult dev (elems.flatMap (firstActions sys)) := by
  obtain ⟨exec₁, exec₂, rfl, hexec⟩ := thread_before_recover h
  have hcalls : exec₁.flatMap WorkerAction.calls = [] := by
    rw [List.flatMap_eq_nil_iff]
    intro a ha
    have hmem : a ∈ (managerWorkerExecLoop sys [] [] (keptElems sys elems)).2 := by
      rw [hexec]
      exact List.mem_append_left _ ha
    rcases (execLoop_outcome sys [] [] _).actions a hmem with ⟨i, r, rfl⟩ | ⟨i, rfl⟩ <;> rfl
  simp [lastMountResult, hcalls]

/-- A child is forked for a waiting element that could not be mounted. -/
lemma recover_mem_thread {sys : WorkerSys} {elems : List MountElem} {index : ℕ}
    {redundancy : DiskRedundancyType}
    (h : .recover index redundancy ∈ containerManagerWorkerThread sys elems) :
    ∃ e ∈ elems, e.index = index ∧ e.redundancy = redundancy ∧ e.Recoverable ∧
      e.state = .queued ∧ ¬ (sys.first index 0).Succeeds := by
  obtain ⟨before, after, h⟩ := List.append_of_mem h
  obtain ⟨exec₁, exec₂, -, hexec⟩ := thread_before_recover h
  have hrec : (index, redundancy) ∈ (managerWorkerExecLoop sys [] []
      (keptElems sys elems)).2.filterMap WorkerAction.recovery := by
    rw [hexec]
    exact List.mem_filterMap.mpr ⟨_, List.mem_append_right _ List.mem_cons_self, rfl⟩
  obtain ⟨e, he, heq⟩ :=
    List.mem_map.mp ((execLoop_outcome sys [] [] _).recovery.subset hrec)
  obtain ⟨rfl, rfl⟩ := Prod.mk.inj heq
  obtain ⟨hkept, hq⟩ := List.mem_filter.mp he
  obtain ⟨hmem, hr, hs⟩ := mem_keptElems.mp hkept
  exact ⟨e, hmem, rfl, rfl, hr, by simpa using hq, hs⟩

/-- The children of the thread are those of the recovery. -/
lemma recovery_thread (sys : WorkerSys) (elems : List MountElem) :
    (containerManagerWorkerThread sys elems).filterMap WorkerAction.recovery =
      (managerWorkerExecLoop sys [] [] (keptElems sys elems)).2.filterMap
        WorkerAction.recovery := by
  obtain ⟨tail, htail, hnone⟩ := laterActions_exec sys (keptElems sys elems)
  have hfirst : (elems.flatMap (firstActions sys)).filterMap WorkerAction.recovery = [] :=
    List.filterMap_eq_nil_iff.mpr (first_actions sys elems)
  have hlast : tail.filterMap WorkerAction.recovery = [] := List.filterMap_eq_nil_iff.mpr hnone
  rw [containerManagerWorkerThread_eq, htail, List.filterMap_append, List.filterMap_append, hfirst,
    hlast, List.append_nil, List.nil_append]
  rfl

lemma thread_respectsCancel (sys : WorkerSys) (elems : List MountElem) :
    RespectsCancel sys (containerManagerWorkerThread sys elems) := by
  obtain ⟨tail, htail, hnone⟩ := laterActions_exec sys (keptElems sys elems)
  have hfirst : ∀ a ∈ elems.flatMap (firstActions sys), ∀ index redundancy,
      a ≠ .recover index redundancy := by
    rintro a ha index redundancy rfl
    simpa [WorkerAction.recovery] using first_actions sys elems _ ha
  have hlast : ∀ a ∈ tail, ∀ index redundancy, a ≠ .recover index redundancy := by
    rintro a ha index redundancy rfl
    simpa [WorkerAction.recovery] using hnone _ ha
  rw [containerManagerWorkerThread_eq, htail]
  refine List.pairwise_append.mpr ⟨?_, List.pairwise_append.mpr ⟨?_, ?_, ?_⟩, ?_⟩
  · apply List.pairwise_of_forall_mem_list
    intro a ha b hb child canceled redundancy redundancy' hchild
    exact absurd hchild (hfirst a ha child redundancy)
  · exact (execLoop_outcome sys [] [] _).respects
  · apply List.pairwise_of_forall_mem_list
    intro a ha b hb child canceled redundancy redundancy' hchild
    exact absurd hchild (hlast a ha child redundancy)
  · intro a ha b hb child canceled redundancy redundancy' hchild hread
    exact hlast b hb canceled redundancy'
  · intro a ha b hb child canceled redundancy redundancy' hchild
    exact absurd hchild (hfirst a ha child redundancy)

/-- The worker keeps to the rules of the recovery, whatever it meets after the first pass, exactly
when no device stays busy. -/
theorem recovers_safely_iff (sys : WorkerSys) {elems : List MountElem}
    (hn : (elems.map MountElem.index).Nodup) :
    (∀ fork poll, RecoversSafely { sys with fork := fork, poll := poll } elems) ↔
      NoneStaysBusy sys.first elems := by
  constructor
  · intro h e he hr hq hs
    -- every waiting element gets its child
    have hsafe := h (fun _ => true) fun _ => [.childExit]
    generalize hsys : ({ sys with fork := fun _ => true, poll := fun _ => [.childExit] } :
      WorkerSys) = sys' at hsafe
    have hfirst : sys'.first = sys.first := by rw [← hsys]
    have hkept : e ∈ keptElems sys' elems := by
      apply mem_keptElems.mpr
      rw [hfirst]
      exact ⟨he, hr, hs⟩
    have hexec :=
      execLoop_recovers_queued sys' (by simp [← hsys]) (by simp [← hsys]) [] _ e hkept hq
    have hthread : .recover e.index e.redundancy ∈ containerManagerWorkerThread sys' elems := by
      obtain ⟨tail, htail, -⟩ := laterActions_exec sys' (keptElems sys' elems)
      rw [containerManagerWorkerThread_eq, htail]
      exact List.mem_append_right _ (List.mem_append_left _ hexec)
    obtain ⟨before, after, hsplit⟩ := List.append_of_mem hthread
    have hlast := hsafe.notBusy before after _ _ hsplit e he rfl
    rw [lastMountResult_before_recover hsplit, lastMountResult_first_iff he hr, hfirst] at hlast
    exact hlast
  · intro h fork poll
    generalize hsys : ({ sys with fork := fork, poll := poll } : WorkerSys) = sys'
    have hfirst : sys'.first = sys.first := by rw [← hsys]
    rw [← hfirst] at h
    refine ⟨?_, fun _ _ => recover_mem_thread, ?_, thread_respectsCancel sys' elems, ?_⟩
    · intro before after index redundancy hsplit e he hi
      have hmem : .recover index redundancy ∈ containerManagerWorkerThread sys' elems := by
        rw [hsplit]
        exact List.mem_append_right _ List.mem_cons_self
      obtain ⟨e', he', hi', -, hr, hq, hs⟩ := recover_mem_thread hmem
      obtain rfl := List.inj_on_of_nodup_map hn he he' (hi.trans hi'.symm)
      rw [← hi] at hs
      rw [lastMountResult_before_recover hsplit, lastMountResult_first_iff he hr]
      exact h e he hr hq hs
    · rw [recovery_thread]
      have hsub := (execLoop_outcome sys' [] [] (keptElems sys' elems)).recovery.map Prod.fst
      refine hn.sublist (hsub.trans ?_)
      rw [List.map_map]
      exact (List.filter_sublist.trans List.filter_sublist).map _
    · rw [managerMountOperation_eq]
      intro left hleft e he
      obtain ⟨left', hl, rfl⟩ := Option.map_eq_some_iff.mp hleft
      exact (execLoop_outcome sys' [] [] _).left (by simp) left' hl e (List.mem_of_mem_filter he)

/-- The manager's disks, handed to the worker. -/
def workerDisks : List MountElem := managerDisks.map MountElem.workerCopy

/-- A disk whose `mount` fails with another error is not busy. -/
lemma noneStaysBusy_workerDisks : NoneStaysBusy workerRetakes.first workerDisks := by
  intro e he hr hq hs attempt ha
  have hlast : lastDeviceAttempt workerRetakes.first workerDisks "/dev/mmcblk1p11" =
      some ⟨.error, .ok, .ok⟩ := rfl
  rcases List.mem_pair.mp he with rfl | rfl
  · rcases hr.2 with h | h <;> cases h
  · obtain rfl := Option.some.inj (hlast.symm.trans ha)
    simp [MountSys.StaysBusy, MountSys.Succeeds]

theorem recovers_safely_iff_workerDisks :
    NoneStaysBusy workerRetakes.first workerDisks ∧
      ∀ fork poll, RecoversSafely { workerRetakes with fork := fork, poll := poll } workerDisks :=
  ⟨noneStaysBusy_workerDisks,
    (recovers_safely_iff workerRetakes (by decide)).mpr noneStaysBusy_workerDisks⟩

/-- A worker that finds the second disk busy, and cannot detach it. -/
def workerBusy : WorkerSys :=
  { workerOk with first := fun k _ => if k = 1 then ⟨.ebusy, .error, .ok⟩ else mountOk }

/-- The busy disk is checked. -/
theorem busy_disk_recovered : ¬ RecoversSafely workerBusy workerDisks := by
  intro h
  have hlast := h.notBusy
    ((containerManagerWorkerThread workerBusy workerDisks).takeWhile fun a => a.recovery = none)
    ((containerManagerWorkerThread workerBusy workerDisks).drop 4) 1 .fsck (by decide)
    (workerDisks.getLast (by decide)) (by decide) rfl
  exact absurd hlast (by decide)

end ContainerManager

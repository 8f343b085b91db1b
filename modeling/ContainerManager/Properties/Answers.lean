import ContainerManager.Operations.Exchange
import ContainerManager.System

/-!
# One answer for each dispatched disk

The worker thread answers every dispatched element once, and the host then completes the operation,
exactly when no recoverable element fails its first mount: the retaken pass answers none.
-/

namespace ContainerManager

/-! ### Answered once -/

/-- The trace answers each of the elements once, before it closes the socket, and the answer tells
whether the last attempt for the element succeeded. -/
structure AnswersOnce (elems : List MountElem) (trace : List WorkerAction) : Prop where
  closes : ∃ acts, trace = acts ++ [.close] ∧ .close ∉ acts
  once : ((responses trace).map WorkerResponse.index).Perm (elems.map MountElem.index)
  result : ∀ wres ∈ responses trace, wres.result = 0 ↔ Succeeded trace wres.index

/-- Whatever order the worker at place `k` and the polls of the host run in: when the worker has
ended and every packet was read, the operation is completed and some poll returned 1. -/
def Completes (cmo : ManagerOperation) (k : ℕ) : Prop :=
  ∀ as, let s := Transition.run exchangeStep (cmo, []) as
    (s.1.threads[k]?).map WorkerThread.todo = some [] →
    (∀ storage, s.1.storage = some storage → storage.packets = []) →
      (∀ e ∈ s.1.mountList, e.isDispatched = false) ∧ s.1.storage = none ∧ 1 ∈ s.2

/-- The dispatch function of an operation. -/
def OperationKind.dispatch : OperationKind → DispatchSys → ManagerOperation → ManagerOperation × ℤ
  | .launch => managerOperationDelayedLaunch
  | .terminate => managerOperationDelayedTerminate

lemma OperationKind.dispatch_eq (kind : OperationKind) (sys : DispatchSys)
    (cmo : ManagerOperation) :
    kind.dispatch sys cmo = managerOperationDispatch kind kind.selects sys cmo := by
  cases kind <;> rfl

/-- The state in which an operation is dispatched: the indexes tell the elements apart, an element
that is still marked is dispatched again, and older worker threads belong to older dispatches. -/
structure Dispatchable (kind : OperationKind) (cmo : ManagerOperation) : Prop where
  nodup : (cmo.mountList.map MountElem.index).Nodup
  marked : ∀ e ∈ cmo.mountList, e.isDispatched = true → kind.selects e = true
  threads : ∀ t ∈ cmo.threads, t.serial < cmo.dispatches

/-- The worker thread that the dispatch starts answers every dispatched element once. -/
def WorkerAnswers (kind : OperationKind) (sys : DispatchSys) (cmo : ManagerOperation) : Prop :=
  ∃ thread, (kind.dispatch sys cmo).1.threads[cmo.threads.length]? = some thread ∧
    AnswersOnce (cmo.mountList.filter kind.selects) thread.todo

/-- Every recoverable element that is dispatched is mounted at the first attempt. -/
def FirstMountsSucceed (kind : OperationKind) (sys : WorkerSys) (cmo : ManagerOperation) : Prop :=
  ∀ e ∈ cmo.mountList, kind.selects e = true → e.Recoverable → (sys.first e.index 0).Succeeds

/-! ### The trace -/

variable {kind : OperationKind} {sys : DispatchSys} {cmo : ManagerOperation}

lemma dispatchCopies_index (select : MountElem → Bool) (l : List MountElem) :
    (dispatchCopies select l).map MountElem.index = (l.filter select).map MountElem.index := by
  rw [dispatchCopies, List.map_map]
  rfl

lemma dispatchCopies_nodup (select : MountElem → Bool) {l : List MountElem}
    (h : (l.map MountElem.index).Nodup) :
    ((dispatchCopies select l).map MountElem.index).Nodup := by
  rw [dispatchCopies_index]
  exact h.sublist (List.Sublist.map _ List.filter_sublist)

/-- Nothing is kept for the recovery exactly when the first mounts succeed. -/
lemma keptElems_dispatchCopies (sys : WorkerSys) :
    keptElems sys (dispatchCopies kind.selects cmo.mountList) = [] ↔
      FirstMountsSucceed kind sys cmo := by
  rw [List.eq_nil_iff_forall_not_mem]
  constructor
  · intro h e he hs hr
    by_contra hf
    refine h e.workerCopy (mem_keptElems.mpr ⟨?_, hr, hf⟩)
    exact List.mem_map_of_mem (List.mem_filter.mpr ⟨he, hs⟩)
  · intro h e he
    obtain ⟨hmem, hr, hf⟩ := mem_keptElems.mp he
    obtain ⟨e, hsel, rfl⟩ := List.mem_map.mp hmem
    obtain ⟨he, hs⟩ := List.mem_filter.mp hsel
    exact hf (h e he hs hr)

/-- The answers are about the indexes only. -/
lemma answersOnce_dispatchCopies (select : MountElem → Bool) (l : List MountElem)
    (trace : List WorkerAction) :
    AnswersOnce (l.filter select) trace ↔ AnswersOnce (dispatchCopies select l) trace := by
  constructor <;> rintro ⟨hc, ho, hr⟩ <;> refine ⟨hc, ?_, hr⟩ <;>
    simpa only [dispatchCopies_index] using ho

/-- A thread that keeps no element for the recovery answers every one. -/
lemma answersOnce_of_kept_nil {sys : WorkerSys} {elems : List MountElem}
    (hn : (elems.map MountElem.index).Nodup) (hk : keptElems sys elems = []) :
    AnswersOnce elems (containerManagerWorkerThread sys elems) := by
  have hresp : responses (elems.flatMap (firstActions sys) ++ [.close]) =
      responses (elems.flatMap (firstActions sys)) := by
    simp [responses]
  rw [thread_of_kept_nil hk]
  refine ⟨⟨_, rfl, fun hm => ?_⟩, ?_, fun wres hw => ?_⟩
  · obtain ⟨e, -, he⟩ := List.mem_flatMap.mp hm
    exact managerMountElem_ne_close _ _ _ e he
  · have hall : elems.filter (fun e => !(managerMountElem sys sys.first false e).1) = elems := by
      rw [List.filter_eq_self]
      intro e he
      have hne := List.filter_eq_nil_iff.mp hk e he
      simpa using hne
    rw [hresp, responses_first, hall]
  · rw [hresp, mem_responses] at hw
    obtain ⟨e, he, hwe⟩ := List.mem_flatMap.mp hw
    obtain ⟨hi, -, hres⟩ := firstActions_respond hwe
    rw [hres, hi, Succeeded, Succeeded, ← lastAttempt_filter e.index (_ ++ _), List.filter_append,
      firstActions_filter sys hn he]
    simp [WorkerAction.concerns]

/-- An element kept for the recovery is never answered. -/
lemma kept_nil_of_answersOnce {sys : WorkerSys} (hc : sys.NoCancel) {elems : List MountElem}
    (h : AnswersOnce elems (containerManagerWorkerThread sys elems)) :
    keptElems sys elems = [] := by
  have htail := laterActions_keptElems hc elems
  have hnone : responses (laterActions sys (keptElems sys elems)) = [] := by
    rw [List.eq_nil_iff_forall_not_mem]
    exact fun wres hw => htail.respond wres (mem_responses.mp hw)
  have hlen := h.once.length_eq
  rw [containerManagerWorkerThread_eq, responses_append, hnone, List.append_nil, responses_first,
    List.length_map, List.length_map, List.length_filter_eq_length_iff] at hlen
  rw [keptElems, List.filter_eq_nil_iff]
  intro e he
  simpa using hlen e he

/-! ### The exchange -/

lemma dispatched_outstanding (hd : Dispatchable kind cmo) (index : ℕ)
    (storage : Option OperationStorage) (threads : List WorkerThread) (dispatches : ℕ) :
    (ManagerOperation.mk (cmo.mountList.map (MountElem.dispatchIf kind.selects)) storage threads
        dispatches).Outstanding index ↔
      index ∈ (dispatchCopies kind.selects cmo.mountList).map MountElem.index := by
  rw [dispatchCopies_index]
  simp only [ManagerOperation.Outstanding]
  constructor
  · rintro ⟨e', he', rfl, hde⟩
    obtain ⟨e, he, rfl⟩ := List.mem_map.mp he'
    simp only [MountElem.dispatchIf] at hde ⊢
    split_ifs at hde ⊢ with hs
    · exact List.mem_map.mpr ⟨e, List.mem_filter.mpr ⟨he, hs⟩, rfl⟩
    · exact absurd (hd.marked e he hde) hs
  · intro hi
    obtain ⟨e, he, rfl⟩ := List.mem_map.mp hi
    obtain ⟨he, hs⟩ := List.mem_filter.mp he
    refine ⟨_, List.mem_map_of_mem he, ?_, ?_⟩ <;> simp [MountElem.dispatchIf, hs]

/-- After a dispatch whose worker keeps no element for the recovery, the exchange runs. -/
lemma exchanging_of_kept_nil (hd : Dispatchable kind cmo) (hp : sys.pthreadCreate = 0)
    (h0 : (kind.dispatch sys cmo).2 = 0)
    (hk : keptElems sys.worker (dispatchCopies kind.selects cmo.mountList) = []) :
    Exchanging cmo.threads.length cmo.dispatches ((kind.dispatch sys cmo).1, []) := by
  have hn := dispatchCopies_nodup kind.selects hd.nodup
  obtain ⟨⟨acts, hacts, hclose⟩, honce, -⟩ := answersOnce_of_kept_nil hn hk
  rw [OperationKind.dispatch_eq] at h0 ⊢
  have o := managerOperationDispatch_outcome kind kind.selects sys cmo
  generalize managerOperationDispatch kind kind.selects sys cmo = r at o h0 ⊢
  cases o with
  | busy => simp at h0
  | failed l ret hn hret => rcases hret with rfl | rfl <;> simp at h0
  | nothing => simp at h0
  | dispatched hnone hs =>
    have hout := dispatched_outstanding hd
    rw [if_pos hp]
    refine ⟨⟨kind, containerManagerWorkerThread sys.worker _, by simp; rfl, ?_, ?_,
      fun storage hst => ?_⟩, fun j hj t ht => ?_, by simp⟩
    · rwa [hacts, List.dropLast_concat]
    · intro wres hw
      rw [thread_of_kept_nil hk, mem_responses] at hw
      rcases List.mem_append.mp hw with hw | hw
      · obtain ⟨e, -, he⟩ := List.mem_flatMap.mp hw
        exact (firstActions_respond he).2.1
      · simp at hw
    · obtain rfl := Option.some.inj hst
      refine ⟨rfl, ⟨?_, fun index => ?_⟩, by simp, by simp, ?_⟩
      · exact honce.nodup_iff.mpr hn
      · exact (hout _ _ _ _).trans honce.mem_iff.symm
      · obtain ⟨e, he, hse⟩ := hs
        refine ⟨e.index, (hout _ _ _ _).mpr ?_⟩
        rw [dispatchCopies_index]
        exact List.mem_map_of_mem (List.mem_filter.mpr ⟨he, hse⟩)
    · have hj' : j < cmo.threads.length := by
        by_contra hle
        have hlt : cmo.threads.length < j := lt_of_le_of_ne (not_lt.mp hle) (Ne.symm hj)
        rw [List.getElem?_eq_none (by simpa using Nat.succ_le_of_lt hlt)] at ht
        simp at ht
      rw [List.getElem?_append_left hj'] at ht
      exact (hd.threads t (List.mem_of_getElem? ht)).ne

/-- A worker that keeps no element for the recovery lets the operation complete. -/
lemma completes_of_kept_nil (hd : Dispatchable kind cmo) (hp : sys.pthreadCreate = 0)
    (h0 : (kind.dispatch sys cmo).2 = 0)
    (hk : keptElems sys.worker (dispatchCopies kind.selects cmo.mountList) = []) :
    Completes (kind.dispatch sys cmo).1 cmo.threads.length := by
  intro as
  have hrun := Transition.run_invariant (I := Exchanging cmo.threads.length cmo.dispatches)
    (fun _ a h => h.step a) (exchanging_of_kept_nil hd hp h0 hk) as
  intro s ht hpk
  obtain ⟨hout, hnone, hret⟩ := hrun.finished ht hpk
  refine ⟨?_, hnone, hret⟩
  intro e he
  by_contra hde
  exact hout e.index ⟨e, he, rfl, by simpa using hde⟩

/-- The thread that a dispatch starts. -/
lemma dispatch_thread (hp : sys.pthreadCreate = 0) (h0 : (kind.dispatch sys cmo).2 = 0) :
    (kind.dispatch sys cmo).1.threads[cmo.threads.length]? = some ⟨cmo.dispatches, kind,
      containerManagerWorkerThread sys.worker (dispatchCopies kind.selects cmo.mountList)⟩ := by
  rw [OperationKind.dispatch_eq] at h0 ⊢
  have o := managerOperationDispatch_outcome kind kind.selects sys cmo
  generalize managerOperationDispatch kind kind.selects sys cmo = r at o h0 ⊢
  cases o with
  | busy => simp at h0
  | failed l ret hn hret => rcases hret with rfl | rfl <;> simp at h0
  | nothing => simp at h0
  | dispatched hnone hs => simp [hp]

/-- The worker answers every dispatched element once, and the operation completes, exactly when the
first mounts of the recoverable elements succeed. -/
theorem answers_once_iff (hd : Dispatchable kind cmo) (hp : sys.pthreadCreate = 0)
    (hc : sys.worker.NoCancel) (h0 : (kind.dispatch sys cmo).2 = 0) :
    WorkerAnswers kind sys cmo ∧ Completes (kind.dispatch sys cmo).1 cmo.threads.length ↔
      FirstMountsSucceed kind sys.worker cmo := by
  rw [← keptElems_dispatchCopies]
  constructor
  · rintro ⟨⟨thread, ht, ha⟩, -⟩
    obtain rfl := Option.some.inj ((dispatch_thread hp h0).symm.trans ht)
    exact kept_nil_of_answersOnce hc ((answersOnce_dispatchCopies _ _ _).mp ha)
  · intro hk
    have ha := answersOnce_of_kept_nil (dispatchCopies_nodup kind.selects hd.nodup) hk
    refine ⟨⟨_, dispatch_thread hp h0, (answersOnce_dispatchCopies _ _ _).mpr ha⟩, ?_⟩
    exact completes_of_kept_nil hd hp h0 hk

/-- The manager's disks: the second one is checked when it cannot be mounted. -/
def managerDisks : List MountElem :=
  [{ mountTo := "/var/nv", filesystem := "ext4",
      blockdev := ("/dev/mmcblk1p10", none), index := 0 },
    { mountTo := "/var/data", filesystem := "ext4", redundancy := .fsck,
      blockdev := ("/dev/mmcblk1p11", none), index := 1 }]

theorem answers_once_iff_managerDisks :
    WorkerAnswers .launch dispatchOk { mountList := managerDisks } ∧
        Completes (OperationKind.dispatch .launch dispatchOk { mountList := managerDisks }).1 0 ↔
      FirstMountsSucceed .launch workerOk { mountList := managerDisks } :=
  answers_once_iff ⟨by decide, by decide, by simp⟩ rfl
    (by simp [WorkerSys.NoCancel, dispatchOk, workerOk]) rfl

/-- A worker whose first mount of the second disk fails; the recovery succeeds. -/
def workerRetakes : WorkerSys :=
  { workerOk with first := fun k _ => if k = 1 then ⟨.error, .ok, .ok⟩ else mountOk }

/-- The disk is mounted by the retaken pass, but the worker does not tell, and the host never
completes the operation. -/
theorem retake_not_answered :
    ¬ WorkerAnswers .launch { dispatchOk with worker := workerRetakes }
        { mountList := managerDisks } ∧
      ¬ Completes (OperationKind.dispatch .launch { dispatchOk with worker := workerRetakes }
        { mountList := managerDisks }).1 0 := by
  constructor
  · rintro ⟨thread, ht, ha⟩
    obtain rfl := Option.some.inj ht
    exact absurd ha.once.length_eq (by decide)
  · intro h
    have hrun := h [.worker 0, .worker 0, .worker 0, .worker 0, .worker 0, .worker 0,
      .poll .normal, .poll .normal] rfl
    have hnone := (hrun fun storage hs => by obtain rfl := Option.some.inj hs; rfl).2.1
    exact absurd hnone (by decide)

end ContainerManager

import ContainerManager.Operations.Disks
import ContainerManager.Properties.Answers
import ContainerManager.Refinement.Operation

/-!
# No disk is left mounted at exit

In the shutdown state the manager exits when a worker's operation is completed or none is required.
By then every disk that a worker mounted has been handed to `unmount_disk` by a terminate worker,
unless the operation that was completed is still the one of the launch worker.
-/

namespace ContainerManager

open Containers

variable {n : ℕ}

/-! ### The log -/

/-- A worker mounted the disk of this index, and no terminate worker unmounted it since. -/
def LeftMounted (log : List (LogEntry n)) (index : ℕ) : Prop :=
  ∃ newer kind ret calls older, log = newer ++ .worker kind (.mount index ret calls) :: older ∧
    0 ≤ ret ∧ ∀ ret' calls', .worker .terminate (.unmount index ret' calls') ∉ newer

/-- Whenever the manager exited because its operation was completed or not required, no disk was
left mounted. The log has its newest entry first. -/
def DisksReleased (log : List (LogEntry n)) : Prop :=
  ∀ newer reason older, log = newer ++ .exit reason :: older → reason ≠ .failed →
    ∀ index, ¬ LeftMounted older index

section Log

variable {log : List (LogEntry n)} {e : LogEntry n} {index : ℕ}

lemma LeftMounted.mounted (h : LeftMounted log index) :
    ∃ kind ret calls, .worker kind (.mount index ret calls) ∈ log ∧ 0 ≤ ret := by
  obtain ⟨newer, kind, ret, calls, older, rfl, hret, -⟩ := h
  exact ⟨kind, ret, calls, by simp, hret⟩

/-- A disk is left mounted by the newest entry, or was and is not unmounted by it. -/
lemma LeftMounted.of_cons (h : LeftMounted (e :: log) index) :
    (∃ kind ret calls, e = .worker kind (.mount index ret calls) ∧ 0 ≤ ret) ∨
      LeftMounted log index ∧
        ∀ ret calls, e ≠ .worker .terminate (.unmount index ret calls) := by
  obtain ⟨newer, kind, ret, calls, older, hlog, hret, hun⟩ := h
  cases newer with
  | nil =>
    obtain ⟨rfl, rfl⟩ := List.cons.inj hlog
    exact Or.inl ⟨kind, ret, calls, rfl, hret⟩
  | cons a newer =>
    obtain ⟨rfl, rfl⟩ := List.cons.inj hlog
    refine Or.inr ⟨⟨newer, kind, ret, calls, older, rfl, hret, fun ret' calls' hm => ?_⟩, ?_⟩
    · exact hun ret' calls' (List.mem_cons_of_mem _ hm)
    · rintro ret' calls' rfl
      exact hun ret' calls' List.mem_cons_self

lemma DisksReleased.cons (h : DisksReleased log)
    (he : ∀ reason, e = .exit reason → reason ≠ .failed → ∀ index, ¬ LeftMounted log index) :
    DisksReleased (e :: log) := by
  intro newer reason older hlog hreason
  cases newer with
  | nil =>
    obtain ⟨rfl, rfl⟩ := List.cons.inj hlog
    exact he reason rfl hreason
  | cons a newer => exact h newer reason older (List.cons.inj hlog).2 hreason

end Log

/-! ### The launch worker -/

/-- The answer for the element was written and told whether it is mounted, or the worker is done and
the element is flagged mounted. -/
def Settled (done todo : List WorkerAction) (e : MountElem) : Prop :=
  (∃ wres, .respond wres ∈ done ∧ wres.index = e.index ∧
      (wres.result = 0 → e.isMounted = true)) ∨
    todo = [] ∧ e.isMounted = true

/-- While the launch worker's operation runs: `done` are the actions it has taken, `todo` those to
come. -/
structure LaunchPhase (cmo : ManagerOperation) (log : List (LogEntry n))
    (storage : OperationStorage) (done todo : List WorkerAction) : Prop where
  running : cmo.storage = some storage
  kind : storage.kind = .launch
  serial : storage.serial < cmo.dispatches
  threads : cmo.threads = [] ∨ cmo.threads = [⟨storage.serial, .launch, todo⟩]
  trace : LaunchTrace (done ++ todo)
  taken : ∀ kind action, .worker kind action ∈ log → action ∈ done
  packets : ∀ wres ∈ storage.packets, .respond wres ∈ done
  closed : storage.workerClosed = true → .close ∈ done
  mounts : ∀ index ret calls, .mount index ret calls ∈ done ++ todo →
    ∃ e ∈ cmo.mountList, e.index = index
  elems : ∀ e ∈ cmo.mountList,
    e.state ≠ .canceled ∧ (e.isDispatched = true ∨ Settled done todo e)

namespace LaunchPhase

variable {cmo : ManagerOperation} {log : List (LogEntry n)} {storage : OperationStorage}
  {done todo : List WorkerAction}

/-- Nothing follows the close. -/
lemma todo_nil (h : LaunchPhase cmo log storage done todo) (hc : .close ∈ done) : todo = [] := by
  by_contra hne
  have hclose := h.trace.close
  rw [List.dropLast_append_of_ne_nil hne] at hclose
  exact hclose (List.mem_append_left _ hc)

/-- An element that was mounted and is settled is flagged mounted. -/
lemma isMounted_of_settled (h : LaunchPhase cmo log storage done todo) {e : MountElem}
    (hs : Settled done todo e) {ret : ℤ} {calls : List MountCall}
    (hm : .mount e.index ret calls ∈ done) (hret : 0 ≤ ret) : e.isMounted = true := by
  rcases hs with ⟨wres, hw, hi, hres⟩ | ⟨-, hmounted⟩
  · obtain ⟨pre, post, rfl⟩ := List.append_of_mem hw
    have htrace : pre ++ .respond wres :: post ++ todo =
        pre ++ .respond wres :: (post ++ todo) := by
      simp
    apply hres
    by_contra hne
    rw [← hi] at hm
    rcases List.mem_append.mp hm with hm | hm
    · exact absurd (h.trace.before pre wres _ htrace hne ret calls hm) (not_lt.mpr hret)
    · rcases List.mem_cons.mp hm with hm | hm
      · simp at hm
      · exact h.trace.after pre wres _ htrace ret calls (List.mem_append_left _ hm)
  · exact hmounted

/-- The worker has nothing left to mount for a settled element. -/
lemma notMem_todo_of_settled (h : LaunchPhase cmo log storage done todo) {e : MountElem}
    (hs : Settled done todo e) (ret : ℤ) (calls : List MountCall) :
    .mount e.index ret calls ∉ todo := by
  rcases hs with ⟨wres, hw, hi, -⟩ | ⟨hnil, -⟩
  · obtain ⟨pre, post, rfl⟩ := List.append_of_mem hw
    rw [← hi]
    intro hm
    exact h.trace.after pre wres (post ++ todo) (by simp) ret calls (List.mem_append_right _ hm)
  · simp [hnil]

/-- The worker takes an action. -/
lemma worker {action : WorkerAction}
    (h : LaunchPhase cmo log storage done (action :: todo))
    (ht : cmo.threads = [⟨storage.serial, .launch, action :: todo⟩]) :
    LaunchPhase { cmo with
        threads := [⟨storage.serial, .launch, todo⟩]
        storage := some (WorkerThread.perform ⟨storage.serial, .launch, action :: todo⟩ action
          storage) }
      (.worker .launch action :: log)
      (WorkerThread.perform ⟨storage.serial, .launch, action :: todo⟩ action storage)
      (done ++ [action]) todo := by
  have e : done ++ [action] ++ todo = done ++ action :: todo := by simp
  have hst : ∃ packets closed, WorkerThread.perform ⟨storage.serial, .launch, action :: todo⟩ action
      storage = { storage with packets := packets, workerClosed := closed } ∧
        (∀ wres ∈ packets, .respond wres ∈ done ++ [action]) ∧
        (closed = true → .close ∈ done ++ [action]) := by
    have hp : ∀ wres ∈ storage.packets, .respond wres ∈ done ++ [action] :=
      fun wres hw => List.mem_append_left _ (h.packets wres hw)
    have hc : storage.workerClosed = true → .close ∈ done ++ [action] :=
      fun hc => List.mem_append_left _ (h.closed hc)
    unfold WorkerThread.perform
    rw [if_pos rfl]
    cases action with
    | respond wres =>
      refine ⟨_, _, rfl, fun w hw => ?_, hc⟩
      rcases List.mem_append.mp hw with hw | hw
      · exact hp w hw
      · simp [List.mem_singleton.mp hw]
    | close => exact ⟨_, _, rfl, hp, fun _ => by simp⟩
    | _ => exact ⟨_, _, rfl, hp, hc⟩
  obtain ⟨packets, closed, hperform, hp, hc⟩ := hst
  rw [hperform]
  refine ⟨rfl, h.kind, h.serial, Or.inr rfl, e ▸ h.trace, ?_, hp, hc, e ▸ h.mounts, ?_⟩
  · intro kind a ha
    rcases List.mem_cons.mp ha with ha | ha
    · obtain ⟨-, rfl⟩ := LogEntry.worker.inj ha
      simp
    · exact List.mem_append_left _ (h.taken kind a ha)
  · intro e he
    refine ⟨(h.elems e he).1, (h.elems e he).2.imp id fun hs => ?_⟩
    rcases hs with ⟨wres, hw, hi, hres⟩ | ⟨hnil, -⟩
    · exact Or.inl ⟨wres, List.mem_append_left _ hw, hi, hres⟩
    · simp at hnil

/-- What a poll receives settles its element. -/
lemma receive {cmo' : ManagerOperation} (h : LaunchPhase cmo log storage done todo)
    (hr : Received cmo cmo') : ∃ storage', LaunchPhase cmo' log storage' done todo := by
  -- an answer of a launch worker changes the flags of its element only
  have elems : ∀ wres, wres.operation = 0 → wres.result = 0 ∨ wres.result = -1 →
      (.respond wres ∈ done ∨ todo = [] ∧ wres.result = 0) →
        ∀ e ∈ cmo.mountList.map (MountElem.receive wres),
          e.state ≠ .canceled ∧ (e.isDispatched = true ∨ Settled done todo e) := by
    intro wres ho hres hw e' he'
    obtain ⟨e, he, rfl⟩ := List.mem_map.mp he'
    obtain ⟨hstate, helem⟩ := h.elems e he
    by_cases hi : e.index = wres.index
    · have hrec : (e.receive wres).state = e.state ∧
          (wres.result = 0 → (e.receive wres).isMounted = true) := by
        rcases hres with hres | hres <;> simp [MountElem.receive, hi, ho, hres]
      refine ⟨hrec.1 ▸ hstate, Or.inr ?_⟩
      rcases hw with hw | ⟨hnil, h0⟩
      · exact Or.inl ⟨wres, hw, by simp [hi], hrec.2⟩
      · exact Or.inr ⟨hnil, hrec.2 h0⟩
    · rw [MountElem.receive_of_ne hi]
      exact ⟨hstate, helem⟩
  have mounts : ∀ wres index ret calls, .mount index ret calls ∈ done ++ todo →
      ∃ e ∈ cmo.mountList.map (MountElem.receive wres), e.index = index := by
    intro wres index ret calls hm
    obtain ⟨e, he, hi⟩ := h.mounts index ret calls hm
    exact ⟨e.receive wres, List.mem_map_of_mem he, by simp [hi]⟩
  cases hr with
  | nothing => exact ⟨storage, h⟩
  | packet storage' wres packets hst hp =>
    obtain rfl := Option.some.inj (h.running.symm.trans hst)
    have hpackets := h.packets
    rw [hp] at hpackets
    have hw := hpackets wres List.mem_cons_self
    obtain ⟨ho, hres⟩ := h.trace.operation wres (List.mem_append_left _ hw)
    exact ⟨_, rfl, h.kind, h.serial, h.threads, h.trace, h.taken,
      fun w hw => hpackets w (List.mem_cons_of_mem _ hw), h.closed, mounts wres,
      elems wres ho hres (Or.inl hw)⟩
  | eof storage' hst hp hc =>
    obtain rfl := Option.some.inj (h.running.symm.trans hst)
    exact ⟨_, rfl, h.kind, h.serial, h.threads, h.trace, h.taken, by simp, h.closed,
      mounts ⟨0, 0, 0⟩,
      elems ⟨0, 0, 0⟩ rfl (Or.inl rfl) (Or.inr ⟨h.todo_nil (h.closed hc), rfl⟩)⟩

end LaunchPhase

/-! ### After the launch -/

/-- Once the launch worker's operation is completed: a disk that is left mounted is flagged mounted,
or a terminate worker has it and still has to unmount it before it answers. -/
structure ReleasePhase (cmo : ManagerOperation) (log : List (LogEntry n)) : Prop where
  threads : ∀ t ∈ cmo.threads, t.serial < cmo.dispatches ∧
    ∀ index ret calls, .mount index ret calls ∉ t.todo
  idle : cmo.storage = none → ∀ index, LeftMounted log index →
    ∃ e ∈ cmo.mountList, e.index = index ∧ e.isMounted = true ∧ e.state ≠ .canceled
  running : ∀ storage, cmo.storage = some storage →
    storage.kind = .terminate ∧ storage.serial < cmo.dispatches ∧
      ∀ index, LeftMounted log index → cmo.Outstanding index ∧
        (∀ wres ∈ storage.packets, wres.index ≠ index) ∧ storage.workerClosed = false ∧
        ∀ t ∈ cmo.threads, t.serial = storage.serial →
          t.kind = .terminate ∧ UnmountsFirst index t.todo

/-- The completion of the launch worker's operation. -/
lemma LaunchPhase.completed {cmo : ManagerOperation} {log : List (LogEntry n)}
    {storage : OperationStorage} {done todo : List WorkerAction}
    (h : LaunchPhase cmo log storage done todo)
    (hd : ∀ e ∈ cmo.mountList, e.isDispatched = false) :
    ReleasePhase { cmo with storage := none } log := by
  have settled : ∀ e ∈ cmo.mountList, Settled done todo e := by
    intro e he
    refine (h.elems e he).2.resolve_left fun hde => ?_
    simp [hd e he] at hde
  refine ⟨?_, ?_, by simp⟩
  · intro t ht
    have htodo : t.serial = storage.serial ∧ t.todo = todo := by
      rcases h.threads with e | e
      · simp [e] at ht
      · change t ∈ cmo.threads at ht
        rw [e, List.mem_singleton] at ht
        simp [ht]
    refine ⟨htodo.1 ▸ h.serial, ?_⟩
    intro index ret calls hm
    rw [htodo.2] at hm
    obtain ⟨e, he, rfl⟩ := h.mounts index ret calls (List.mem_append_right _ hm)
    exact h.notMem_todo_of_settled (settled e he) ret calls hm
  · intro _ index hl
    obtain ⟨kind, ret, calls, hmem, hret⟩ := hl.mounted
    have hdone := h.taken _ _ hmem
    obtain ⟨e, he, rfl⟩ := h.mounts index ret calls (List.mem_append_left _ hdone)
    exact ⟨e, he, rfl, h.isMounted_of_settled (settled e he) hdone hret, (h.elems e he).1⟩

namespace ReleasePhase

variable {cmo : ManagerOperation} {log : List (LogEntry n)}

/-- A worker takes an action: a terminate worker's unmount releases its disk. -/
lemma worker (h : ReleasePhase cmo log) {j serial : ℕ} {kind : OperationKind}
    {action : WorkerAction} {todo : List WorkerAction}
    (ht : cmo.threads[j]? = some ⟨serial, kind, action :: todo⟩) :
    ReleasePhase { cmo with
        threads := cmo.threads.set j ⟨serial, kind, todo⟩
        storage := cmo.storage.map (WorkerThread.perform ⟨serial, kind, action :: todo⟩ action) }
      (.worker kind action :: log) := by
  have hmem := List.mem_of_getElem? ht
  obtain ⟨hserial, hmount⟩ := h.threads _ hmem
  have left : ∀ index, LeftMounted (.worker kind action :: log) index →
      LeftMounted log index ∧ ∀ ret calls,
        ¬ (kind = .terminate ∧ action = .unmount index ret calls) := by
    intro index hl
    rcases hl.of_cons with ⟨kind', ret, calls, e, -⟩ | ⟨hl, hne⟩
    · obtain ⟨-, rfl⟩ := LogEntry.worker.inj e
      exact absurd List.mem_cons_self (hmount index ret calls)
    · exact ⟨hl, fun ret calls ⟨hk, ha⟩ => hne ret calls (by rw [hk, ha])⟩
  constructor
  · intro t htm
    rcases List.mem_or_eq_of_mem_set htm with htm | rfl
    · exact h.threads t htm
    · exact ⟨hserial, fun index ret calls hm =>
        hmount index ret calls (List.mem_cons_of_mem _ hm)⟩
  · intro hnone index hl
    exact h.idle (by simpa using hnone) index (left index hl).1
  · intro storage' hs'
    obtain ⟨storage, hs, rfl⟩ := Option.map_eq_some_iff.mp hs'
    obtain ⟨hkind, hser, hrun⟩ := h.running storage hs
    obtain ⟨hpkind, hpserial⟩ :=
      WorkerThread.perform_frame ⟨serial, kind, action :: todo⟩ action storage
    refine ⟨hpkind.trans hkind, hpserial.symm ▸ hser, fun index hl => ?_⟩
    obtain ⟨hl, hne⟩ := left index hl
    obtain ⟨hout, hp, hc, hthreads⟩ := hrun index hl
    rw [hpserial]
    by_cases hown : serial = storage.serial
    · obtain ⟨hterm, hfirst⟩ := hthreads _ hmem hown
      obtain ⟨hfirst', hclose, hresp⟩ := hfirst.of_cons fun ret calls e => hne ret calls ⟨hterm, e⟩
      obtain ⟨hp', hc'⟩ :=
        WorkerThread.perform_other ⟨serial, kind, action :: todo⟩ hclose hresp hp hc
      refine ⟨hout, hp', hc', fun t htm hts => ?_⟩
      rcases List.mem_or_eq_of_mem_set htm with htm | rfl
      · exact hthreads t htm hts
      · exact ⟨hterm, hfirst'⟩
    · rw [WorkerThread.perform_of_ne (Ne.symm hown)]
      refine ⟨hout, hp, hc, fun t htm hts => ?_⟩
      rcases List.mem_or_eq_of_mem_set htm with htm | rfl
      · exact hthreads t htm hts
      · exact absurd hts hown

/-- Receiving an answer ends the dispatch of another disk than one that is left mounted. -/
lemma receive {cmo' : ManagerOperation} (h : ReleasePhase cmo log) (hsome : cmo.storage ≠ none)
    (hr : Received cmo cmo') : ReleasePhase cmo' log ∧ cmo'.storage ≠ none := by
  cases hr with
  | nothing => exact ⟨h, hsome⟩
  | packet storage wres packets hst hp =>
    obtain ⟨hkind, hser, hrun⟩ := h.running storage hst
    refine ⟨⟨h.threads, by simp, fun storage' hs' => ?_⟩, by simp⟩
    obtain rfl := Option.some.inj hs'
    refine ⟨hkind, hser, ?_⟩
    intro index hl
    obtain ⟨⟨e, he, hi, hde⟩, hpackets, hc, hthreads⟩ := hrun index hl
    rw [hp] at hpackets
    have hne : e.index ≠ wres.index := by
      rw [hi]
      exact (hpackets wres List.mem_cons_self).symm
    refine ⟨⟨e, List.mem_map.mpr ⟨e, he, MountElem.receive_of_ne hne⟩, hi, hde⟩,
      fun w hw => hpackets w (List.mem_cons_of_mem _ hw), hc, hthreads⟩
  | eof storage hst hp hc =>
    obtain ⟨hkind, hser, hrun⟩ := h.running storage hst
    refine ⟨⟨h.threads, by simp, fun storage' hs' => ?_⟩, by simp⟩
    obtain rfl := Option.some.inj hs'
    refine ⟨hkind, hser, ?_⟩
    intro index hl
    obtain ⟨-, -, hopen, -⟩ := hrun index hl
    simp [hc] at hopen

/-- Once no element is dispatched, no disk is left mounted. -/
lemma not_leftMounted (h : ReleasePhase cmo log) (hsome : cmo.storage ≠ none)
    (hd : ∀ e ∈ cmo.mountList, e.isDispatched = false) (index : ℕ) : ¬ LeftMounted log index := by
  intro hl
  obtain ⟨storage, hs⟩ := Option.ne_none_iff_exists'.mp hsome
  obtain ⟨-, -, hrun⟩ := h.running storage hs
  obtain ⟨⟨e, he, -, hde⟩, -⟩ := hrun index hl
  simp [hd e he] at hde

lemma completed (h : ReleasePhase cmo log) (hsome : cmo.storage ≠ none)
    (hd : ∀ e ∈ cmo.mountList, e.isDispatched = false) :
    ReleasePhase { cmo with storage := none } log :=
  ⟨h.threads, fun _ index hl => absurd hl (h.not_leftMounted hsome hd index), by simp⟩

/-- The dispatch of the terminate worker. -/
lemma terminate {sys : DispatchSys} {r : ManagerOperation × ℤ} (h : ReleasePhase cmo log)
    (o : DispatchOutcome .terminate terminateSelects sys cmo r) : ReleasePhase r.1 log := by
  cases o with
  | busy => exact h
  | failed l ret hnone hret hl =>
    refine ⟨h.threads, fun _ index hleft => ?_, fun storage hs => by simp [hnone] at hs⟩
    obtain ⟨e, he, hi, hm, hst⟩ := h.idle hnone index hleft
    rcases hl e he with hmem | hmem
    · exact ⟨e, hmem, hi, hm, hst⟩
    · exact ⟨_, hmem, hi, hm, hst⟩
  | nothing => exact h
  | dispatched hnone hs =>
    have hmounted : ∀ e ∈ dispatchCopies terminateSelects cmo.mountList, e.isMounted = true := by
      intro e he
      obtain ⟨e, hmem, rfl⟩ := List.mem_map.mp he
      have hsel := (List.mem_filter.mp hmem).2
      simp only [terminateSelects, decide_eq_true_eq] at hsel
      exact hsel.1
    -- a thread is an older one, or the one that the dispatch starts
    have hthreads : ∀ t, t ∈ (if sys.pthreadCreate = 0 then cmo.threads ++ [⟨cmo.dispatches,
        .terminate, containerManagerWorkerThread sys.worker
          (dispatchCopies terminateSelects cmo.mountList)⟩] else cmo.threads) →
        t ∈ cmo.threads ∨ t = ⟨cmo.dispatches, .terminate, containerManagerWorkerThread sys.worker
          (dispatchCopies terminateSelects cmo.mountList)⟩ := by
      intro t ht
      split_ifs at ht
      · simpa using ht
      · exact Or.inl ht
    refine ⟨?_, by simp, ?_⟩
    · intro t ht
      rcases hthreads t ht with ht | rfl
      · exact ⟨(h.threads t ht).1.trans (Nat.lt_succ_self _), (h.threads t ht).2⟩
      · exact ⟨Nat.lt_succ_self _, fun index ret calls => mount_notMem_thread hmounted _ _ _⟩
    · intro storage hst
      obtain rfl := Option.some.inj hst
      refine ⟨rfl, Nat.lt_succ_self _, fun index hleft => ?_⟩
      obtain ⟨e, he, rfl, hm, hst⟩ := h.idle hnone index hleft
      have hsel : terminateSelects e = true := by simp [terminateSelects, hm, hst]
      refine ⟨⟨e.dispatchIf terminateSelects, List.mem_map_of_mem he, ?_, ?_⟩, by simp, rfl,
        fun t ht hts => ?_⟩
      · simp [MountElem.dispatchIf, hsel]
      · simp [MountElem.dispatchIf, hsel]
      · rcases hthreads t ht with ht | rfl
        · exact absurd hts (h.threads t ht).1.ne
        · refine ⟨rfl, unmountsFirst_thread hmounted ?_⟩
          rw [dispatchCopies_index]
          exact List.mem_map_of_mem (List.mem_filter.mpr ⟨he, hsel⟩)

/-- When the terminate worker is not required, no disk is left mounted. -/
lemma not_required (h : ReleasePhase cmo log) (hnone : cmo.storage = none)
    (hs : ∀ e ∈ cmo.mountList, terminateSelects e = false) (index : ℕ) :
    ¬ LeftMounted log index := by
  intro hl
  obtain ⟨e, he, -, hm, hst⟩ := h.idle hnone index hl
  simpa [terminateSelects, hm, hst] using hs e he

end ReleasePhase

/-! ### Both phases -/

/-- The launch worker's operation is running, or it was completed. -/
def OperationPhase (cmo : ManagerOperation) (log : List (LogEntry n)) : Prop :=
  (∃ storage done todo, LaunchPhase cmo log storage done todo) ∨ ReleasePhase cmo log

/-- No worker has mounted a disk so far. -/
def NothingMounted (log : List (LogEntry n)) : Prop :=
  ∀ kind index ret calls, .worker kind (.mount index ret calls) ∈ log → ret < 0

/-- A poll completes the operation of a launch worker: every element that is still dispatched is the
one of the packet it reads. -/
def LaunchEnds (read : ReadSys) (cmo : ManagerOperation) : Prop :=
  ∃ storage, cmo.storage = some storage ∧ storage.kind = .launch ∧
    ∀ e ∈ cmo.mountList, e.isDispatched = true →
      read = .normal ∧ ∃ wres packets, readPacket storage = some (wres, packets) ∧
        e.index = wres.index

lemma managerOperationAsses_completed {cmo : ManagerOperation}
    (h : (managerOperationAsses cmo).2 = 1) : ∀ e ∈ cmo.mountList, e.isDispatched = false := by
  simp only [managerOperationAsses] at h
  split_ifs at h with hall
  · simpa using hall.2
  · simp at h

/-- When a poll returns 1, the elements that were dispatched are those of the packet it read. -/
lemma dispatched_of_poll {read : ReadSys} {cmo : ManagerOperation} {storage : OperationStorage}
    (hs : cmo.storage = some storage) (h : (managerOperationDelayedPoll read cmo).2 = 1) :
    ∀ e ∈ cmo.mountList, e.isDispatched = true → read = .normal ∧
      ∃ wres packets, readPacket storage = some (wres, packets) ∧ e.index = wres.index := by
  intro e he hd
  have hasses : (managerOperationAsses cmo).2 ≠ 1 := fun h1 => by
    simp [managerOperationAsses_completed h1 e he] at hd
  simp only [managerOperationDelayedPoll] at h
  rw [hs] at h
  cases read with
  | error => simp at h
  | eintr => exact absurd h hasses
  | normal =>
    refine ⟨rfl, ?_⟩
    dsimp only at h
    cases hr : readPacket storage with
    | none =>
      rw [hr] at h
      exact absurd h hasses
    | some r =>
      obtain ⟨wres, packets⟩ := r
      rw [hr] at h
      refine ⟨wres, packets, rfl, ?_⟩
      by_contra hne
      have hf := managerOperationAsses_completed h _ (List.mem_map_of_mem he)
      rw [MountElem.receive_of_ne hne] at hf
      simp [hd] at hf

namespace OperationPhase

variable {cmo : ManagerOperation} {log : List (LogEntry n)}

/-- Only the actions of the workers count. -/
lemma writeLog (h : OperationPhase cmo log) {e : LogEntry n}
    (he : ∀ kind action, e ≠ .worker kind action) : OperationPhase cmo (e :: log) := by
  rcases h with ⟨storage, done, todo, h⟩ | h
  · refine Or.inl ⟨storage, done, todo, { h with taken := fun kind action hm => ?_ }⟩
    rcases List.mem_cons.mp hm with hm | hm
    · exact absurd hm.symm (he kind action)
    · exact h.taken kind action hm
  · have left : ∀ index, LeftMounted (e :: log) index → LeftMounted log index := by
      intro index hl
      rcases hl.of_cons with ⟨kind, ret, calls, e', -⟩ | ⟨hl, -⟩
      · exact absurd e' (he kind _)
      · exact hl
    refine Or.inr ⟨h.threads, fun hn index hl => h.idle hn index (left index hl), ?_⟩
    intro storage hs
    obtain ⟨hkind, hser, hrun⟩ := h.running storage hs
    exact ⟨hkind, hser, fun index hl => hrun index (left index hl)⟩

/-- A poll that returns 1 ends the launch worker's operation, or no disk is left mounted. -/
lemma poll (h : OperationPhase cmo log) (read : ReadSys) :
    OperationPhase (managerOperationDelayedPoll read cmo).1 log ∧
      ((managerOperationDelayedPoll read cmo).2 = 1 →
        LaunchEnds read cmo ∨ ∀ index, ¬ LeftMounted log index) := by
  have hends := fun storage => @dispatched_of_poll read cmo storage
  have o := managerOperationDelayedPoll_outcome read cmo
  generalize managerOperationDelayedPoll read cmo = r at o hends ⊢
  cases o with
  | idle => exact ⟨h, by simp⟩
  | failed => exact ⟨h, by simp⟩
  | running hsome cmo' hr =>
    refine ⟨?_, by simp⟩
    rcases h with ⟨storage, done, todo, h⟩ | h
    · obtain ⟨storage', h'⟩ := h.receive hr
      exact Or.inl ⟨storage', done, todo, h'⟩
    · exact Or.inr (h.receive hsome hr).1
  | completed hsome cmo' hr hd =>
    rcases h with ⟨storage, done, todo, h⟩ | h
    · obtain ⟨storage', h'⟩ := h.receive hr
      exact ⟨Or.inr (h'.completed hd), fun h1 =>
        Or.inl ⟨storage, h.running, h.kind, hends storage h.running h1⟩⟩
    · obtain ⟨h', hsome'⟩ := h.receive hsome hr
      exact ⟨Or.inr (h'.completed hsome' hd), fun _ => Or.inr (h'.not_leftMounted hsome' hd)⟩

/-- A worker thread takes its next action. -/
lemma worker (h : OperationPhase cmo log) (k : ℕ) :
    OperationPhase (managerWorkerStep k cmo).1
      (match (managerWorkerStep k cmo).2 with
        | none => log
        | some (kind, action) => .worker kind action :: log) := by
  rcases managerWorkerStep_cases k cmo with e | ⟨serial, kind, action, todo, ht, e⟩
  · rw [e]
    exact h
  · rw [e]
    rcases h with ⟨storage, done, todo', h⟩ | h
    · -- while the launch worker's operation runs it is the only thread
      rcases h.threads with hnil | hone
      · simp [hnil] at ht
      · rw [hone] at ht
        obtain ⟨hk, hth⟩ : k = 0 ∧ (⟨storage.serial, .launch, todo'⟩ : WorkerThread) =
            ⟨serial, kind, action :: todo⟩ := by
          cases k with
          | zero => exact ⟨rfl, Option.some.inj ht⟩
          | succ k => simp at ht
        obtain ⟨rfl, rfl, rfl⟩ := WorkerThread.mk.inj hth
        have hw := h.worker hone
        subst hk
        simp only [hone, h.running, List.set_cons_zero, Option.map_some]
        exact Or.inl ⟨_, _, _, hw⟩
    · exact Or.inr (h.worker ht)

end OperationPhase

/-! ### The manager -/

/-- What a run keeps. -/
structure ReleaseInvariant (cs : Containers n) : Prop where
  phase : OperationPhase cs.operation cs.log
  released : DisksReleased cs.log

namespace ReleaseInvariant

variable {cs cs' : Containers n}

lemma of_eq (h : ReleaseInvariant cs) (ho : cs'.operation = cs.operation) (hl : cs'.log = cs.log) :
    ReleaseInvariant cs' :=
  ⟨ho ▸ hl ▸ h.phase, hl ▸ h.released⟩

lemma guestsOnly (h : ReleaseInvariant cs) (hg : GuestsOnly cs cs') : ReleaseInvariant cs' :=
  h.of_eq hg.operation hg.log

lemma send (h : ReleaseInvariant cs) (m : Message) (sent : Bool) :
    ReleaseInvariant (cs.send m sent) := by
  rw [send_frame]
  exact h.of_eq rfl rfl

/-- A log entry that tells of no worker and of no exit. -/
lemma writeLog (h : ReleaseInvariant cs) {e : LogEntry n}
    (hw : ∀ kind action, e ≠ .worker kind action) (he : ∀ reason, e ≠ .exit reason) :
    ReleaseInvariant (cs.writeLog e) :=
  ⟨h.phase.writeLog hw, h.released.cons fun reason hr => absurd hr (he reason)⟩

lemma startGuest (h : ReleaseInvariant cs) (sys : VisitSys) (i : Fin n) :
    ReleaseInvariant (startGuest sys cs i).1 := by
  obtain ⟨containers, event, e⟩ := startGuest_frame sys cs i
  have hw := h.writeLog (e := .containerStart i fun j => (cs.containers j).runtimeStat.status)
    (by simp) (by simp)
  rw [e]
  exact hw.of_eq rfl rfl

lemma startAndNotify (h : ReleaseInvariant cs) (sys : VisitSys) (i : Fin n) :
    ReleaseInvariant (startAndNotify sys cs i) := by
  obtain ⟨comm, e⟩ := startAndNotify_frame sys cs i
  rw [e]
  exact (h.startGuest sys i).of_eq rfl rfl

lemma visits (h : ReleaseInvariant cs) (visit : Fin n → VisitSys) :
    ReleaseInvariant (execRunVisits visit cs) := by
  refine Loop.forEach_invariant (I := ReleaseInvariant) (fun s i hs => ?_) h
  rcases execRunVisit_cases (visit i) s i with hg | ⟨j, s', -, hg, e⟩
  · exact hs.guestsOnly hg
  · rw [e]
    exact (hs.guestsOnly hg).startAndNotify (visit i) j

lemma run (h : ReleaseInvariant cs) (sys : ExecSys n) :
    ReleaseInvariant (execInternalEventRun sys cs) := by
  obtain ⟨cs', hg, e⟩ := execInternalEventRun_guestsOnly sys cs
  have hv := (h.visits sys.visit).guestsOnly hg
  rw [e]
  exact ⟨(hv.phase.poll sys.read).1, hv.released⟩

/-- The manager exits. -/
lemma exit (h : ReleaseInvariant cs) (reason : ExitReason)
    (hr : reason ≠ .failed → ∀ index, ¬ LeftMounted cs.log index) :
    ReleaseInvariant (containerMngsmExit cs reason) := by
  refine ⟨h.phase.writeLog (by simp), h.released.cons fun reason' e => ?_⟩
  obtain rfl := LogEntry.exit.inj e
  exact hr

/-- The manager's terminate operation: an exit takes no launch worker's completion for its own,
unless no disk was mounted. -/
lemma terminate (h : ReleaseInvariant cs) {dispatch : DispatchSys} {read : ReadSys}
    (hg : LaunchEnds read cs.operation → NothingMounted cs.log) :
    ReleaseInvariant (execTerminateOperation dispatch read cs) := by
  have o := managerOperationDispatch_outcome .terminate terminateSelects dispatch cs.operation
  have release : ∀ r, DispatchOutcome .terminate terminateSelects dispatch cs.operation r →
      cs.operation.storage = none → ReleasePhase r.1 cs.log := by
    intro r o hnone
    rcases h.phase with ⟨storage, done, todo, hl⟩ | hr
    · simp [hl.running] at hnone
    · exact hr.terminate o
  rw [execTerminateOperation_eq]
  rw [managerOperationDelayedTerminate]
  generalize managerOperationDispatch .terminate terminateSelects dispatch cs.operation = r at o ⊢
  have hreleased : cs.operation.storage = none →
      ReleaseInvariant { cs with operation := r.1 } :=
    fun hnone => ⟨Or.inr (release r o hnone), h.released⟩
  cases o with
  | busy =>
    obtain ⟨hp, h1⟩ := h.phase.poll read
    have hi : ReleaseInvariant (containerMngsmDoCyclicOperation read cs).1 := ⟨hp, h.released⟩
    rw [if_pos rfl]
    dsimp only
    split_ifs with hret
    · refine hi.exit .complete fun _ index hl => ?_
      rcases h1 hret with hends | hnot
      · obtain ⟨kind, ret, calls, hm, hge⟩ := hl.mounted
        exact absurd (hg hends kind index ret calls hm) (not_lt.mpr hge)
      · exact hnot index hl
    · exact hi
  | failed l ret hnone hret =>
    have hx := (hreleased hnone).exit .failed fun hr => absurd rfl hr
    rcases hret with rfl | rfl <;> simpa using hx
  | nothing hnone hs =>
    have hx := (hreleased hnone).exit .notRequired fun _ => by
      rcases h.phase with ⟨storage, done, todo, hl⟩ | hr
      · simp [hl.running] at hnone
      · exact hr.not_required hnone hs
    simpa using hx
  | dispatched hnone => simpa using hreleased hnone

lemma exec (h : ReleaseInvariant cs) {sys : ExecSys n}
    (hg : cs.sysState = .shutdown → cs.AllExited → LaunchEnds sys.read cs.operation →
      NothingMounted cs.log) : ReleaseInvariant (containerExecInternalEvent sys cs) := by
  simp only [containerExecInternalEvent]
  split
  · exact h.run sys
  · rename_i hs
    obtain ⟨cs', hgo, e⟩ := execInternalEventShutdown_guestsOnly sys cs
    rw [e]
    split_ifs with hall
    · apply (h.guestsOnly hgo).terminate
      rw [hgo.operation, hgo.log]
      exact hg hs hall
    · exact h.guestsOnly hgo

lemma managerWorker (h : ReleaseInvariant cs) (k : ℕ) : ReleaseInvariant (cs.managerWorker k) := by
  have hp := h.phase.worker k
  simp only [Containers.managerWorker]
  generalize (managerWorkerStep k cs.operation).2 = action at hp ⊢
  cases action with
  | none => exact ⟨hp, h.released⟩
  | some a => exact ⟨hp, h.released.cons fun reason e => by simp at e⟩

end ReleaseInvariant

/-- No cyclic event with all guests exited takes the completion of the launch worker's operation for
that of a terminate worker, unless no disk was mounted. -/
def StepReleases (cs : Containers n) (a : Action n) : Prop :=
  ∀ sys cs', cyclicEvent cs a = some (sys, cs') → cs'.sysState = .shutdown → cs'.AllExited →
    LaunchEnds sys.read cs'.operation → NothingMounted cs'.log

lemma ReleaseInvariant.step {cs : Containers n} (h : ReleaseInvariant cs) {a : Action n}
    (hg : StepReleases cs a) : ReleaseInvariant (step cs a) := by
  cases a with
  | message m sys => exact (h.guestsOnly (handleMessage_guestsOnly sys cs m)).exec (hg _ _ rfl)
  | receive sys =>
    simp only [ContainerManager.step, containerMngsmCommsocketHandler]
    cases hc : cs.comm with
    | nil => exact h
    | cons m rest =>
      have h' : ReleaseInvariant { cs with comm := rest } := h.of_eq rfl rfl
      refine (h'.guestsOnly (handleMessage_guestsOnly sys _ m)).exec (hg _ _ ?_)
      simp [cyclicEvent, hc]
  | timer sent => exact h.send _ sent
  | sigterm sent => exact h.send _ sent
  | netlink m sent =>
    have hl : ReleaseInvariant { cs with nllist := (dataCb m cs.nllist).1 } := h.of_eq rfl rfl
    exact hl.send _ _
  | pidfd id sent =>
    simp only [ContainerManager.step]
    split
    · exact h
    · refine Loop.forEach_invariant (I := ReleaseInvariant) (fun s i hs => ?_) h
      dsimp only
      split_ifs
      · exact hs.of_eq rfl rfl
      · exact hs
      · exact hs
  | command p sys => exact h.guestsOnly (containerExternalInterfaceExec_guestsOnly sys cs p)
  | guestWorker i exec => exact h.of_eq rfl rfl
  | managerWorker k => exact h.managerWorker k

/-! ### The launch -/

/-- Starts of roles only log the starts. -/
lemma containerMngsmStart_outside (sys : ℕ → VisitSys) (notify : Bool) (cs : Containers n) :
    (containerMngsmStart sys notify cs).operation = cs.operation ∧
      ∀ e ∈ (containerMngsmStart sys notify cs).log, e ∈ cs.log ∨
        ∃ i status, e = .containerStart i status := by
  simp only [containerMngsmStart]
  rw [send_frame]
  dsimp only
  generalize cs.roleList.zipIdx = roles
  induction roles generalizing cs with
  | nil => exact ⟨rfl, fun e he => Or.inl he⟩
  | cons c roles ih =>
    rw [List.foldl_cons]
    obtain ⟨ho, hl⟩ := ih (containerStartByRole (sys c.2) cs c.1.name).1
    have hrole : (containerStartByRole (sys c.2) cs c.1.name).1.operation = cs.operation ∧
        ∀ e ∈ (containerStartByRole (sys c.2) cs c.1.name).1.log, e ∈ cs.log ∨
          ∃ i status, e = .containerStart i status := by
      simp only [containerStartByRole]
      split
      · exact ⟨rfl, fun e he => Or.inl he⟩
      · rename_i i hi
        obtain ⟨containers, event, e⟩ :=
          startGuest_frame (sys c.2) (cs.setGuest i (enableGuest (cs.containers i))) i
        rw [e]
        refine ⟨rfl, fun e he => ?_⟩
        rcases List.mem_cons.mp he with rfl | he
        · exact Or.inr ⟨_, _, rfl⟩
        · exact Or.inl he
    exact ⟨ho.trans hrole.1, fun e he => (hl e he).elim (hrole.2 e) Or.inr⟩

/-- The states in which the event loop starts: `main` started the guests and dispatched the launch
worker, which is sent no request. -/
inductive Launched (sys : ℕ → VisitSys) (notify : Bool) (cs₀ : Containers n) :
    Containers n → Prop where
  | launched (dispatch : DispatchSys) (hc : dispatch.worker.NoCancel)
      (h0 : 0 ≤ (containerMngsmExecDelayedOperation dispatch
        (containerMngsmStart sys notify cs₀) 0).2) :
      Launched sys notify cs₀ (containerMngsmExecDelayedOperation dispatch
        (containerMngsmStart sys notify cs₀) 0).1

/-- The dispatch of the launch worker. -/
lemma OperationPhase.launch {cmo : ManagerOperation} {log : List (LogEntry n)}
    {sys : DispatchSys} {r : ManagerOperation × ℤ} (hf : FreshOperation cmo)
    (hl : ∀ kind action, .worker kind action ∉ log) (hc : sys.worker.NoCancel) (h0 : 0 ≤ r.2)
    (o : DispatchOutcome .launch launchSelects sys cmo r) : OperationPhase r.1 log := by
  have hleft : ∀ index, ¬ LeftMounted log index := by
    intro index h
    obtain ⟨kind, ret, calls, hm, -⟩ := h.mounted
    exact hl _ _ hm
  cases o with
  | busy h => exact absurd hf.storage h
  | failed l ret _ hret => rcases hret with rfl | rfl <;> simp at h0
  | nothing =>
    exact Or.inr ⟨by simp [hf.threads], fun _ index h => absurd h (hleft index),
      by simp [hf.storage]⟩
  | dispatched =>
    have hsel : ∀ e ∈ cmo.mountList, launchSelects e = true := by
      intro e he
      obtain ⟨hm, -, hs⟩ := hf.elems e he
      simp [launchSelects, hm, hs]
    have hunmounted : ∀ e ∈ dispatchCopies launchSelects cmo.mountList, e.isMounted = false := by
      intro e he
      obtain ⟨e, hmem, rfl⟩ := List.mem_map.mp he
      have hm := (hf.elems e (List.mem_of_mem_filter hmem)).1
      simpa [MountElem.workerCopy] using hm
    refine Or.inl ⟨_, [], containerManagerWorkerThread sys.worker
      (dispatchCopies launchSelects cmo.mountList), rfl, rfl, Nat.lt_succ_self _, ?_, ?_, ?_, ?_,
      ?_, ?_, ?_⟩
    · rw [hf.threads]
      split_ifs
      · exact Or.inr rfl
      · exact Or.inl rfl
    · exact launchTrace_thread hc (dispatchCopies_nodup launchSelects hf.nodup) hunmounted
    · exact fun kind action hm => absurd hm (hl kind action)
    · simp
    · simp
    · intro index ret calls hm
      have hi := mount_mem_thread hc (by simpa using hm)
      rw [dispatchCopies_index] at hi
      obtain ⟨e, he, rfl⟩ := List.mem_map.mp hi
      refine ⟨_, List.mem_map_of_mem (List.mem_of_mem_filter he), ?_⟩
      simp only [MountElem.dispatchIf]
      split_ifs <;> rfl
    · intro e' he'
      obtain ⟨e, he, rfl⟩ := List.mem_map.mp he'
      rw [MountElem.dispatchIf, if_pos (hsel e he)]
      obtain ⟨-, -, hs⟩ := hf.elems e he
      exact ⟨by simp [hs], Or.inl rfl⟩

lemma Launched.release {sys : ℕ → VisitSys} {notify : Bool} {cs₀ cs : Containers n}
    (h₀ : Initial cs₀) (hb : Launched sys notify cs₀ cs) : ReleaseInvariant cs := by
  obtain ⟨dispatch, hc, h0⟩ := hb
  obtain ⟨ho, hl⟩ := containerMngsmStart_outside sys notify cs₀
  have hstarts : ∀ e ∈ (containerMngsmStart sys notify cs₀).log,
      ∃ i status, e = .containerStart i status := by
    intro e he
    simpa [h₀.log] using hl e he
  refine ⟨OperationPhase.launch (ho.symm ▸ h₀.operation) (fun kind action hm => ?_) hc ?_
    (managerOperationDispatch_outcome .launch launchSelects dispatch
      (containerMngsmStart sys notify cs₀).operation), ?_⟩
  · obtain ⟨i, status, e⟩ := hstarts _ hm
    simp at e
  · change 0 ≤ _ at h0
    rw [containerMngsmExecDelayedOperation] at h0
    dsimp only at h0
    rw [if_pos (Or.inl rfl), if_pos rfl] at h0
    dsimp only at h0
    split_ifs at h0 with hret
    · exact h0
    · simp at h0
  · rintro newer reason older e
    obtain ⟨i, status, e'⟩ := hstarts (.exit reason) (by
      show _ ∈ (containerMngsmExecDelayedOperation dispatch
        (containerMngsmStart sys notify cs₀) 0).1.log
      rw [e]
      simp)
    simp at e'

/-! ### Runs -/

/-- Whenever the manager exits because its operation is completed or not required, every disk that a
worker mounted was handed to `unmount_disk` by a terminate worker since, when no exit takes the
launch worker's completion for its own. -/
theorem disks_released {cs₀ cs : Containers n} (h₀ : Initial cs₀) {sys : ℕ → VisitSys}
    {notify : Bool} (hb : Launched sys notify cs₀ cs) {as : List (Action n)}
    (hg : Transition.Guarded step StepReleases cs as) :
    DisksReleased (Transition.run step cs as).log :=
  (Transition.run_invariant_of_guarded (fun _ _ hg h => h.step hg) (hb.release h₀) hg :
    ReleaseInvariant _).released

/-- A guest, and a manager whose launch worker has a disk to mount. -/
def clusterLaunched : Containers 1 :=
  (containerMngsmExecDelayedOperation dispatchOk (containerMngsmStart (fun _ => visitOk) true
    (setupManager clusterGuest (managerDisks.take 1))) 0).1

lemma clusterLaunched_launched :
    Initial (setupManager clusterGuest (managerDisks.take 1)) ∧
      Launched (fun _ => visitOk) true (setupManager clusterGuest (managerDisks.take 1))
        clusterLaunched :=
  ⟨setupManager_initial clusterGuest_fresh ⟨by decide, by decide, rfl, rfl⟩,
    .launched dispatchOk (by simp [WorkerSys.NoCancel, dispatchOk, workerOk]) (by decide)⟩

/-- The launch worker ends, then `SIGTERM` arrives, the guest exits and a terminate worker ends. -/
def releaseRun : List (Action 1) :=
  [.managerWorker 0, .managerWorker 0, .managerWorker 0, .receive (messageOk 50), .sigterm true,
    .receive (messageOk 100), .pidfd 0 true, .receive (messageOk 101), .managerWorker 1,
    .managerWorker 1, .managerWorker 1, .timer true, .receive (messageOk 102)]

/-- Without a launch worker's operation every action is allowed. -/
lemma stepReleases_of_not_launch {cs : Containers n}
    (h : ∀ storage, cs.operation.storage = some storage → storage.kind ≠ .launch)
    (a : Action n) : StepReleases cs a := by
  rintro sys cs' hc - - ⟨storage, hs, hkind, -⟩
  rw [cyclicEvent_operation hc] at hs
  exact absurd hkind (h storage hs)

lemma stepReleases_releaseRun :
    Transition.Guarded step StepReleases clusterLaunched releaseRun := by
  have hnone : ∀ (cs : Containers 1) (a : Action 1), cyclicEvent cs a = none → StepReleases cs a :=
    fun cs a h sys cs' hc => by simp [h] at hc
  have hfree : ∀ (cs : Containers 1) (a : Action 1),
      cs.operation.storage.map (·.kind) ≠ some .launch → StepReleases cs a := by
    intro cs a h
    exact stepReleases_of_not_launch (fun storage hs hk => h (by simp [hs, hk])) a
  refine ⟨hnone _ _ rfl, hnone _ _ rfl, hnone _ _ rfl, ?_, hnone _ _ rfl, hfree _ _ (by decide),
    hnone _ _ rfl, hfree _ _ (by decide), hnone _ _ rfl, hnone _ _ rfl, hnone _ _ rfl,
    hnone _ _ rfl, hfree _ _ (by decide), trivial⟩
  intro sys cs' hc hs
  obtain ⟨-, rfl⟩ := Prod.mk.inj (Option.some.inj hc)
  exact absurd hs (by decide)

theorem disks_released_cluster :
    DisksReleased (Transition.run step clusterLaunched releaseRun).log :=
  disks_released clusterLaunched_launched.1 clusterLaunched_launched.2 stepReleases_releaseRun

/-- The launch worker mounts the disk while the guests are shut down, and the answer is read when
they are exited. -/
def shutdownRun : List (Action 1) :=
  [.receive (messageOk 50), .sigterm true, .receive (messageOk 100), .pidfd 0 true,
    .managerWorker 0, .managerWorker 0, .receive (messageOk 101)]

/-- The manager exits with the disk mounted. -/
theorem shutdown_leaves_mounted :
    Initial (setupManager clusterGuest (managerDisks.take 1)) ∧
      Launched (fun _ => visitOk) true (setupManager clusterGuest (managerDisks.take 1))
        clusterLaunched ∧
      ¬ DisksReleased (Transition.run step clusterLaunched shutdownRun).log := by
  refine ⟨clusterLaunched_launched.1, clusterLaunched_launched.2, ?_⟩
  intro h
  exact h [] .complete _ rfl (by decide) 0
    ⟨[.worker .launch (.respond ⟨0, 0, 0⟩)], .launch, 0, _, _, rfl, le_rfl, by simp⟩

end ContainerManager

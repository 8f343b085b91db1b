import ContainerManager.Properties.Release

/-!
# No spurious acknowledgement

A poll changes the flags of an element only when it read an answer for it, but for the end of file:
the buffer is still zero then, which reads as an answer that the element of index 0 is mounted.
-/

namespace ContainerManager

variable {n : ℕ}

/-! ### Acknowledged changes -/

/-- The elements that are marked mounted otherwise than before, or not dispatched any more, are
those of the oldest packet of the socket, which a worker wrote; to be marked mounted, it tells of a
complete mount. -/
def Acknowledged (cs cs' : Containers n) : Prop :=
  ∀ (k : ℕ) (e e' : MountElem), cs.operation.mountList[k]? = some e →
    cs'.operation.mountList[k]? = some e' →
    (e'.isMounted ≠ e.isMounted ∨ e.isDispatched = true ∧ e'.isDispatched = false) →
      ∃ storage wres packets kind, cs.operation.storage = some storage ∧
        storage.packets = wres :: packets ∧ .worker kind (.respond wres) ∈ cs.log ∧
        wres.index = e.index ∧
        (e'.isMounted = true → e.isMounted = false → wres.operation = 0 ∧ wres.result = 0)

/-- A worker reported every disk that is marked mounted. -/
def MountedReported (cs : Containers n) : Prop :=
  ∀ e ∈ cs.operation.mountList, e.isMounted = true → ∃ kind wres,
    .worker kind (.respond wres) ∈ cs.log ∧ wres.index = e.index ∧ wres.operation = 0 ∧
      wres.result = 0

/-- When the poll meets the end of file, the element of index 0 is mounted and not dispatched. -/
def ReadsAnswer (read : ReadSys) (cmo : ManagerOperation) : Prop :=
  read = .normal → ∀ storage, cmo.storage = some storage → storage.packets = [] →
    storage.workerClosed = true →
      ∀ e ∈ cmo.mountList, e.index = 0 → e.isMounted = true ∧ e.isDispatched = false

/-- No poll of this step meets the end of file while the element of index 0 is dispatched or not
mounted. -/
def StepReads (cs : Containers n) (a : Action n) : Prop :=
  ∀ sys cs', cyclicEvent cs a = some (sys, cs') → cs'.Polls → ReadsAnswer sys.read cs'.operation

/-! ### One poll -/

/-- A poll leaves the elements alone, or hands them the packet it read. -/
lemma managerOperationDelayedPoll_mountList (read : ReadSys) (cmo : ManagerOperation) :
    (managerOperationDelayedPoll read cmo).1.mountList = cmo.mountList ∨
      read = .normal ∧ ∃ storage wres packets, cmo.storage = some storage ∧
        readPacket storage = some (wres, packets) ∧
        (managerOperationDelayedPoll read cmo).1.mountList =
          cmo.mountList.map (MountElem.receive wres) := by
  have asses : ∀ cmo : ManagerOperation,
      (managerOperationAsses cmo).1.mountList = cmo.mountList := by
    intro cmo
    simp only [managerOperationAsses]
    split_ifs <;> rfl
  simp only [managerOperationDelayedPoll]
  cases hst : cmo.storage with
  | none => exact Or.inl rfl
  | some storage =>
    cases read with
    | error => exact Or.inl rfl
    | eintr => exact Or.inl (asses cmo)
    | normal =>
      dsimp only
      cases hr : readPacket storage with
      | none => exact Or.inl (asses cmo)
      | some r => exact Or.inr ⟨rfl, storage, r.1, r.2, rfl, hr, asses _⟩

/-- The ways an element changes: it is dispatched, or the oldest packet of the socket is its
answer. -/
inductive ElemChange (cmo : ManagerOperation) (e : MountElem) : MountElem → Prop where
  | keep : ElemChange cmo e e
  | dispatched : ElemChange cmo e { e with isDispatched := true }
  | answered (storage : OperationStorage) (wres : WorkerResponse) (packets : List WorkerResponse)
      (hs : cmo.storage = some storage) (hp : storage.packets = wres :: packets)
      (hi : wres.index = e.index) : ElemChange cmo e (e.receive wres)

/-- A poll that reads an answer changes an element only by the oldest packet. -/
lemma poll_elemChange {read : ReadSys} {cmo : ManagerOperation} (hr : ReadsAnswer read cmo)
    {k : ℕ} {e' : MountElem}
    (he' : (managerOperationDelayedPoll read cmo).1.mountList[k]? = some e') :
    ∃ e, cmo.mountList[k]? = some e ∧ ElemChange cmo e e' := by
  rcases managerOperationDelayedPoll_mountList read cmo with
    h | ⟨hread, storage, wres, packets, hs, hp, h⟩
  · exact ⟨e', h ▸ he', .keep⟩
  · rw [h, List.getElem?_map] at he'
    obtain ⟨e, he, rfl⟩ := Option.map_eq_some_iff.mp he'
    refine ⟨e, he, ?_⟩
    by_cases hi : e.index = wres.index
    swap
    · rw [MountElem.receive_of_ne hi]
      exact .keep
    simp only [readPacket] at hp
    split at hp
    · rename_i wres' packets' hpk
      obtain ⟨rfl, rfl⟩ := Prod.mk.inj (Option.some.inj hp)
      exact .answered storage _ _ hs hpk hi.symm
    · -- at the end of file the element is as the zeroed packet tells
      rename_i hpk
      split_ifs at hp with hclosed
      obtain ⟨rfl, -⟩ := Prod.mk.inj (Option.some.inj hp)
      obtain ⟨hm, hd⟩ := hr hread storage hs hpk hclosed e (List.mem_of_getElem? he) hi
      have hsame : e.receive ⟨0, 0, 0⟩ = e := by
        obtain ⟨⟩ := e
        simp_all [MountElem.receive]
      rw [hsame]
      exact .keep

/-- What an answer marks mounted it tells to be so. -/
lemma MountElem.receive_mounted {wres : WorkerResponse} {e : MountElem} (h : e.isMounted = false)
    (h' : (e.receive wres).isMounted = true) : wres.operation = 0 ∧ wres.result = 0 := by
  simp only [MountElem.receive] at h'
  split_ifs at h' with hi ho hr <;> simp_all

/-! ### Dispatch -/

/-- A dispatch marks elements only. -/
lemma dispatchElems_elemChange {select : MountElem → Bool} {malloc : ℕ → Bool}
    (cmo : ManagerOperation) {l : List MountElem} {k : ℕ} {e' : MountElem}
    (he' : (dispatchElems select malloc l).1[k]? = some e') :
    ∃ e, l[k]? = some e ∧ ElemChange cmo e e' := by
  induction l generalizing malloc k with
  | nil => simp [dispatchElems] at he'
  | cons a l ih =>
    simp only [dispatchElems] at he'
    split_ifs at he' with hs hm
    · cases k with
      | zero =>
        obtain rfl := Option.some.inj he'
        exact ⟨a, rfl, .dispatched⟩
      | succ k => exact ih he'
    · exact ⟨e', he', .keep⟩
    · cases k with
      | zero => exact ⟨e', he', .keep⟩
      | succ k => exact ih he'

lemma managerOperationDispatch_elemChange {kind : OperationKind} {select : MountElem → Bool}
    {sys : DispatchSys} {cmo : ManagerOperation} {k : ℕ} {e' : MountElem}
    (he' : (managerOperationDispatch kind select sys cmo).1.mountList[k]? = some e') :
    ∃ e, cmo.mountList[k]? = some e ∧ ElemChange cmo e e' := by
  have hl : (managerOperationDispatch kind select sys cmo).1.mountList = cmo.mountList ∨
      (managerOperationDispatch kind select sys cmo).1.mountList =
        (dispatchElems select sys.mallocElem cmo.mountList).1 := by
    simp only [managerOperationDispatch]
    split
    · exact Or.inl rfl
    · split
      · exact Or.inl rfl
      · split
        · exact Or.inr rfl
        · exact Or.inr rfl
        · split <;> exact Or.inr rfl
  rcases hl with hl | hl
  · exact ⟨e', hl ▸ he', .keep⟩
  · exact dispatchElems_elemChange cmo (hl ▸ he')

/-- A worker thread does not touch the elements. -/
lemma managerWorkerStep_mountList (k : ℕ) (cmo : ManagerOperation) :
    (managerWorkerStep k cmo).1.mountList = cmo.mountList := by
  rcases managerWorkerStep_cases k cmo with e | ⟨serial, kind, action, todo, -, e⟩ <;> rw [e]

/-! ### Steps -/

/-- The elements after one event. -/
lemma step_elemChange {cs : Containers n} {a : Action n} (hg : StepReads cs a) {k : ℕ}
    {e' : MountElem} (he' : (step cs a).operation.mountList[k]? = some e') :
    ∃ e, cs.operation.mountList[k]? = some e ∧ ElemChange cs.operation e e' := by
  have o := step_operationStep cs a
  change (step cs a).operationLog.1.mountList[k]? = some e' at he'
  generalize (step cs a).operationLog = r at o he'
  cases o with
  | idle => exact ⟨e', he', .keep⟩
  | poll sys cs' hc hp =>
    have hr := hg sys cs' hc hp
    rw [cyclicEvent_operation hc] at hr
    exact poll_elemChange hr he'
  | terminate sys => exact managerOperationDispatch_elemChange he'
  | worker j =>
    rw [managerWorkerStep_mountList] at he'
    exact ⟨e', he', .keep⟩

/-- The packets of a poll's socket are those it had before. -/
lemma managerOperationDelayedPoll_packets {read : ReadSys} {cmo : ManagerOperation}
    {storage : OperationStorage}
    (h : (managerOperationDelayedPoll read cmo).1.storage = some storage) :
    ∃ storage', cmo.storage = some storage' ∧
      ∀ wres ∈ storage.packets, wres ∈ storage'.packets := by
  have o := managerOperationDelayedPoll_outcome read cmo
  generalize managerOperationDelayedPoll read cmo = r at o h
  cases o with
  | idle => exact ⟨storage, h, fun _ hw => hw⟩
  | failed => exact ⟨storage, h, fun _ hw => hw⟩
  | running _ cmo' hr =>
    cases hr with
    | nothing => exact ⟨storage, h, fun _ hw => hw⟩
    | packet storage' wres packets hst hp =>
      obtain rfl := Option.some.inj h
      exact ⟨storage', hst, fun w hw => by rw [hp]; exact List.mem_cons_of_mem _ hw⟩
    | eof storage' hst =>
      obtain rfl := Option.some.inj h
      exact ⟨storage', hst, by simp⟩
  | completed => simp at h

/-- A dispatch leaves the socket, or opens one without packets. -/
lemma managerOperationDispatch_storage {kind : OperationKind} {select : MountElem → Bool}
    {sys : DispatchSys} {cmo : ManagerOperation} {storage : OperationStorage}
    (h : (managerOperationDispatch kind select sys cmo).1.storage = some storage) :
    cmo.storage = some storage ∨ storage.packets = [] := by
  have o := managerOperationDispatch_outcome kind select sys cmo
  generalize managerOperationDispatch kind select sys cmo = r at o h
  cases o with
  | busy => exact Or.inl h
  | failed => exact Or.inl h
  | nothing => exact Or.inl h
  | dispatched =>
    obtain rfl := Option.some.inj h
    exact Or.inr rfl

/-- The log of the workers only grows. -/
lemma step_workerLog {cs : Containers n} (a : Action n) {kind : OperationKind}
    {action : WorkerAction} (h : .worker kind action ∈ cs.log) :
    .worker kind action ∈ (step cs a).log := by
  have o := step_operationStep cs a
  rw [← mem_workerLog] at h ⊢
  show _ ∈ (step cs a).operationLog.2
  generalize (step cs a).operationLog = r at o ⊢
  cases o with
  | idle => exact h
  | poll => exact h
  | terminate => exact h
  | worker k => exact List.mem_append_right _ h

/-! ### Runs -/

/-- What a run keeps: the packets of the socket were written by a worker, and every mounted disk was
reported. -/
structure ReportedInvariant (cs : Containers n) : Prop where
  written : ∀ storage, cs.operation.storage = some storage → ∀ wres ∈ storage.packets,
    ∃ kind, .worker kind (.respond wres) ∈ cs.log
  reported : MountedReported cs

namespace ReportedInvariant

variable {cs : Containers n}

/-- The packets of the socket after one event. -/
lemma step_written (h : ReportedInvariant cs) (a : Action n) :
    ∀ storage, (step cs a).operation.storage = some storage → ∀ wres ∈ storage.packets,
      ∃ kind, .worker kind (.respond wres) ∈ (step cs a).log := by
  have o := step_operationStep cs a
  have key : ∀ storage, (step cs a).operationLog.1.storage = some storage →
      ∀ wres ∈ storage.packets, ∃ kind, (kind, .respond wres) ∈ (step cs a).operationLog.2 := by
    have old : ∀ storage, cs.operation.storage = some storage → ∀ wres ∈ storage.packets,
        ∃ kind, (kind, .respond wres) ∈ cs.workerLog := by
      intro storage hs wres hw
      obtain ⟨kind, hlog⟩ := h.written storage hs wres hw
      exact ⟨kind, mem_workerLog.mpr hlog⟩
    generalize (step cs a).operationLog = r at o ⊢
    cases o with
    | idle => exact old
    | poll sys cs' =>
      intro storage hs wres hw
      obtain ⟨storage', hs', hsub⟩ := managerOperationDelayedPoll_packets hs
      exact old storage' hs' wres (hsub wres hw)
    | terminate sys =>
      intro storage hs wres hw
      rcases managerOperationDispatch_storage hs with hs | hnil
      · exact old storage hs wres hw
      · simp [hnil] at hw
    | worker k =>
      rcases managerWorkerStep_cases k cs.operation with e | ⟨serial, kind, action, todo, ht, e⟩
      · rw [e]
        exact old
      · rw [e]
        intro storage hs wres hw
        obtain ⟨storage', hs', rfl⟩ := Option.map_eq_some_iff.mp hs
        rcases WorkerThread.perform_packets hw with hw | rfl
        · obtain ⟨kind', hlog⟩ := old storage' hs' wres hw
          exact ⟨kind', List.mem_cons_of_mem _ hlog⟩
        · exact ⟨kind, List.mem_cons_self⟩
  intro storage hs wres hw
  obtain ⟨kind, hlog⟩ := key storage hs wres hw
  exact ⟨kind, mem_workerLog.mp hlog⟩

/-- The elements that change are those of the packet that was read. -/
lemma acknowledged (h : ReportedInvariant cs) {a : Action n} (hg : StepReads cs a) :
    Acknowledged cs (step cs a) := by
  intro k e e' he he' hchange
  obtain ⟨e₀, he₀, hc⟩ := step_elemChange hg he'
  obtain rfl : e₀ = e := Option.some.inj (he₀.symm.trans he)
  cases hc with
  | keep => simp at hchange
  | dispatched => simp at hchange
  | answered storage wres packets hs hp hi =>
    obtain ⟨kind, hlog⟩ := h.written storage hs wres (by simp [hp])
    exact ⟨storage, wres, packets, kind, hs, hp, hlog, hi,
      fun h' h => MountElem.receive_mounted h h'⟩

lemma step (h : ReportedInvariant cs) {a : Action n} (hg : StepReads cs a) :
    ReportedInvariant (step cs a) := by
  refine ⟨h.step_written a, ?_⟩
  intro e' he' hm
  obtain ⟨k, hk⟩ := List.mem_iff_getElem?.mp he'
  obtain ⟨e, he, hc⟩ := step_elemChange hg hk
  -- a disk that was mounted before was reported before
  have old : e.isMounted = true → ∃ kind wres,
      .worker kind (.respond wres) ∈ (ContainerManager.step cs a).log ∧ wres.index = e.index ∧
        wres.operation = 0 ∧ wres.result = 0 := by
    intro hm
    obtain ⟨kind, wres, hlog, hw⟩ := h.reported e (List.mem_of_getElem? he) hm
    exact ⟨kind, wres, step_workerLog a hlog, hw⟩
  cases hc with
  | keep => exact old hm
  | dispatched => exact old hm
  | answered storage wres packets hs hp hi =>
    rw [MountElem.receive_index]
    by_cases hme : e.isMounted = true
    · exact old hme
    · obtain ⟨kind, hlog⟩ := h.written storage hs wres (by simp [hp])
      exact ⟨kind, wres, step_workerLog a hlog, hi,
        MountElem.receive_mounted (by simpa using hme) hm⟩

end ReportedInvariant

/-- The disks are set up unmounted, and marked only by the dispatch of the launch worker. -/
lemma Booted.reported {sys : ℕ → VisitSys} {notify : Bool} {cs₀ cs : Containers n}
    (h₀ : Initial cs₀) (hb : Booted sys notify cs₀ cs) : ReportedInvariant cs := by
  have ho := (containerMngsmStart_outside sys notify cs₀).1
  have unmounted : ∀ e ∈ (containerMngsmStart sys notify cs₀).operation.mountList,
      e.isMounted = false := by
    intro e he
    rw [ho] at he
    simpa using (h₀.operation.elems e he).1
  have hnone : (containerMngsmStart sys notify cs₀).operation.storage = none := by
    rw [ho]
    exact h₀.operation.storage
  cases hb with
  | started =>
    refine ⟨by simp [hnone], ?_⟩
    intro e he hm
    simp [unmounted e he] at hm
  | launched dispatch =>
    constructor
    · intro storage hs wres hw
      rcases managerOperationDispatch_storage hs with hs | hnil
      · simp [hnone] at hs
      · simp [hnil] at hw
    · intro e' he' hm
      obtain ⟨k, hk⟩ := List.mem_iff_getElem?.mp he'
      obtain ⟨e, he, hc⟩ := managerOperationDispatch_elemChange hk
      have hum := unmounted e (List.mem_of_getElem? he)
      cases hc with
      | keep => simp [hum] at hm
      | dispatched => simp [hum] at hm
      | answered storage _ _ hs => simp [hnone] at hs

/-- In a run whose polls meet no end of file that would change an element, every change of an
element is that of an answer which a worker wrote, and every disk that is marked mounted was
reported. -/
theorem changes_acknowledged {cs₀ cs : Containers n} (h₀ : Initial cs₀) {sys : ℕ → VisitSys}
    {notify : Bool} (hb : Booted sys notify cs₀ cs) {as : List (Action n)} {a : Action n}
    (hg : Transition.Guarded step StepReads cs (as ++ [a])) :
    Acknowledged (Transition.run step cs as) (Transition.run step cs (as ++ [a])) ∧
      MountedReported (Transition.run step cs (as ++ [a])) := by
  obtain ⟨has, ha, -⟩ := (Transition.guarded_append _ _ _ _ _).mp hg
  have h : ReportedInvariant (Transition.run step cs as) :=
    Transition.run_invariant_of_guarded (fun _ _ hg h => h.step hg) (hb.reported h₀) has
  rw [Transition.run_append]
  exact ⟨h.acknowledged ha, (h.step ha).reported⟩

/-- The launch worker mounts the disk and answers; its answer is read. -/
theorem changes_acknowledged_cluster :
    Acknowledged
        (Transition.run step clusterLaunched [.managerWorker 0, .managerWorker 0])
        (Transition.run step clusterLaunched
          ([.managerWorker 0, .managerWorker 0] ++ [.receive (messageOk 50)])) ∧
      MountedReported (Transition.run step clusterLaunched
        ([.managerWorker 0, .managerWorker 0] ++ [.receive (messageOk 50)])) := by
  refine changes_acknowledged clusterLaunched_launched.1 (.launched dispatchOk)
    ⟨fun sys cs' hc => by simp [cyclicEvent] at hc, fun sys cs' hc => by simp [cyclicEvent] at hc,
      fun sys cs' hc _ _ storage hs hp => ?_, trivial⟩
  -- the answer is still in the socket
  obtain ⟨-, rfl⟩ := Prod.mk.inj (Option.some.inj hc)
  obtain rfl := Option.some.inj hs
  exact absurd hp (by decide)

/-- A manager whose only disk is checked when it cannot be mounted. -/
def fsckLaunched : Containers 1 :=
  (containerMngsmExecDelayedOperation
    { dispatchOk with worker :=
      { workerOk with
        first := fun _ _ => ⟨.error, .ok, .ok⟩, retake := fun _ _ => ⟨.error, .ok, .ok⟩ } }
    (containerMngsmStart (fun _ => visitOk) true (setupManager clusterGuest
      [{ mountTo := "/var/nv", filesystem := "ext4", redundancy := .fsck,
         blockdev := ("/dev/mmcblk1p10", none), index := 0 }])) 0).1

/-- The disk cannot be mounted and the worker ends without an answer; the end of file marks the disk
mounted. -/
theorem end_of_file_acknowledges :
    Reachable fsckLaunched ∧
      ¬ MountedReported (Transition.run step fsckLaunched [.managerWorker 0, .managerWorker 0,
        .managerWorker 0, .managerWorker 0, .receive (messageOk 50)]) := by
  refine ⟨⟨_, setupManager_initial clusterGuest_fresh ⟨by decide, by decide, rfl, rfl⟩,
    .init ⟨_, _, .launched _⟩⟩, fun h => ?_⟩
  obtain ⟨kind, wres, hlog, -⟩ := h _ List.mem_cons_self (by decide)
  have hw := mem_responses.mpr
    (List.mem_map_of_mem (f := Prod.snd) (mem_workerLog.mpr hlog))
  exact absurd (List.ne_nil_of_mem hw) (by decide)

end ContainerManager

import ContainerManager.Operations.Trace
import ContainerManager.Lib.Transition

/-!
# The exchange between the host and its worker

What a dispatch hands to the worker, what a poll makes of an answer, and the runs of a worker thread
next to the host that polls.
-/

namespace ContainerManager

/-! ### Dispatch -/

/-- The mark that a dispatch leaves on a selected element. -/
def MountElem.dispatchIf (select : MountElem → Bool) (e : MountElem) : MountElem :=
  if select e then { e with isDispatched := true } else e

@[simp] lemma MountElem.dispatchIf_index (select : MountElem → Bool) (e : MountElem) :
    (e.dispatchIf select).index = e.index := by
  simp only [dispatchIf]
  split_ifs <;> rfl

@[simp] lemma MountElem.dispatchIf_state (select : MountElem → Bool) (e : MountElem) :
    (e.dispatchIf select).state = e.state := by
  simp only [dispatchIf]
  split_ifs <;> rfl

/-- The copies that a dispatch hands to the worker. -/
def dispatchCopies (select : MountElem → Bool) (mountList : List MountElem) : List MountElem :=
  (mountList.filter select).map MountElem.workerCopy

lemma dispatchElems_some (select : MountElem → Bool) (malloc : ℕ → Bool) (l : List MountElem) :
    (∀ elems, (dispatchElems select malloc l).2 = some elems →
        (dispatchElems select malloc l).1 = l.map (MountElem.dispatchIf select) ∧
          elems = dispatchCopies select l) ∧
      ∀ e ∈ l, e ∈ (dispatchElems select malloc l).1 ∨
        { e with isDispatched := true } ∈ (dispatchElems select malloc l).1 := by
  induction l generalizing malloc with
  | nil => simp [dispatchElems, dispatchCopies]
  | cons e l ih =>
    obtain ⟨hsome, hmem⟩ := ih fun k => malloc (k + 1)
    obtain ⟨hsome', hmem'⟩ := ih malloc
    simp only [dispatchElems]
    split_ifs with hs hm
    · constructor
      · intro elems h
        obtain ⟨elems', h', rfl⟩ := Option.map_eq_some_iff.mp h
        obtain ⟨h1, rfl⟩ := hsome elems' h'
        simp [h1, MountElem.dispatchIf, dispatchCopies, hs]
      · intro e' he'
        rcases List.mem_cons.mp he' with rfl | he'
        · exact Or.inr List.mem_cons_self
        · exact (hmem e' he').imp (List.mem_cons_of_mem _) (List.mem_cons_of_mem _)
    · exact ⟨by simp, fun e' he' => Or.inl he'⟩
    · constructor
      · intro elems h
        obtain ⟨h1, rfl⟩ := hsome' elems h
        simp [h1, MountElem.dispatchIf, dispatchCopies, hs]
      · intro e' he'
        rcases List.mem_cons.mp he' with rfl | he'
        · exact Or.inl List.mem_cons_self
        · exact (hmem' e' he').imp (List.mem_cons_of_mem _) (List.mem_cons_of_mem _)

/-- The loop keeps the elements in their order, and marks selected ones only. -/
lemma dispatchElems_marks (select : MountElem → Bool) (malloc : ℕ → Bool) (l : List MountElem) :
    (dispatchElems select malloc l).1.map MountElem.index = l.map MountElem.index ∧
      ∀ e' ∈ (dispatchElems select malloc l).1,
        ∃ e ∈ l, e' = e ∨ select e = true ∧ e' = { e with isDispatched := true } := by
  induction l generalizing malloc with
  | nil => simp [dispatchElems]
  | cons e l ih =>
    -- what the rest of the loop leaves comes from an element of the rest
    have rest : ∀ malloc, ∀ e' ∈ (dispatchElems select malloc l).1,
        ∃ e₀ ∈ e :: l, e' = e₀ ∨ select e₀ = true ∧ e' = { e₀ with isDispatched := true } := by
      intro malloc e' he'
      obtain ⟨e₀, he₀, h⟩ := (ih malloc).2 e' he'
      exact ⟨e₀, List.mem_cons_of_mem _ he₀, h⟩
    simp only [dispatchElems]
    split_ifs with hs hm
    · refine ⟨by simp [(ih _).1], fun e' he' => ?_⟩
      rcases List.mem_cons.mp he' with rfl | he'
      · exact ⟨e, List.mem_cons_self, Or.inr ⟨hs, rfl⟩⟩
      · exact rest _ e' he'
    · exact ⟨rfl, fun e' he' => ⟨e', he', Or.inl rfl⟩⟩
    · refine ⟨by simp [(ih _).1], fun e' he' => ?_⟩
      rcases List.mem_cons.mp he' with rfl | he'
      · exact ⟨e', List.mem_cons_self, Or.inl rfl⟩
      · exact rest _ e' he'

/-- The ways a dispatch ends. -/
inductive DispatchOutcome (kind : OperationKind) (select : MountElem → Bool) (sys : DispatchSys)
    (cmo : ManagerOperation) : ManagerOperation × ℤ → Prop where
  /-- an operation is running already -/
  | busy (h : cmo.storage ≠ none) : DispatchOutcome kind select sys cmo (cmo, -1)
  /-- there is no worker; some elements may be marked -/
  | failed (l : List MountElem) (ret : ℤ) (h : cmo.storage = none) (hret : ret = -2 ∨ ret = -3)
      (hl : ∀ e ∈ cmo.mountList, e ∈ l ∨ { e with isDispatched := true } ∈ l)
      (hi : l.map MountElem.index = cmo.mountList.map MountElem.index)
      (hm : ∀ e' ∈ l, ∃ e ∈ cmo.mountList,
        e' = e ∨ select e = true ∧ e' = { e with isDispatched := true }) :
      DispatchOutcome kind select sys cmo ({ cmo with mountList := l }, ret)
  /-- no element is selected -/
  | nothing (h : cmo.storage = none) (hs : ∀ e ∈ cmo.mountList, select e = false) :
      DispatchOutcome kind select sys cmo (cmo, 1)
  /-- the selected elements are handed to a worker -/
  | dispatched (h : cmo.storage = none) (hs : ∃ e ∈ cmo.mountList, select e = true) :
      DispatchOutcome kind select sys cmo
        ({ cmo with
          mountList := cmo.mountList.map (MountElem.dispatchIf select)
          storage := some { serial := cmo.dispatches, kind := kind }
          threads := if sys.pthreadCreate = 0 then cmo.threads ++ [⟨cmo.dispatches, kind,
              containerManagerWorkerThread sys.worker (dispatchCopies select cmo.mountList)⟩]
            else cmo.threads
          dispatches := cmo.dispatches + 1 }, 0)

lemma managerOperationDispatch_outcome (kind : OperationKind) (select : MountElem → Bool)
    (sys : DispatchSys) (cmo : ManagerOperation) :
    DispatchOutcome kind select sys cmo (managerOperationDispatch kind select sys cmo) := by
  obtain ⟨hsome, hmem⟩ := dispatchElems_some select sys.mallocElem cmo.mountList
  obtain ⟨hindex, hmarks⟩ := dispatchElems_marks select sys.mallocElem cmo.mountList
  rw [managerOperationDispatch]
  by_cases hst : cmo.storage.isSome
  · rw [if_pos hst]
    exact .busy (by simpa [Option.isSome_iff_ne_none] using hst)
  rw [if_neg hst]
  have hnone : cmo.storage = none := by simpa using hst
  by_cases hok : sys.mallocStorage ∧ sys.mallocWorker ∧ sys.socketpair
  swap
  · rw [if_pos hok]
    exact .failed _ _ hnone (Or.inl rfl) (fun e he => Or.inl he) rfl
      fun e' he' => ⟨e', he', Or.inl rfl⟩
  rw [if_neg (not_not.mpr hok)]
  dsimp only
  split
  · exact .failed _ _ hnone (Or.inr rfl) hmem hindex hmarks
  · rename_i hd
    obtain ⟨hl, hc⟩ := hsome [] hd
    have hs : ∀ e ∈ cmo.mountList, select e = false := by
      intro e he
      by_contra hse
      have hm : e.workerCopy ∈ dispatchCopies select cmo.mountList :=
        List.mem_map_of_mem (List.mem_filter.mpr ⟨he, by simpa using hse⟩)
      rw [← hc] at hm
      simp at hm
    have e : cmo.mountList.map (MountElem.dispatchIf select) = cmo.mountList := by
      conv_rhs => rw [← List.map_id cmo.mountList]
      exact List.map_congr_left fun e he => by simp [MountElem.dispatchIf, hs e he]
    rw [hl, e]
    exact .nothing hnone hs
  · rename_i elems hne hd
    obtain ⟨hl, rfl⟩ := hsome elems hd
    by_cases hp : sys.pthreadCreate < 0
    · rw [if_pos hp]
      exact .failed _ _ hnone (Or.inr rfl) hmem hindex hmarks
    · rw [if_neg hp, hl]
      refine .dispatched hnone ?_
      by_contra hall
      refine hne ?_
      rw [dispatchCopies, List.map_eq_nil_iff, List.filter_eq_nil_iff]
      exact fun e he hs => hall ⟨e, he, hs⟩

/-! ### Poll -/

@[simp] lemma MountElem.receive_index (wres : WorkerResponse) (e : MountElem) :
    (e.receive wres).index = e.index := by
  simp only [MountElem.receive]
  split_ifs <;> rfl

lemma MountElem.receive_of_ne {wres : WorkerResponse} {e : MountElem}
    (h : e.index ≠ wres.index) : e.receive wres = e := by
  rw [MountElem.receive, if_neg h]

/-- The answer to a mount or an unmount ends the dispatch of its element. -/
lemma MountElem.receive_isDispatched {wres : WorkerResponse}
    (h : wres.operation = 0 ∨ wres.operation = 1) (e : MountElem) :
    (e.receive wres).isDispatched = true ↔ e.isDispatched = true ∧ e.index ≠ wres.index := by
  by_cases hi : e.index = wres.index
  · simp only [MountElem.receive]
    rw [if_pos hi]
    rcases h with h | h <;> split_ifs <;> simp_all
  · simp [MountElem.receive_of_ne hi, hi]

/-- What a poll that reads may have received. -/
inductive Received (cmo : ManagerOperation) : ManagerOperation → Prop where
  | nothing : Received cmo cmo
  | packet (storage : OperationStorage) (wres : WorkerResponse) (packets : List WorkerResponse)
      (hst : cmo.storage = some storage) (hp : storage.packets = wres :: packets) :
      Received cmo { cmo with
        mountList := cmo.mountList.map (MountElem.receive wres)
        storage := some { storage with packets := packets } }
  /-- the buffer stays zero at the end of file -/
  | eof (storage : OperationStorage) (hst : cmo.storage = some storage)
      (hp : storage.packets = []) (hc : storage.workerClosed = true) :
      Received cmo { cmo with
        mountList := cmo.mountList.map (MountElem.receive ⟨0, 0, 0⟩)
        storage := some { storage with packets := [] } }

/-- Receiving changes neither the elements' indexes and states, nor the threads. -/
lemma Received.frame {cmo cmo' : ManagerOperation} (h : Received cmo cmo') :
    cmo'.mountList.map MountElem.index = cmo.mountList.map MountElem.index ∧
      cmo'.mountList.map MountElem.state = cmo.mountList.map MountElem.state ∧
      cmo'.threads = cmo.threads ∧ cmo'.dispatches = cmo.dispatches := by
  have hstate : ∀ (wres : WorkerResponse) (e : MountElem), (e.receive wres).state = e.state := by
    intro wres e
    simp only [MountElem.receive]
    split_ifs <;> rfl
  cases h <;> simp [Function.comp_def, hstate]

/-- The ways a poll ends: 1 is returned when no element is dispatched any more. -/
inductive PollOutcome (cmo : ManagerOperation) : ManagerOperation × ℤ → Prop where
  | idle (h : cmo.storage = none) : PollOutcome cmo (cmo, -1)
  | failed (h : cmo.storage ≠ none) : PollOutcome cmo (cmo, -3)
  | running (h : cmo.storage ≠ none) (cmo' : ManagerOperation) (hr : Received cmo cmo')
      (hd : cmo'.mountList = [] ∨ ∃ e ∈ cmo'.mountList, e.isDispatched = true) :
      PollOutcome cmo (cmo', 0)
  | completed (h : cmo.storage ≠ none) (cmo' : ManagerOperation) (hr : Received cmo cmo')
      (hd : ∀ e ∈ cmo'.mountList, e.isDispatched = false) :
      PollOutcome cmo ({ cmo' with storage := none }, 1)

lemma managerOperationDelayedPoll_outcome (read : ReadSys) (cmo : ManagerOperation) :
    PollOutcome cmo (managerOperationDelayedPoll read cmo) := by
  have asses : cmo.storage ≠ none → ∀ cmo', Received cmo cmo' →
      PollOutcome cmo (managerOperationAsses cmo') := by
    intro h cmo' hr
    simp only [managerOperationAsses]
    split_ifs with hall
    · exact .completed h cmo' hr (by simpa using hall.2)
    · refine .running h cmo' hr ?_
      by_cases hnil : cmo'.mountList = []
      · exact Or.inl hnil
      · refine Or.inr ?_
        by_contra hn
        exact hall ⟨hnil, by simpa using hn⟩
  simp only [managerOperationDelayedPoll]
  split
  · rename_i hst
    exact .idle hst
  · rename_i storage hst
    have hsome : cmo.storage ≠ none := by simp [hst]
    split
    · exact .failed hsome
    · exact asses hsome _ .nothing
    · simp only [readPacket]
      split
      · exact asses hsome _ .nothing
      · rename_i wres packets hread
        split at hread
        · rename_i wres' packets' hp
          obtain ⟨rfl, rfl⟩ := Prod.mk.inj (Option.some.inj hread)
          exact asses hsome _ (.packet storage _ _ hst hp)
        · rename_i hp
          split_ifs at hread with hc
          obtain ⟨rfl, rfl⟩ := Prod.mk.inj (Option.some.inj hread)
          exact asses hsome _ (.eof storage hst hp hc)

/-! ### Runs of the exchange -/

/-- A worker thread takes its next action, or the host polls. -/
inductive ExchangeAction where
  | worker (k : ℕ)
  | poll (read : ReadSys)

/-- One step of the exchange, with the values the polls returned so far, newest first. -/
def exchangeStep (s : ManagerOperation × List ℤ) : ExchangeAction → ManagerOperation × List ℤ
  | .worker k => ((managerWorkerStep k s.1).1, s.2)
  | .poll read =>
    let r := managerOperationDelayedPoll read s.1
    (r.1, r.2 :: s.2)

/-- An element of this index is dispatched. -/
def ManagerOperation.Outstanding (cmo : ManagerOperation) (index : ℕ) : Prop :=
  ∃ e ∈ cmo.mountList, e.index = index ∧ e.isDispatched = true

/-- The answer is one to a mount or an unmount. -/
def WorkerResponse.Known (wres : WorkerResponse) : Prop := wres.operation = 0 ∨ wres.operation = 1

lemma Received.outstanding_packet {cmo : ManagerOperation} {wres : WorkerResponse}
    (h : wres.Known) (index : ℕ) (storage : Option OperationStorage) :
    ({ cmo with
        mountList := cmo.mountList.map (MountElem.receive wres)
        storage := storage } : ManagerOperation).Outstanding index ↔
      cmo.Outstanding index ∧ index ≠ wres.index := by
  simp only [ManagerOperation.Outstanding]
  constructor
  · rintro ⟨e, he, rfl, hd⟩
    obtain ⟨e', he', rfl⟩ := List.mem_map.mp he
    rw [MountElem.receive_isDispatched h] at hd
    rw [MountElem.receive_index]
    exact ⟨⟨e', he', rfl, hd.1⟩, hd.2⟩
  · rintro ⟨⟨e, he, rfl, hd⟩, hne⟩
    exact ⟨e.receive wres, List.mem_map_of_mem he, by simp,
      (MountElem.receive_isDispatched h e).mpr ⟨hd, hne⟩⟩

/-- What a run of the exchange keeps: the answers under way are those to the dispatched elements,
until a poll returns 1. The worker is at place `k` of the thread list. -/
structure Exchanging (k serial : ℕ) (s : ManagerOperation × List ℤ) : Prop where
  thread : ∃ kind todo, s.1.threads[k]? = some ⟨serial, kind, todo⟩ ∧ .close ∉ todo.dropLast ∧
    (∀ wres ∈ responses todo, wres.Known) ∧
    ∀ storage, s.1.storage = some storage → storage.serial = serial ∧
      Channel.Answered s.1.Outstanding (storage.packets.map WorkerResponse.index)
        ((responses todo).map WorkerResponse.index) ∧
      (∀ wres ∈ storage.packets, wres.Known) ∧
      (storage.workerClosed = true → todo = []) ∧ ∃ index, s.1.Outstanding index
  others : ∀ j, j ≠ k → ∀ t ∈ s.1.threads[j]?, t.serial ≠ serial
  done : s.1.storage = none → (∀ index, ¬ s.1.Outstanding index) ∧ 1 ∈ s.2

/-- A thread's step takes its first action, if it has one. -/
lemma managerWorkerStep_cases (j : ℕ) (cmo : ManagerOperation) :
    (managerWorkerStep j cmo = (cmo, none)) ∨
      ∃ serial kind action todo, cmo.threads[j]? = some ⟨serial, kind, action :: todo⟩ ∧
        managerWorkerStep j cmo =
          ({ cmo with
              threads := cmo.threads.set j ⟨serial, kind, todo⟩
              storage := cmo.storage.map
                (WorkerThread.perform ⟨serial, kind, action :: todo⟩ action) },
            some (kind, action)) := by
  simp only [managerWorkerStep]
  split
  · exact Or.inl rfl
  · rename_i thread ht
    obtain ⟨serial, kind, acts⟩ := thread
    cases acts with
    | nil => exact Or.inl rfl
    | cons action todo => exact Or.inr ⟨serial, kind, action, todo, ht, rfl⟩

lemma WorkerThread.perform_of_ne {thread : WorkerThread} {action : WorkerAction}
    {storage : OperationStorage} (h : storage.serial ≠ thread.serial) :
    thread.perform action storage = storage := by
  simp only [WorkerThread.perform]
  rw [if_neg h]

/-- The action writes no packet for the index, and does not close the socket. -/
lemma WorkerThread.perform_other (thread : WorkerThread) {action : WorkerAction}
    {storage : OperationStorage} {index : ℕ} (hclose : action ≠ .close)
    (hresp : ∀ wres, action = .respond wres → wres.index ≠ index)
    (hp : ∀ wres ∈ storage.packets, wres.index ≠ index) (hc : storage.workerClosed = false) :
    (∀ wres ∈ (thread.perform action storage).packets, wres.index ≠ index) ∧
      (thread.perform action storage).workerClosed = false := by
  simp only [WorkerThread.perform]
  split_ifs
  · cases action with
    | respond wres =>
      refine ⟨fun w hw => ?_, hc⟩
      rcases List.mem_append.mp hw with hw | hw
      · exact hp w hw
      · rw [List.mem_singleton.mp hw]
        exact hresp wres rfl
    | close => exact absurd rfl hclose
    | _ => exact ⟨hp, hc⟩
  · exact ⟨hp, hc⟩

/-- A thread writes at most the answer it is at. -/
lemma WorkerThread.perform_packets {thread : WorkerThread} {action : WorkerAction}
    {storage : OperationStorage} {wres : WorkerResponse}
    (h : wres ∈ (thread.perform action storage).packets) :
    wres ∈ storage.packets ∨ action = .respond wres := by
  simp only [WorkerThread.perform] at h
  split_ifs at h
  · cases action with
    | respond wres' =>
      rcases List.mem_append.mp h with h | h
      · exact Or.inl h
      · exact Or.inr (by rw [List.mem_singleton.mp h])
    | _ => exact Or.inl h
  · exact Or.inl h

lemma WorkerThread.perform_frame (thread : WorkerThread) (action : WorkerAction)
    (storage : OperationStorage) :
    (thread.perform action storage).kind = storage.kind ∧
      (thread.perform action storage).serial = storage.serial := by
  simp only [WorkerThread.perform]
  split_ifs
  · cases action <;> exact ⟨rfl, rfl⟩
  · exact ⟨rfl, rfl⟩

/-- A step of the worker itself. -/
lemma Exchanging.own {k serial : ℕ} {s : ManagerOperation × List ℤ} (h : Exchanging k serial s)
    {kind : OperationKind} {action : WorkerAction} {todo : List WorkerAction}
    (ht : s.1.threads[k]? = some ⟨serial, kind, action :: todo⟩) :
    Exchanging k serial ({ s.1 with
      threads := s.1.threads.set k ⟨serial, kind, todo⟩
      storage := s.1.storage.map (WorkerThread.perform ⟨serial, kind, action :: todo⟩ action) },
        s.2) := by
  obtain ⟨kind', todo', ht', hclose, hknown, hst⟩ := h.thread
  obtain ⟨-, rfl, rfl⟩ := WorkerThread.mk.inj (Option.some.inj (ht.symm.trans ht'))
  have hk : k < s.1.threads.length := by
    by_contra hk
    rw [List.getElem?_eq_none (not_lt.mp hk)] at ht
    simp at ht
  have hclose' : .close ∉ todo.dropLast := by
    intro hm
    have hne : todo ≠ [] := by
      rintro rfl
      simp at hm
    rw [List.dropLast_cons_of_ne_nil hne] at hclose
    exact hclose (List.mem_cons_of_mem _ hm)
  refine ⟨⟨kind, todo, by simp [hk], hclose', fun wres hm => hknown wres ?_, ?_⟩, ?_, ?_⟩
  · rw [mem_responses] at hm ⊢
    exact List.mem_cons_of_mem _ hm
  · intro storage' hs'
    obtain ⟨storage, hs, rfl⟩ := Option.map_eq_some_iff.mp hs'
    obtain ⟨hser, hans, hpk, hcl, hout⟩ := hst storage hs
    have hopen : storage.workerClosed = false := by
      by_contra hc
      simpa using hcl (by simpa using hc)
    simp only [WorkerThread.perform]
    rw [if_pos hser]
    cases action with
    | respond wres =>
      refine ⟨hser, ?_, ?_, by simp [hopen], hout⟩
      · rw [List.map_append]
        exact Channel.Answered.write hans
      · intro w hw
        rcases List.mem_append.mp hw with hw | hw
        · exact hpk w hw
        · rw [List.mem_singleton.mp hw]
          exact hknown wres (by simp [responses])
    | close =>
      refine ⟨hser, hans, hpk, ?_, hout⟩
      intro _
      by_contra hne
      rw [List.dropLast_cons_of_ne_nil hne] at hclose
      exact hclose List.mem_cons_self
    | _ => exact ⟨hser, hans, hpk, by simp [hopen], hout⟩
  · intro j hj t htj
    rw [List.getElem?_set_ne hj.symm] at htj
    exact h.others j hj t htj
  · intro hnone
    exact h.done (by simpa using hnone)

/-- A step of an older worker thread, whose socket is another one. -/
lemma Exchanging.other {k serial : ℕ} {s : ManagerOperation × List ℤ} (h : Exchanging k serial s)
    {j serial' : ℕ} (hj : j ≠ k) {kind : OperationKind} {action : WorkerAction}
    {todo : List WorkerAction} (ht : s.1.threads[j]? = some ⟨serial', kind, action :: todo⟩) :
    Exchanging k serial ({ s.1 with
      threads := s.1.threads.set j ⟨serial', kind, todo⟩
      storage := s.1.storage.map (WorkerThread.perform ⟨serial', kind, action :: todo⟩ action) },
        s.2) := by
  have hne : serial' ≠ serial := h.others j hj _ ht
  obtain ⟨kind₀, todo₀, ht₀, hclose, hknown, hst⟩ := h.thread
  have hsame : s.1.storage.map (WorkerThread.perform ⟨serial', kind, action :: todo⟩ action) =
      s.1.storage := by
    cases hs : s.1.storage with
    | none => rfl
    | some storage =>
      rw [Option.map_some, WorkerThread.perform_of_ne]
      exact fun e => hne (e.symm.trans (hst storage hs).1)
  rw [hsame]
  refine ⟨⟨kind₀, todo₀, ?_, hclose, hknown, hst⟩, fun i hi t hti => ?_, h.done⟩
  · rw [List.getElem?_set_ne hj]
    exact ht₀
  · by_cases hij : i = j
    · subst hij
      have hlt : i < s.1.threads.length := by
        by_contra hlt
        rw [List.getElem?_eq_none (not_lt.mp hlt)] at ht
        simp at ht
      rw [List.getElem?_set_self hlt, Option.mem_some_iff] at hti
      rw [← hti]
      exact hne
    · rw [List.getElem?_set_ne (Ne.symm hij)] at hti
      exact h.others i hi t hti

/-- The socket of the operation holds what the worker has answered and the manager has not read. -/
structure SocketSynced (cmo : ManagerOperation) (serial : ℕ) (todo : List WorkerAction)
    (storage : OperationStorage) : Prop where
  serial_eq : storage.serial = serial
  answered : Channel.Answered cmo.Outstanding (storage.packets.map WorkerResponse.index)
    ((responses todo).map WorkerResponse.index)
  known : ∀ wres ∈ storage.packets, wres.Known
  closed : storage.workerClosed = true → todo = []

/-- What was received leaves the socket in step with the worker. -/
lemma Received.synced {cmo cmo' : ManagerOperation} (hr : Received cmo cmo') {serial : ℕ}
    {todo : List WorkerAction} (hsome : cmo.storage ≠ none)
    (h : ∀ storage, cmo.storage = some storage →
      SocketSynced cmo serial todo storage ∧ ∃ index, cmo.Outstanding index) :
    cmo'.threads = cmo.threads ∧ (cmo'.mountList = [] → cmo.mountList = []) ∧
      ∃ storage, cmo'.storage = some storage ∧ SocketSynced cmo' serial todo storage := by
  cases hr with
  | nothing =>
    obtain ⟨storage, hs⟩ := Option.ne_none_iff_exists'.mp hsome
    exact ⟨rfl, id, storage, hs, (h storage hs).1⟩
  | packet storage wres packets hs hp =>
    obtain ⟨⟨hser, hans, hpk, hcl⟩, -⟩ := h storage hs
    rw [hp] at hpk
    rw [hp, List.map_cons] at hans
    have hw : wres.Known := hpk wres List.mem_cons_self
    have hread := hans.read
    refine ⟨rfl, by simp, _, rfl, hser, ?_, fun w hw => hpk w (List.mem_cons_of_mem _ hw), hcl⟩
    exact ⟨hread.nodup, fun i => (Received.outstanding_packet hw i _).trans (hread.iff i)⟩
  | eof storage hs hp hc =>
    -- at the end of file everything was answered, so the operation is not running
    obtain ⟨hsync, index, hout⟩ := h storage hs
    have hans := hsync.answered
    rw [hp, hsync.closed hc] at hans
    exact absurd hout (hans.finished index)

/-- A poll consumes an answer, which ends the dispatch of its element. -/
lemma Exchanging.poll {k serial : ℕ} {s : ManagerOperation × List ℤ} (h : Exchanging k serial s)
    (read : ReadSys) : Exchanging k serial (exchangeStep s (.poll read)) := by
  have o := managerOperationDelayedPoll_outcome read s.1
  simp only [exchangeStep]
  generalize managerOperationDelayedPoll read s.1 = r at o ⊢
  obtain ⟨kind, todo, ht, hclose, hknown, hst⟩ := h.thread
  have keep : ∀ ret, Exchanging k serial (s.1, ret :: s.2) := fun ret =>
    ⟨h.thread, h.others, fun hn => ⟨(h.done hn).1, List.mem_cons_of_mem _ (h.done hn).2⟩⟩
  have hsynced : ∀ storage, s.1.storage = some storage →
      SocketSynced s.1 serial todo storage ∧ ∃ index, s.1.Outstanding index := by
    intro storage hs
    obtain ⟨hser, hans, hpk, hcl, hout⟩ := hst storage hs
    exact ⟨⟨hser, hans, hpk, hcl⟩, hout⟩
  cases o with
  | idle hn => exact keep _
  | failed hsome => exact keep _
  | running hsome cmo' hr hd =>
    obtain ⟨hthreads, hnil, storage, hs, hsync⟩ := hr.synced hsome hsynced
    refine ⟨⟨kind, todo, by rw [hthreads, ht], hclose, hknown, fun storage' hs' => ?_⟩, ?_, ?_⟩
    · obtain rfl := Option.some.inj (hs.symm.trans hs')
      refine ⟨hsync.serial_eq, hsync.answered, hsync.known, hsync.closed, ?_⟩
      rcases hd with hd | ⟨e, he, hde⟩
      · obtain ⟨storage₀, hs₀⟩ := Option.ne_none_iff_exists'.mp hsome
        obtain ⟨-, -, -, -, index, e, he, -⟩ := hst storage₀ hs₀
        simp [hnil hd] at he
      · exact ⟨e.index, e, he, rfl, hde⟩
    · rw [hthreads]
      exact h.others
    · intro hn
      simp [hs] at hn
  | completed hsome cmo' hr hd =>
    obtain ⟨hthreads, -⟩ := hr.synced hsome hsynced
    refine ⟨⟨kind, todo, by rw [hthreads, ht], hclose, hknown, by simp⟩, ?_, ?_⟩
    · rw [hthreads]
      exact h.others
    · intro _
      refine ⟨?_, List.mem_cons_self⟩
      rintro index ⟨e, he, -, hde⟩
      simp [hd e he] at hde

lemma Exchanging.step {k serial : ℕ} {s : ManagerOperation × List ℤ} (h : Exchanging k serial s)
    (a : ExchangeAction) : Exchanging k serial (exchangeStep s a) := by
  cases a with
  | worker j =>
    simp only [exchangeStep]
    rcases managerWorkerStep_cases j s.1 with e | ⟨serial', kind, action, todo, ht, e⟩
    · rw [e]
      exact h
    · rw [e]
      by_cases hj : j = k
      · subst hj
        obtain ⟨kind', todo', ht', -⟩ := h.thread
        obtain ⟨rfl, -, -⟩ := WorkerThread.mk.inj (Option.some.inj (ht.symm.trans ht'))
        exact h.own ht
      · exact h.other hj ht
  | poll read => exact h.poll read

/-- When the worker is done and every answer was read, the operation was completed by a poll. -/
lemma Exchanging.finished {k serial : ℕ} {s : ManagerOperation × List ℤ}
    (h : Exchanging k serial s) (ht : (s.1.threads[k]?).map WorkerThread.todo = some [])
    (hp : ∀ storage, s.1.storage = some storage → storage.packets = []) :
    (∀ index, ¬ s.1.Outstanding index) ∧ s.1.storage = none ∧ 1 ∈ s.2 := by
  have hnone : s.1.storage = none := by
    cases hs : s.1.storage with
    | none => rfl
    | some storage =>
      obtain ⟨kind, todo, ht', -, -, hst⟩ := h.thread
      obtain ⟨-, hans, -, -, index, hout⟩ := hst storage hs
      rw [ht', Option.map_some] at ht
      obtain rfl : todo = [] := Option.some.inj ht
      rw [hp storage hs] at hans
      exact absurd hout (hans.finished index)
  exact ⟨(h.done hnone).1, hnone, (h.done hnone).2⟩

end ContainerManager

import ContainerManager.Lib.Channel
import ContainerManager.Operations.Host

/-!
# What the manager's worker thread does

The actions of the thread, pass by pass. The first mount pass acts on every element and answers
those that it does not keep for the recovery; the recovery and the retaken pass answer none.
-/

namespace ContainerManager

/-! ### Actions -/

/-- A mount, an unmount or an answer for the index. -/
def WorkerAction.concerns (index : ℕ) : WorkerAction → Bool
  | .mount i _ _ => index = i
  | .unmount i _ _ => index = i
  | .respond wres => index = wres.index
  | _ => false

/-- The answers of a trace. -/
def responses (trace : List WorkerAction) : List WorkerResponse :=
  trace.filterMap fun
    | .respond wres => some wres
    | _ => none

/-- The return value of a mount or an unmount of the index. -/
def WorkerAction.attempt (index : ℕ) : WorkerAction → Option ℤ
  | .mount i ret _ => if index = i then some ret else none
  | .unmount i ret _ => if index = i then some ret else none
  | _ => none

/-- The return value of the last mount or unmount of the index. -/
def lastAttempt (index : ℕ) (trace : List WorkerAction) : Option ℤ :=
  (trace.filterMap (WorkerAction.attempt index)).getLast?

@[simp] lemma responses_append (s t : List WorkerAction) :
    responses (s ++ t) = responses s ++ responses t := List.filterMap_append

lemma mem_responses {wres : WorkerResponse} {trace : List WorkerAction} :
    wres ∈ responses trace ↔ .respond wres ∈ trace := by
  simp only [responses]
  rw [List.mem_filterMap]
  constructor
  · rintro ⟨a, ha, h⟩
    cases a <;> simp_all
  · exact fun h => ⟨_, h, rfl⟩

/-- Only the actions that concern the index matter for its last attempt. -/
lemma lastAttempt_filter (index : ℕ) (trace : List WorkerAction) :
    lastAttempt index (trace.filter (WorkerAction.concerns index)) = lastAttempt index trace := by
  have e : ∀ a : WorkerAction,
      (if a.concerns index = true then a.attempt index else none) = a.attempt index := by
    intro a
    cases a <;> simp [WorkerAction.concerns, WorkerAction.attempt]
  simp [lastAttempt, List.filterMap_filter, e]

/-! ### The mount pass -/

/-- The element takes a recovery when it cannot be mounted. -/
def MountElem.Recoverable (celem : MountElem) : Prop :=
  celem.isMounted = false ∧ (celem.redundancy = .fsck ∨ celem.redundancy = .mkfs)

/-- What one pass does with an element. -/
inductive ElemOutcome (isRetake : Bool) (celem : MountElem) : Bool × List WorkerAction → Prop where
  | unmounted (ret : ℤ) (calls : List MountCall) (h : celem.isMounted = true) :
      ElemOutcome isRetake celem (false, [.unmount celem.index ret calls,
        .respond ⟨celem.index, 1, if ret < 0 then -1 else 0⟩])
  | answered (ret : ℤ) (calls : List MountCall) (h : celem.isMounted = false)
      (hr : celem.Recoverable → isRetake = false) :
      ElemOutcome isRetake celem (false, [.mount celem.index ret calls,
        .respond ⟨celem.index, 0, if ret < 0 then -1 else 0⟩])
  | unsupported (h : celem.isMounted = false) (hr : ¬ celem.Recoverable) :
      ElemOutcome isRetake celem (false, [.respond ⟨celem.index, 0, -1⟩])
  | kept (ret : ℤ) (calls : List MountCall) (h : celem.Recoverable)
      (hret : isRetake = false → ret < 0) :
      ElemOutcome isRetake celem (true, [.mount celem.index ret calls])

lemma managerMountElem_outcome (sys : WorkerSys) (mount : ℕ → ℕ → MountSys) (isRetake : Bool)
    (celem : MountElem) :
    ElemOutcome isRetake celem (managerMountElem sys mount isRetake celem) := by
  rw [managerMountElem]
  by_cases hm : celem.isMounted
  · rw [if_pos hm]
    exact .unmounted _ _ hm
  · have hm' : celem.isMounted = false := by simpa using hm
    -- a recoverable element: only the return value -1 of a first mount calls for the recovery
    have once : ∀ r : ℤ × List MountCall,
        celem.redundancy = .fsck ∨ celem.redundancy = .mkfs →
          ElemOutcome isRetake celem
            (if r.1 ≠ -1 ∧ isRetake = false then
              (false, [.mount celem.index r.1 r.2,
                .respond ⟨celem.index, 0, if r.1 < 0 then -1 else 0⟩])
            else (true, [.mount celem.index r.1 r.2])) := by
      intro r hr
      by_cases h : r.1 ≠ -1 ∧ isRetake = false
      · rw [if_pos h]
        exact .answered _ _ hm' fun _ => h.2
      · rw [if_neg h]
        refine .kept _ _ ⟨hm', hr⟩ fun hf => ?_
        have h1 : r.1 = -1 := not_not.mp fun hne => h ⟨hne, hf⟩
        omega
    rw [if_neg hm]
    dsimp only
    split
    · rename_i hr
      exact .answered _ _ hm' fun h => by simp [MountElem.Recoverable, hr] at h
    · exact once _ (Or.inl ‹_›)
    · exact once _ (Or.inr ‹_›)
    · rename_i hr
      exact .unsupported hm' fun h => by simp [MountElem.Recoverable, hr] at h

/-- The calls for one device mount it: at once, or after the busy path was detached. -/
def MountSys.Succeeds (sys : MountSys) : Prop :=
  sys.mount = .ok ∨ sys.mount = .ebusy ∧ sys.umount2 = .ok ∧ sys.remount = .ok

lemma mountDevice_succeeds (sys : MountSys) (dev : Option String) (a : MountArgs) :
    (mountDevice sys dev a).1 = true ↔ sys.Succeeds := by
  obtain ⟨mount, umount2, remount⟩ := sys
  cases mount <;> cases umount2 <;> simp [mountDevice, MountSys.Succeeds]

/-- The first pass keeps the recoverable elements that cannot be mounted. -/
lemma managerMountElem_kept (sys : WorkerSys) (mount : ℕ → ℕ → MountSys) (celem : MountElem) :
    (managerMountElem sys mount false celem).1 = true ↔
      celem.Recoverable ∧ ¬ (mount celem.index 0).Succeeds := by
  let a : MountArgs :=
    ⟨some celem.mountTo, some celem.filesystem, extradiskMntflag celem.mode, celem.option⟩
  rw [← mountDevice_succeeds _ (some celem.blockdev.1) a]
  simp only [managerMountElem, MountElem.Recoverable]
  by_cases hm : celem.isMounted
  · simp [hm]
  · cases hd : (mountDevice (mount celem.index 0) (some celem.blockdev.1) a).1 <;>
      cases hr : celem.redundancy <;> simp [hm, mountDiskOnce, a, hd]

/-- The retaken pass keeps every recoverable element. -/
lemma ElemOutcome.kept_of_retake {celem : MountElem} {e : Bool × List WorkerAction}
    (h : ElemOutcome true celem e) (hr : celem.Recoverable) :
    ∃ ret calls, e = (true, [.mount celem.index ret calls]) := by
  cases h with
  | unmounted _ _ hm => simp [hr.1] at hm
  | answered _ _ _ hn => simpa using hn hr
  | unsupported _ hn => exact absurd hr hn
  | kept ret calls => exact ⟨ret, calls, rfl⟩

lemma managerMountOperation_eq (sys : WorkerSys) (mount : ℕ → ℕ → MountSys) (isRetake : Bool)
    (elems : List MountElem) :
    managerMountOperation sys mount isRetake elems =
      (elems.filter fun e => (managerMountElem sys mount isRetake e).1,
        if (elems.filter fun e => (managerMountElem sys mount isRetake e).1) = [] then 0 else -1,
        elems.flatMap fun e => (managerMountElem sys mount isRetake e).2) := by
  induction elems with
  | nil => rfl
  | cons celem rest ih =>
    simp only [managerMountOperation]
    rw [ih]
    by_cases hk : (managerMountElem sys mount isRetake celem).1 <;> simp [hk]

/-- The actions of a pass for an element are those that concern its index. -/
lemma managerMountElem_concerns (sys : WorkerSys) (mount : ℕ → ℕ → MountSys) (isRetake : Bool)
    (celem : MountElem) :
    ∀ a ∈ (managerMountElem sys mount isRetake celem).2, ∀ index,
      WorkerAction.concerns index a = true ↔ index = celem.index := by
  have o := managerMountElem_outcome sys mount isRetake celem
  generalize managerMountElem sys mount isRetake celem = e at o ⊢
  cases o <;> simp [WorkerAction.concerns]

lemma managerMountElem_ne_close (sys : WorkerSys) (mount : ℕ → ℕ → MountSys) (isRetake : Bool)
    (celem : MountElem) : .close ∉ (managerMountElem sys mount isRetake celem).2 := by
  have o := managerMountElem_outcome sys mount isRetake celem
  generalize managerMountElem sys mount isRetake celem = e at o ⊢
  cases o <;> simp

/-! ### The recovery -/

/-- The host sends no cancel request to the worker. -/
def WorkerSys.NoCancel (sys : WorkerSys) : Prop :=
  ∀ k index, .control (some (index, 1)) ∉ sys.poll k

lemma managerWorkerPoll_noCancel (completed : Bool) {polls : List PollResult}
    (h : ∀ index, .control (some (index, 1)) ∉ polls) {wreq : Option ℕ}
    (hp : managerWorkerPoll completed polls = some wreq) : wreq = none := by
  induction polls with
  | nil => simp [managerWorkerPoll] at hp
  | cons p polls ih =>
    have htail : ∀ index, .control (some (index, 1)) ∉ polls :=
      fun index hm => h index (List.mem_cons_of_mem _ hm)
    cases p with
    | childExit => exact (Option.some.inj hp).symm
    | control wreq' =>
      cases wreq' with
      | none => exact (Option.some.inj hp).symm
      | some r =>
        obtain ⟨index, request⟩ := r
        have hr : request ≠ 1 := by
          rintro rfl
          exact h index List.mem_cons_self
        simp only [managerWorkerPoll, if_neg hr] at hp
        exact (Option.some.inj hp).symm
    | timeout =>
      simp only [managerWorkerPoll] at hp
      split_ifs at hp
      · exact (Option.some.inj hp).symm
      · exact ih htail hp
    | intr => exact ih htail hp
    | error => exact (Option.some.inj hp).symm

/-- A cancel only changes the state of an element. -/
lemma MountElem.cancelIf_eq (canceled : List ℕ) (celem : MountElem) :
    ∃ state, celem.cancelIf canceled = { celem with state := state } := by
  simp only [MountElem.cancelIf]
  split_ifs
  · exact ⟨_, rfl⟩
  · exact ⟨celem.state, rfl⟩

/-- The elements can be recovered, and their indexes are among these. -/
def Recovers (indexes : List ℕ) (elems : List MountElem) : Prop :=
  ∀ e ∈ elems, e.Recoverable ∧ e.index ∈ indexes

lemma Recovers.append {indexes : List ℕ} {s t : List MountElem} (hs : Recovers indexes s)
    (ht : Recovers indexes t) : Recovers indexes (s ++ t) :=
  List.forall_mem_append.mpr ⟨hs, ht⟩

lemma Recovers.cancelIf {indexes : List ℕ} {elems : List MountElem} (h : Recovers indexes elems)
    (canceled : List ℕ) : Recovers indexes (elems.map (MountElem.cancelIf canceled)) := by
  intro e he
  obtain ⟨e, hmem, rfl⟩ := List.mem_map.mp he
  obtain ⟨state, hstate⟩ := e.cancelIf_eq canceled
  rw [hstate]
  exact h e hmem

/-- The recovery only forks children, and leaves elements it was given. -/
lemma managerWorkerExecLoop_recovers {sys : WorkerSys} (h : sys.NoCancel) {indexes : List ℕ}
    (canceled : List ℕ) {visited elems : List MountElem} (hv : Recovers indexes visited)
    (he : Recovers indexes elems) :
    (∀ a ∈ (managerWorkerExecLoop sys canceled visited elems).2, ∃ i r, a = .recover i r) ∧
      ∀ l ∈ (managerWorkerExecLoop sys canceled visited elems).1, Recovers indexes l := by
  induction elems generalizing canceled visited with
  | nil =>
    refine ⟨by simp [managerWorkerExecLoop], ?_⟩
    intro l hl
    obtain rfl : visited = l := Option.some.inj hl
    exact hv
  | cons celem rest ih =>
    obtain ⟨hcelem, hrest⟩ := List.forall_mem_cons.mp he
    have hcur : ∀ state, Recovers indexes [{ celem with state := state }] := by
      intro state e hm
      rw [List.mem_singleton.mp hm]
      exact hcelem
    obtain ⟨state, hstate⟩ := celem.cancelIf_eq canceled
    simp only [managerWorkerExecLoop]
    rw [hstate]
    split_ifs with hq hfork
    · exact ih canceled (hv.append (hcur state)) hrest
    · split
      · simp
      · rename_i wreq hp
        obtain rfl := managerWorkerPoll_noCancel _ (h _) hp
        obtain ⟨state', hstate'⟩ :=
          MountElem.cancelIf_eq canceled { celem with state := state }
        have hfinish : ∃ state'', (if state' ≠ .canceled then { celem with state := .complete }
            else { celem with state := state' }) = { celem with state := state'' } := by
          split_ifs <;> exact ⟨_, rfl⟩
        obtain ⟨state'', hstate''⟩ := hfinish
        rw [Option.toList_none, List.nil_append, List.map_nil, hstate']
        dsimp only
        rw [hstate'']
        have hdone := (hv.cancelIf canceled).append (hcur state'')
        split_ifs with hall
        · refine ⟨by simp, ?_⟩
          intro l hl
          obtain rfl := Option.some.inj hl
          exact hdone.append (Recovers.cancelIf hrest canceled)
        · obtain ⟨hacts, hleft⟩ := ih canceled hdone hrest
          refine ⟨fun a ha => ?_, hleft⟩
          rcases List.mem_append.mp ha with ha | ha
          · exact ⟨_, _, List.mem_singleton.mp ha⟩
          · exact hacts a ha
    · exact ih canceled (hv.append (hcur _)) hrest

lemma managerWorkerExec_recovers {sys : WorkerSys} (h : sys.NoCancel) {elems : List MountElem}
    (he : ∀ e ∈ elems, e.Recoverable) :
    (∀ a ∈ (managerWorkerExec sys elems).2, ∃ i r, a = .recover i r) ∧
      ∀ l ∈ (managerWorkerExec sys elems).1, Recovers (elems.map MountElem.index) l := by
  have hr : Recovers (elems.map MountElem.index) elems :=
    fun e hm => ⟨he e hm, List.mem_map_of_mem hm⟩
  have hnil : Recovers (elems.map MountElem.index) [] := by simp [Recovers]
  obtain ⟨hacts, hleft⟩ := managerWorkerExecLoop_recovers h [] hnil hr
  refine ⟨hacts, ?_⟩
  intro l hl
  obtain ⟨l', hl', rfl⟩ := Option.map_eq_some_iff.mp hl
  exact fun e hm => hleft l' hl' e (List.mem_of_mem_filter hm)

/-! ### The thread -/

/-- The elements that the first pass keeps. -/
def keptElems (sys : WorkerSys) (elems : List MountElem) : List MountElem :=
  elems.filter fun e => (managerMountElem sys sys.first false e).1

/-- The actions of the first pass for an element. -/
def firstActions (sys : WorkerSys) (e : MountElem) : List WorkerAction :=
  (managerMountElem sys sys.first false e).2

lemma mem_keptElems {sys : WorkerSys} {elems : List MountElem} {e : MountElem} :
    e ∈ keptElems sys elems ↔ e ∈ elems ∧ e.Recoverable ∧ ¬ (sys.first e.index 0).Succeeds := by
  rw [keptElems, List.mem_filter, managerMountElem_kept]

/-- What the thread does after the first pass. -/
structure WorkerTail (kept : List MountElem) (tail : List WorkerAction) : Prop where
  respond : ∀ wres, .respond wres ∉ tail
  concerns : ∀ a ∈ tail, ∀ index, a.concerns index = true → index ∈ kept.map MountElem.index
  close : .close ∉ tail.dropLast

lemma WorkerTail.close_only (kept : List MountElem) : WorkerTail kept [.close] :=
  ⟨by simp, by simp [WorkerAction.concerns], by simp⟩

/-- The retaken pass mounts every element that is left, and answers none. -/
lemma retake_mounts {sys : WorkerSys} {indexes : List ℕ} {elems : List MountElem}
    (h : Recovers indexes elems) :
    ∀ a ∈ (managerMountOperation sys sys.retake true elems).2.2,
      ∃ index ret calls, a = .mount index ret calls ∧ index ∈ indexes := by
  intro a ha
  rw [managerMountOperation_eq] at ha
  obtain ⟨e, he, hae⟩ := List.mem_flatMap.mp ha
  obtain ⟨hr, hi⟩ := h e he
  obtain ⟨ret, calls, hact⟩ :=
    (managerMountElem_outcome sys sys.retake true e).kept_of_retake hr
  rw [hact, List.mem_singleton] at hae
  exact ⟨_, _, _, hae, hi⟩

/-- The actions after the first pass, with these elements kept. -/
def laterActions (sys : WorkerSys) (kept : List MountElem) : List WorkerAction :=
  if kept = [] then [.close]
  else match (managerWorkerExec sys kept).1 with
    | none => (managerWorkerExec sys kept).2
    | some left => (managerWorkerExec sys kept).2 ++
        (managerMountOperation sys sys.retake true left).2.2 ++ [.close]

lemma containerManagerWorkerThread_eq (sys : WorkerSys) (elems : List MountElem) :
    containerManagerWorkerThread sys elems =
      elems.flatMap (firstActions sys) ++ laterActions sys (keptElems sys elems) := by
  have hp : managerMountOperation sys sys.first false elems =
      (keptElems sys elems, if keptElems sys elems = [] then 0 else -1,
        elems.flatMap (firstActions sys)) := managerMountOperation_eq _ _ _ _
  rw [containerManagerWorkerThread, laterActions]
  rw [hp]
  by_cases hk : keptElems sys elems = []
  · simp [hk]
  · cases he : (managerWorkerExec sys (keptElems sys elems)).1 <;> simp [hk, he]

/-- Without an element kept for the recovery the thread ends after its first pass. -/
lemma thread_of_kept_nil {sys : WorkerSys} {elems : List MountElem}
    (hk : keptElems sys elems = []) :
    containerManagerWorkerThread sys elems = elems.flatMap (firstActions sys) ++ [.close] := by
  rw [containerManagerWorkerThread_eq, laterActions, if_pos hk]

/-- No request is answered after the first pass. -/
lemma laterActions_tail {sys : WorkerSys} (h : sys.NoCancel) {kept : List MountElem}
    (hk : ∀ e ∈ kept, e.Recoverable) : WorkerTail kept (laterActions sys kept) := by
  obtain ⟨hacts, hleft⟩ := managerWorkerExec_recovers h hk
  -- only the two kinds of actions of the recovery and the retaken pass come before a close
  have body : ∀ acts : List WorkerAction,
      (∀ a ∈ acts, (∃ i r, a = .recover i r) ∨ ∃ index ret calls, a = .mount index ret calls ∧
        index ∈ kept.map MountElem.index) →
      (∀ wres, .respond wres ∉ acts) ∧ .close ∉ acts ∧
        ∀ a ∈ acts, ∀ index, a.concerns index = true → index ∈ kept.map MountElem.index := by
    intro acts hall
    refine ⟨?_, ?_, ?_⟩
    · intro wres hm
      rcases hall _ hm with ⟨i, r, e⟩ | ⟨i, ret, calls, e, -⟩ <;> simp at e
    · intro hm
      rcases hall _ hm with ⟨i, r, e⟩ | ⟨i, ret, calls, e, -⟩ <;> simp at e
    · intro a ha index hc
      rcases hall a ha with ⟨i, r, rfl⟩ | ⟨i, ret, calls, rfl, hi⟩
      · simp [WorkerAction.concerns] at hc
      · have e : index = i := by simpa [WorkerAction.concerns] using hc
        exact e ▸ hi
  simp only [laterActions]
  split_ifs with hnil
  · exact hnil ▸ .close_only _
  · split
    · obtain ⟨hr, hc, hk⟩ := body _ fun a ha => Or.inl (hacts a ha)
      exact ⟨hr, hk, fun hm => hc (List.mem_of_mem_dropLast hm)⟩
    · rename_i left hl
      obtain ⟨hr, hc, hk⟩ := body ((managerWorkerExec sys kept).2 ++
          (managerMountOperation sys sys.retake true left).2.2) fun a ha =>
        (List.mem_append.mp ha).imp (hacts a) (retake_mounts (hleft left hl) a)
      refine ⟨?_, ?_, ?_⟩
      · intro wres hm
        rcases List.mem_append.mp hm with hm | hm
        · exact hr wres hm
        · simp at hm
      · intro a ha index hi
        rcases List.mem_append.mp ha with ha | ha
        · exact hk a ha index hi
        · rw [List.mem_singleton.mp ha] at hi
          simp [WorkerAction.concerns] at hi
      · rwa [List.dropLast_concat]

lemma laterActions_keptElems {sys : WorkerSys} (h : sys.NoCancel) (elems : List MountElem) :
    WorkerTail (keptElems sys elems) (laterActions sys (keptElems sys elems)) :=
  laterActions_tail h fun _ he => (mem_keptElems.mp he).2.1

/-- Every answer is one of the first pass. -/
lemma respond_mem_thread {sys : WorkerSys} (h : sys.NoCancel) {elems : List MountElem}
    {wres : WorkerResponse} (hw : .respond wres ∈ containerManagerWorkerThread sys elems) :
    ∃ e ∈ elems, .respond wres ∈ firstActions sys e := by
  have htail := laterActions_keptElems h elems
  rw [containerManagerWorkerThread_eq] at hw
  rcases List.mem_append.mp hw with hw | hw
  · exact List.mem_flatMap.mp hw
  · exact absurd hw (htail.respond wres)

/-! ### Answers -/

/-- The first pass answers exactly the elements that it does not keep. -/
lemma responses_first (sys : WorkerSys) (elems : List MountElem) :
    (responses (elems.flatMap (firstActions sys))).map WorkerResponse.index =
      (elems.filter fun e => !(managerMountElem sys sys.first false e).1).map MountElem.index := by
  induction elems with
  | nil => rfl
  | cons e elems ih =>
    have o := managerMountElem_outcome sys sys.first false e
    rw [List.flatMap_cons, responses_append, List.map_append, ih, List.filter_cons]
    simp only [firstActions]
    generalize managerMountElem sys sys.first false e = r at o ⊢
    cases o <;> simp [responses]

/-- The actions of the first pass that concern the index of an element are its own. -/
lemma firstActions_filter (sys : WorkerSys) {elems : List MountElem}
    (hn : (elems.map MountElem.index).Nodup) {e : MountElem} (he : e ∈ elems) :
    (elems.flatMap (firstActions sys)).filter (WorkerAction.concerns e.index) =
      firstActions sys e :=
  Channel.filter_flatMap (fun e => managerMountElem_concerns sys sys.first false e) hn he

/-- The last attempt for the index succeeded. -/
def Succeeded (trace : List WorkerAction) (index : ℕ) : Prop :=
  ∃ ret, lastAttempt index trace = some ret ∧ 0 ≤ ret

/-- An answer of the first pass tells how the attempt went. -/
lemma firstActions_respond {sys : WorkerSys} {e : MountElem} {wres : WorkerResponse}
    (h : .respond wres ∈ firstActions sys e) :
    wres.index = e.index ∧ (wres.operation = 0 ∨ wres.operation = 1) ∧
      (wres.result = 0 ↔ Succeeded (firstActions sys e) e.index) := by
  have o := managerMountElem_outcome sys sys.first false e
  have result : ∀ ret : ℤ, (if ret < 0 then (-1 : ℤ) else 0) = 0 ↔ 0 ≤ ret := by
    intro ret
    by_cases hr : ret < 0
    · simp [hr]
    · simpa [hr] using not_lt.mp hr
  simp only [firstActions] at h ⊢
  generalize managerMountElem sys sys.first false e = r at o h ⊢
  cases o with
  | unmounted ret calls hm =>
    obtain rfl : wres = _ := by simpa using h
    refine ⟨rfl, Or.inr rfl, (result ret).trans ?_⟩
    simp [Succeeded, lastAttempt, List.filterMap_cons, WorkerAction.attempt]
  | answered ret calls hm hr =>
    obtain rfl : wres = _ := by simpa using h
    refine ⟨rfl, Or.inl rfl, (result ret).trans ?_⟩
    simp [Succeeded, lastAttempt, List.filterMap_cons, WorkerAction.attempt]
  | unsupported hm hr =>
    obtain rfl : wres = _ := by simpa using h
    simp [Succeeded, lastAttempt, WorkerAction.attempt]
  | kept ret calls hk hret => simp at h

end ContainerManager

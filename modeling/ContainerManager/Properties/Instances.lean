import ContainerManager.Workqueue
import ContainerManager.Lib.Transition

/-!
# Plugin instances of a workqueue

The queue's object, its status and the flag of what to do after the worker move together, and every
instance that was loaded is either the attached one or was deleted once. A schedule whose arguments
the instance refuses leaves the instance attached to an inactive queue, where the next schedule
overwrites it.
-/

namespace ContainerManager

open Transition

/-- A call on a workqueue, or the end of its worker, with what happens outside the manager in it. -/
inductive WorkqueueCall where
  | schedule (sys : PluginSys) (key args : String) (launchAfterEnd : ℤ)
  | run (pthreadCreate : ℤ)
  | workerDone (exec : ℤ)
  | cancel (cancel : ℤ)
  | cleanup
  | remove
deriving DecidableEq, Repr

/-- The queue after a call, and what the call returns. Deleting an instance returns 0. -/
def Workqueue.perform (wq : Workqueue) : WorkqueueCall → Workqueue × ℤ
  | .schedule sys key args launchAfterEnd =>
    containerWorkqueueSchedule sys wq key args launchAfterEnd
  | .run pthreadCreate => containerWorkqueueRun pthreadCreate wq
  | .workerDone exec => (if wq.thread then containerWorkqueueThread exec wq else wq, 0)
  | .cancel cancel => (wq, containerWorkqueueCancel cancel wq)
  | .cleanup => ((containerWorkqueueCleanup 0 wq).1, (containerWorkqueueCleanup 0 wq).2.1)
  | .remove => ((containerWorkqueueRemove 0 wq).1, (containerWorkqueueRemove 0 wq).2.1)

/-- The queue after a call. -/
def Workqueue.call (wq : Workqueue) (c : WorkqueueCall) : Workqueue := (wq.perform c).1

/-- The instance is attached to the queue. -/
def Workqueue.Attached (wq : Workqueue) (id : ℕ) : Prop :=
  wq.object.map WorkerObject.instanceId = some id

instance (wq : Workqueue) (id : ℕ) : Decidable (wq.Attached id) :=
  inferInstanceAs (Decidable (_ = _))

/-- The object, the status and the flag agree, and an instance is loaded when it is attached or was
deleted, never both, and never deleted twice. -/
structure Workqueue.Consistent (wq : Workqueue) : Prop where
  object : wq.object ≠ none ↔
    wq.status = .scheduled ∨ wq.status = .started ∨ wq.status = .completed
  inactive : wq.status = .inactive → wq.stateAfterExecute = 0
  instances : ∀ id, wq.deleted.count id + (if wq.Attached id then 1 else 0) =
    if id < wq.loaded then 1 else 0

/-- What a call may do: an attached instance stays until it is deleted, and a call that fails
changes nothing. -/
structure CallSafe (wq : Workqueue) (c : WorkqueueCall) : Prop where
  kept : ∀ id, wq.Attached id → (wq.call c).Attached id ∨ id ∈ (wq.call c).deleted
  failed : (wq.perform c).2 < 0 → (wq.call c).status = wq.status ∧
    (wq.call c).object = wq.object ∧ (wq.call c).stateAfterExecute = wq.stateAfterExecute

/-- The queue is consistent from its initialisation on, and every call is safe. -/
def ConsistentRun (mutexInit : ℤ) (calls : List WorkqueueCall) : Prop :=
  (containerWorkqueueInitialize mutexInit).1.Consistent ∧
    Guarded Workqueue.call (fun wq c => (wq.call c).Consistent ∧ CallSafe wq c)
      (containerWorkqueueInitialize mutexInit).1 calls

/-- The instance that a schedule loads takes its arguments. -/
def ArgsTaken (wq : Workqueue) (c : WorkqueueCall) : Prop :=
  ∀ sys key args l, c = .schedule sys key args l → wq.status = .inactive →
    containerWorkqueueGetPlugin key ≠ none → sys.load = true → sys.setArgs = 0

/-! ### One call -/

/-- A live worker thread belongs to a started worker. -/
structure Workqueue.Sound (wq : Workqueue) : Prop extends wq.Consistent where
  thread : wq.thread = true → wq.status = .started

section Call

variable {wq : Workqueue}

lemma CallSafe.of_eq {c : WorkqueueCall} (h : wq.call c = wq) : CallSafe wq c where
  kept id ha := .inl (h.symm ▸ ha)
  failed _ := by rw [h]; exact ⟨rfl, rfl, rfl⟩

/-- A call that leaves the object where it is and succeeds. -/
lemma CallSafe.of_object {c : WorkqueueCall} (hobj : (wq.call c).object = wq.object)
    (hret : 0 ≤ (wq.perform c).2) : CallSafe wq c where
  kept id ha := .inl (by rw [Workqueue.Attached, hobj]; exact ha)
  failed hneg := absurd hneg (not_lt.mpr hret)

/-- An idle queue has no object. -/
lemma Workqueue.Consistent.object_none (h : wq.Consistent)
    (hs : wq.status = .disable ∨ wq.status = .inactive) : wq.object = none := by
  by_contra ho
  have hbusy := h.object.mp ho
  rcases hs with hs | hs <;> simp [hs] at hbusy

/-! ### Scheduling -/

/-- A schedule whose instance takes its arguments queues it, or fails and changes nothing. -/
lemma schedule_cases {sys : PluginSys} {key args : String} {l : ℤ}
    (h : ArgsTaken wq (.schedule sys key args l)) :
    (containerWorkqueueSchedule sys wq key args l).1 = wq ∧
        (containerWorkqueueSchedule sys wq key args l).2 < 0 ∨
      wq.status = .inactive ∧ ∃ module, containerWorkqueueSchedule sys wq key args l =
        ({ wq with
            object := some ⟨wq.loaded, module, some args⟩
            loaded := wq.loaded + 1
            status := .scheduled
            stateAfterExecute := l
            result := 0 }, 0) := by
  by_cases hs : wq.status = .inactive
  · cases hk : containerWorkqueueGetPlugin key with
    | none => simp [containerWorkqueueSchedule, containerWorkqueueLoadPlugin, hs, hk]
    | some module =>
      by_cases hl : sys.load = true
      · right
        have ha := h sys key args l rfl hs (by simp [hk]) hl
        refine ⟨hs, module, ?_⟩
        simp [containerWorkqueueSchedule, containerWorkqueueLoadPlugin, containerWorkqueueSetArgs,
          hs, hk, hl, ha]
      · left
        simp [containerWorkqueueSchedule, containerWorkqueueLoadPlugin, hs, hk, hl]
  · left
    simp [containerWorkqueueSchedule, hs]

/-- A loaded instance gets the next number. -/
lemma Workqueue.Sound.scheduled (h : wq.Sound) (hs : wq.status = .inactive) (module args : String)
    (l : ℤ) : Workqueue.Sound { wq with
      object := some ⟨wq.loaded, module, some args⟩
      loaded := wq.loaded + 1
      status := .scheduled
      stateAfterExecute := l
      result := 0 } := by
  have hnone := h.object_none (.inr hs)
  refine ⟨⟨by simp, by simp, fun id => ?_⟩, fun ht => ?_⟩
  · have hid := h.instances id
    simp only [Attached, hnone, Option.map_none, reduceCtorEq, if_false] at hid
    simp only [Attached, Option.map_some, Option.some.injEq]
    rcases lt_trichotomy id wq.loaded with hlt | rfl | hgt
    · rw [if_neg hlt.ne', if_pos (by omega)]
      rw [if_pos hlt] at hid
      exact hid
    · rw [if_pos rfl, if_pos (by omega)]
      rw [if_neg (lt_irrefl _)] at hid
      omega
    · rw [if_neg hgt.ne, if_neg (by omega)]
      rw [if_neg (by omega)] at hid
      exact hid
  · have := h.thread ht
    simp [hs] at this

/-- A schedule that fails leaves its instance attached to the inactive queue. -/
lemma schedule_misfit {sys : PluginSys} {key : String} (args : String) (l : ℤ)
    (hs : wq.status = .inactive) (hk : containerWorkqueueGetPlugin key ≠ none)
    (hl : sys.load = true) (ha : sys.setArgs ≠ 0) :
    (containerWorkqueueSchedule sys wq key args l).1.status = .inactive ∧
      (containerWorkqueueSchedule sys wq key args l).1.object ≠ none := by
  obtain ⟨module, hk⟩ := Option.ne_none_iff_exists'.mp hk
  simp [containerWorkqueueSchedule, containerWorkqueueLoadPlugin, containerWorkqueueSetArgs,
    hs, hk, hl, ha]

/-! ### Unloading -/

/-- An unloaded queue has no object, and its instance was deleted. -/
lemma Workqueue.Sound.unloaded (h : wq.Sound) (hs : wq.status ≠ .started) {status : WorkerStatus}
    (hidle : status = .disable ∨ status = .inactive) (result : ℤ) :
    Workqueue.Sound (containerWorkqueueUnloadPlugin 0
      { wq with status := status, stateAfterExecute := 0, result := result }).1 := by
  have hthread : wq.thread = false := by
    by_contra ht
    exact hs (h.thread (by simpa using ht))
  cases ho : wq.object with
  | none =>
    simp only [containerWorkqueueUnloadPlugin]
    refine ⟨⟨?_, fun _ => rfl, ?_⟩, ?_⟩
    · rcases hidle with rfl | rfl <;> simp
    · intro id
      simpa [Attached, ho] using h.instances id
    · simp [hthread]
  | some obj =>
    simp only [containerWorkqueueUnloadPlugin]
    rw [if_neg (lt_irrefl _)]
    refine ⟨⟨?_, fun _ => rfl, ?_⟩, ?_⟩
    · rcases hidle with rfl | rfl <;> simp
    · intro id
      have hid := h.instances id
      simp only [Attached, ho, Option.map_some, Option.some.injEq] at hid
      simp only [Attached, List.count_cons, beq_iff_eq, Option.map_none, reduceCtorEq, if_false,
        add_zero]
      exact hid
    · simp [hthread]

/-- Unloading deletes the attached instance. -/
lemma unload_deletes {id : ℕ} (ha : wq.Attached id) :
    id ∈ (containerWorkqueueUnloadPlugin 0 wq).1.deleted := by
  obtain ⟨obj, ho, rfl⟩ := Option.map_eq_some_iff.mp ha
  simp [containerWorkqueueUnloadPlugin, ho]

/-! ### Every call -/

lemma Workqueue.Sound.schedule (h : wq.Sound) {sys : PluginSys} {key args : String} {l : ℤ}
    (ha : ArgsTaken wq (.schedule sys key args l)) :
    (wq.call (.schedule sys key args l)).Sound ∧ CallSafe wq (.schedule sys key args l) := by
  rcases schedule_cases ha with ⟨heq, _⟩ | ⟨hs, module, heq⟩
  · have hcall : wq.call (.schedule sys key args l) = wq := heq
    exact ⟨hcall.symm ▸ h, CallSafe.of_eq hcall⟩
  · have hcall := congrArg Prod.fst heq
    refine ⟨?_, ?_, ?_⟩
    · rw [Workqueue.call, Workqueue.perform, hcall]
      exact h.scheduled hs module args l
    · intro id hid
      simp [Workqueue.Attached, h.object_none (.inr hs)] at hid
    · intro hneg
      simp [Workqueue.perform, heq] at hneg

lemma Workqueue.Sound.run (h : wq.Sound) (pthreadCreate : ℤ) :
    (wq.call (.run pthreadCreate)).Sound ∧ CallSafe wq (.run pthreadCreate) := by
  by_cases hs : wq.status = .scheduled
  · by_cases hp : pthreadCreate < 0
    · have hcall : wq.call (.run pthreadCreate) = wq := by
        simp only [call, perform, containerWorkqueueRun, hs, hp, ne_eq, not_true_eq_false, if_false,
          if_true]
        rw [← hs]
      exact ⟨hcall.symm ▸ h, CallSafe.of_eq hcall⟩
    · have hcall : wq.perform (.run pthreadCreate) =
          ({ wq with status := .started, thread := pthreadCreate = 0 }, 0) := by
        simp [perform, containerWorkqueueRun, hs, hp]
      refine ⟨?_, CallSafe.of_object ?_ ?_⟩
      · rw [call, hcall]
        refine ⟨⟨?_, by simp, h.instances⟩, fun _ => rfl⟩
        have hobj := h.object.mpr (.inl hs)
        simpa using hobj
      · rw [call, hcall]
      · rw [hcall]
  · have hcall : wq.call (.run pthreadCreate) = wq := by
      simp [call, perform, containerWorkqueueRun, hs]
    exact ⟨hcall.symm ▸ h, CallSafe.of_eq hcall⟩

lemma Workqueue.Sound.workerDone (h : wq.Sound) (exec : ℤ) :
    (wq.call (.workerDone exec)).Sound ∧ CallSafe wq (.workerDone exec) := by
  by_cases ht : wq.thread = true
  · have hcall : wq.call (.workerDone exec) = containerWorkqueueThread exec wq := if_pos ht
    refine ⟨?_, CallSafe.of_object ?_ le_rfl⟩
    · rw [hcall]
      refine ⟨⟨?_, by simp [containerWorkqueueThread], h.instances⟩,
        by simp [containerWorkqueueThread]⟩
      have hobj := h.object.mpr (.inr (.inl (h.thread ht)))
      simpa [containerWorkqueueThread] using hobj
    · rw [hcall, containerWorkqueueThread]
  · have hcall : wq.call (.workerDone exec) = wq := if_neg ht
    exact ⟨hcall.symm ▸ h, CallSafe.of_eq hcall⟩

lemma Workqueue.Sound.cleanup (h : wq.Sound) :
    (wq.call .cleanup).Sound ∧ CallSafe wq .cleanup := by
  by_cases hs : wq.status = .completed
  · have hcall : wq.perform .cleanup = ((containerWorkqueueUnloadPlugin 0
        { wq with status := .inactive, stateAfterExecute := 0 }).1, 0) := by
      simp [perform, containerWorkqueueCleanup, hs]
    refine ⟨?_, fun id ha => .inr ?_, fun hneg => ?_⟩
    · rw [call, hcall]
      exact h.unloaded (by simp [hs]) (.inr rfl) wq.result
    · rw [call, hcall]
      exact unload_deletes ha
    · simp [hcall] at hneg
  · have hcall : wq.call .cleanup = wq := (containerWorkqueueCleanup_of_ne 0 hs).1
    exact ⟨hcall.symm ▸ h, CallSafe.of_eq hcall⟩

lemma Workqueue.Sound.remove (h : wq.Sound) : (wq.call .remove).Sound ∧ CallSafe wq .remove := by
  by_cases hs : wq.status = .started ∨ wq.status = .completed
  · have hcall : wq.call .remove = wq := by
      rcases hs with hs | hs <;> simp [call, perform, containerWorkqueueRemove, hs]
    exact ⟨hcall.symm ▸ h, CallSafe.of_eq hcall⟩
  · obtain ⟨hns, hnc⟩ := not_or.mp hs
    have hcall : wq.perform .remove = ((containerWorkqueueUnloadPlugin 0
        { wq with
          status := if wq.status ≠ .disable then .inactive else .disable
          stateAfterExecute := 0
          result := 0 }).1, 0) := by
      simp only [perform, containerWorkqueueRemove]
    refine ⟨?_, fun id ha => .inr ?_, fun hneg => ?_⟩
    · rw [call, hcall]
      refine h.unloaded hns ?_ 0
      split_ifs
      · exact .inr rfl
      · exact .inl rfl
    · rw [call, hcall]
      exact unload_deletes ha
    · simp [hcall] at hneg

/-- Every call keeps the queue sound when the instances take their arguments. -/
lemma Workqueue.Sound.call (h : wq.Sound) {c : WorkqueueCall} (ha : ArgsTaken wq c) :
    (wq.call c).Sound ∧ CallSafe wq c := by
  cases c with
  | schedule sys key args l => exact h.schedule ha
  | run pthreadCreate => exact h.run pthreadCreate
  | workerDone exec => exact h.workerDone exec
  | cancel cancel => exact ⟨h, CallSafe.of_eq rfl⟩
  | cleanup => exact h.cleanup
  | remove => exact h.remove

/-- A call after which the queue is consistent had its arguments taken. -/
lemma Workqueue.Consistent.argsTaken {c : WorkqueueCall} (h : (wq.call c).Consistent) :
    ArgsTaken wq c := by
  rintro sys key args l rfl hs hk hl
  by_contra ha
  obtain ⟨hinactive, hobj⟩ := schedule_misfit args l hs hk hl ha
  exact hobj (h.object_none (.inr hinactive))

end Call

lemma initialize_sound (mutexInit : ℤ) : (containerWorkqueueInitialize mutexInit).1.Sound := by
  simp only [containerWorkqueueInitialize]
  split_ifs <;> exact ⟨⟨by simp, by simp, by simp [Workqueue.Attached]⟩, by simp⟩

/-! ### Runs -/

/-- A run of calls keeps the queue consistent exactly when every schedule that loads an instance has
its arguments taken. -/
theorem consistent_run_iff (mutexInit : ℤ) (calls : List WorkqueueCall) :
    ConsistentRun mutexInit calls ↔
      Guarded Workqueue.call ArgsTaken (containerWorkqueueInitialize mutexInit).1 calls := by
  constructor
  · exact fun h => h.2.mono fun wq c hc => hc.1.argsTaken
  · intro h
    have hs := initialize_sound mutexInit
    refine ⟨hs.toConsistent, ?_⟩
    exact (h.of_invariant (fun wq c ha hw => hw.call ha) hs).mono
      fun wq c hc => ⟨hc.1.toConsistent, hc.2⟩

/-- A repair whose arguments are refused, and its retry. -/
def refusedRepair : List WorkqueueCall :=
  [.schedule ⟨true, -1⟩ "fsck" "device=/dev/sda1" 1,
    .schedule ⟨true, 0⟩ "fsck" "device=/dev/sda1" 1]

/-- The refused instance is neither attached nor deleted after the retry. -/
theorem refused_instance_leaks : ¬ ConsistentRun 0 refusedRepair := by
  intro h
  obtain ⟨-, -, hretry, -⟩ := h
  exact absurd (hretry.1.instances 0) (by decide)

end ContainerManager

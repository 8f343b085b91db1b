import ContainerManager.Operations.Exchange

/-!
# The traces of the two operations

A launch worker mounts, and does not touch a disk any more once it answered for it. A terminate
worker unmounts every disk before it answers for it.
-/

namespace ContainerManager

/-! ### Launch -/

/-- The trace of a launch worker: after an answer the element is left alone, an error is answered
only when the element was not mounted, and nothing follows the close. -/
structure LaunchTrace (trace : List WorkerAction) : Prop where
  operation : ∀ wres, .respond wres ∈ trace →
    wres.operation = 0 ∧ (wres.result = 0 ∨ wres.result = -1)
  after : ∀ pre wres post, trace = pre ++ .respond wres :: post →
    ∀ ret calls, .mount wres.index ret calls ∉ post
  before : ∀ pre wres post, trace = pre ++ .respond wres :: post → wres.result ≠ 0 →
    ∀ ret calls, .mount wres.index ret calls ∈ pre → ret < 0
  close : .close ∉ trace.dropLast

section Launch

variable {sys : WorkerSys} {elems : List MountElem}

/-- The actions that concern an answered element are those of the first pass. -/
lemma filter_thread_of_respond (hc : sys.NoCancel) (hn : (elems.map MountElem.index).Nodup)
    {e : MountElem} (he : e ∈ elems) {wres : WorkerResponse}
    (hw : .respond wres ∈ firstActions sys e) :
    (containerManagerWorkerThread sys elems).filter (WorkerAction.concerns e.index) =
      firstActions sys e := by
  have htail := laterActions_keptElems hc elems
  have hnot : e.index ∉ (keptElems sys elems).map MountElem.index := by
    intro hm
    obtain ⟨e', he', hi⟩ := List.mem_map.mp hm
    have hmem := List.mem_filter.mp he'
    obtain rfl : e' = e := List.inj_on_of_nodup_map hn hmem.1 he hi
    have o := managerMountElem_outcome sys sys.first false e'
    have hk := hmem.2
    simp only [firstActions] at hw
    generalize managerMountElem sys sys.first false e' = r at o hw hk
    cases o <;> simp at hk hw
  rw [containerManagerWorkerThread_eq, List.filter_append, firstActions_filter sys hn he]
  have hnil : (laterActions sys (keptElems sys elems)).filter (WorkerAction.concerns e.index) =
      [] := List.filter_eq_nil_iff.mpr fun a ha hi => hnot (htail.concerns a ha e.index hi)
  rw [hnil, List.append_nil]

/-- The first pass answers for an element that is not mounted after its mount, or without one. -/
lemma firstActions_answered {e : MountElem} (hm : e.isMounted = false) {wres : WorkerResponse}
    (hw : .respond wres ∈ firstActions sys e) :
    wres.index = e.index ∧ wres.operation = 0 ∧ (wres.result = 0 ∨ wres.result = -1) ∧
      ((∃ ret calls, firstActions sys e = [.mount e.index ret calls, .respond wres] ∧
          (wres.result ≠ 0 → ret < 0)) ∨
        firstActions sys e = [.respond wres]) := by
  have o := managerMountElem_outcome sys sys.first false e
  simp only [firstActions] at hw ⊢
  generalize managerMountElem sys sys.first false e = r at o hw ⊢
  cases o with
  | unmounted ret calls h => simp [hm] at h
  | answered ret calls =>
    obtain rfl : wres = _ := by simpa using hw
    refine ⟨rfl, rfl, ?_, Or.inl ⟨ret, calls, rfl, ?_⟩⟩ <;> by_cases hr : ret < 0 <;> simp [hr]
  | unsupported =>
    obtain rfl : wres = _ := by simpa using hw
    exact ⟨rfl, rfl, Or.inr rfl, Or.inr rfl⟩
  | kept => simp at hw

lemma launchTrace_thread (hc : sys.NoCancel) (hn : (elems.map MountElem.index).Nodup)
    (hm : ∀ e ∈ elems, e.isMounted = false) :
    LaunchTrace (containerManagerWorkerThread sys elems) := by
  -- where an answer stands among the actions for its element
  have split : ∀ pre wres post,
      containerManagerWorkerThread sys elems = pre ++ .respond wres :: post →
        post.filter (WorkerAction.concerns wres.index) = [] ∧
          ∀ a ∈ pre.filter (WorkerAction.concerns wres.index), ∃ ret calls,
            a = .mount wres.index ret calls ∧ (wres.result ≠ 0 → ret < 0) := by
    intro pre wres post h
    have hmem : .respond wres ∈ containerManagerWorkerThread sys elems := by simp [h]
    obtain ⟨e, he, hw⟩ := respond_mem_thread hc hmem
    obtain ⟨hi, -, -, hacts⟩ := firstActions_answered (hm e he) hw
    have hf := filter_thread_of_respond hc hn he hw
    rw [h, List.filter_append, List.filter_cons_of_pos (by simp [WorkerAction.concerns, hi]),
      ← hi] at hf
    generalize pre.filter (WorkerAction.concerns wres.index) = p at hf ⊢
    generalize post.filter (WorkerAction.concerns wres.index) = q at hf ⊢
    rcases hacts with ⟨ret, calls, hacts, hret⟩ | hacts
    · rw [hacts] at hf
      rcases p with _ | ⟨a, _ | ⟨b, p⟩⟩
      · simp at hf
      · simp only [List.cons_append, List.nil_append, List.cons.injEq] at hf
        obtain ⟨rfl, -, rfl⟩ := hf
        refine ⟨rfl, fun a ha => ⟨ret, calls, ?_, hret⟩⟩
        rw [List.mem_singleton.mp ha, hi]
      · simp at hf
    · rw [hacts] at hf
      rcases p with _ | ⟨a, p⟩
      · simp only [List.nil_append, List.cons.injEq, true_and] at hf
        exact ⟨hf, by simp⟩
      · simp at hf
  constructor
  · intro wres hw
    obtain ⟨e, he, hw⟩ := respond_mem_thread hc hw
    obtain ⟨-, ho, hr, -⟩ := firstActions_answered (hm e he) hw
    exact ⟨ho, hr⟩
  · intro pre wres post h ret calls hmem
    have hq := List.filter_eq_nil_iff.mp (split pre wres post h).1 _ hmem
    simp [WorkerAction.concerns] at hq
  · intro pre wres post h hne ret calls hmem
    obtain ⟨ret', calls', e, hret⟩ := (split pre wres post h).2 _
      (List.mem_filter.mpr ⟨hmem, by simp [WorkerAction.concerns]⟩)
    obtain ⟨-, rfl, -⟩ := WorkerAction.mount.inj e
    exact hret hne
  · rw [containerManagerWorkerThread_eq]
    have hfirst : .close ∉ elems.flatMap (firstActions sys) := by
      intro hmem
      obtain ⟨e, -, he⟩ := List.mem_flatMap.mp hmem
      exact managerMountElem_ne_close _ _ _ e he
    have htail := laterActions_keptElems hc elems
    by_cases hnil : laterActions sys (keptElems sys elems) = []
    · rw [hnil, List.append_nil]
      exact fun hmem => hfirst (List.mem_of_mem_dropLast hmem)
    · rw [List.dropLast_append_of_ne_nil hnil, List.mem_append, not_or]
      exact ⟨hfirst, htail.close⟩

/-- The thread only mounts disks of its elements. -/
lemma mount_mem_thread (hc : sys.NoCancel) {index : ℕ} {ret : ℤ} {calls : List MountCall}
    (h : .mount index ret calls ∈ containerManagerWorkerThread sys elems) :
    index ∈ elems.map MountElem.index := by
  have hi : WorkerAction.concerns index (.mount index ret calls) = true := by
    simp [WorkerAction.concerns]
  rw [containerManagerWorkerThread_eq] at h
  rcases List.mem_append.mp h with h | h
  · obtain ⟨e, he, hmem⟩ := List.mem_flatMap.mp h
    rw [(managerMountElem_concerns sys sys.first false e _ hmem index).mp hi]
    exact List.mem_map_of_mem he
  · have htail := laterActions_keptElems hc elems
    obtain ⟨e, he, rfl⟩ := List.mem_map.mp (htail.concerns _ h index hi)
    exact List.mem_map_of_mem (mem_keptElems.mp he).1

end Launch

/-! ### Terminate -/

/-- The disk of this index is unmounted before its answer and before the end. -/
def UnmountsFirst (index : ℕ) (trace : List WorkerAction) : Prop :=
  ∀ pre a post, trace = pre ++ a :: post →
    (a = .close ∨ ∃ wres, a = .respond wres ∧ wres.index = index) →
      ∃ ret calls, .unmount index ret calls ∈ pre

/-- A worker that has to unmount a disk first goes on with another action, or unmounts it. -/
lemma UnmountsFirst.of_cons {index : ℕ} {action : WorkerAction} {todo : List WorkerAction}
    (h : UnmountsFirst index (action :: todo))
    (hne : ∀ ret calls, action ≠ .unmount index ret calls) :
    UnmountsFirst index todo ∧ action ≠ .close ∧
      ∀ wres, action = .respond wres → wres.index ≠ index := by
  refine ⟨?_, ?_, ?_⟩
  · intro pre a post e ha
    obtain ⟨ret, calls, hm⟩ := h (action :: pre) a post (by simp [e]) ha
    rcases List.mem_cons.mp hm with hm | hm
    · exact absurd hm.symm (hne ret calls)
    · exact ⟨ret, calls, hm⟩
  · rintro rfl
    obtain ⟨ret, calls, hm⟩ := h [] _ todo rfl (Or.inl rfl)
    simp at hm
  · rintro wres rfl hi
    obtain ⟨ret, calls, hm⟩ := h [] _ todo rfl (Or.inr ⟨wres, rfl, hi⟩)
    simp at hm

section Terminate

variable {sys : WorkerSys} {elems : List MountElem}

/-- A mounted element is unmounted, and answered. -/
lemma firstActions_mounted (sys : WorkerSys) {e : MountElem} (hm : e.isMounted = true) :
    ∃ ret calls result,
      firstActions sys e = [.unmount e.index ret calls, .respond ⟨e.index, 1, result⟩] := by
  have o := managerMountElem_outcome sys sys.first false e
  simp only [firstActions]
  generalize managerMountElem sys sys.first false e = r at o ⊢
  cases o with
  | unmounted ret calls => exact ⟨ret, calls, _, rfl⟩
  | answered _ _ h => simp [hm] at h
  | unsupported h => simp [hm] at h
  | kept _ _ h => simp [hm, MountElem.Recoverable] at h

/-- Unmounting keeps no element for the recovery. -/
lemma thread_of_mounted (hm : ∀ e ∈ elems, e.isMounted = true) :
    containerManagerWorkerThread sys elems = elems.flatMap (firstActions sys) ++ [.close] := by
  apply thread_of_kept_nil
  rw [List.eq_nil_iff_forall_not_mem]
  intro e he
  obtain ⟨hmem, hr, -⟩ := mem_keptElems.mp he
  exact absurd hr.1 (by simp [hm e hmem])

lemma mount_notMem_thread (hm : ∀ e ∈ elems, e.isMounted = true) (index : ℕ) (ret : ℤ)
    (calls : List MountCall) : .mount index ret calls ∉ containerManagerWorkerThread sys elems := by
  rw [thread_of_mounted hm]
  intro h
  rcases List.mem_append.mp h with h | h
  · obtain ⟨e, he, hmem⟩ := List.mem_flatMap.mp h
    obtain ⟨ret', calls', result, hacts⟩ := firstActions_mounted sys (hm e he)
    simp [hacts] at hmem
  · simp at h

lemma unmountsFirst_thread (hm : ∀ e ∈ elems, e.isMounted = true) {index : ℕ}
    (hi : index ∈ elems.map MountElem.index) :
    UnmountsFirst index (containerManagerWorkerThread sys elems) := by
  rw [thread_of_mounted hm]
  rintro pre a post h (rfl | ⟨wres, rfl, rfl⟩)
  · -- the close is the last action, so all the others come before it
    have hclose : .close ∉ elems.flatMap (firstActions sys) := by
      intro hmem
      obtain ⟨e, -, he⟩ := List.mem_flatMap.mp hmem
      exact managerMountElem_ne_close _ _ _ e he
    have hpost : post = [] := by
      by_contra hne
      apply hclose
      have hdrop := congrArg List.dropLast h
      rw [List.dropLast_concat, List.dropLast_append_of_ne_nil (by simp),
        List.dropLast_cons_of_ne_nil hne] at hdrop
      simp [hdrop]
    rw [hpost] at h
    obtain rfl := List.append_cancel_right h
    obtain ⟨e, he, rfl⟩ := List.mem_map.mp hi
    obtain ⟨ret, calls, result, hacts⟩ := firstActions_mounted sys (hm e he)
    exact ⟨ret, calls, List.mem_flatMap.mpr ⟨e, he, by simp [hacts]⟩⟩
  · -- every answer follows the unmount of its element
    clear hi
    induction elems generalizing pre with
    | nil =>
      rcases pre with _ | ⟨a, pre⟩ <;> simp at h
    | cons e elems ih =>
      obtain ⟨ret, calls, result, hacts⟩ :=
        firstActions_mounted sys (hm e List.mem_cons_self)
      rw [List.flatMap_cons, hacts] at h
      rcases pre with _ | ⟨a, _ | ⟨b, pre⟩⟩
      · simp at h
      · simp only [List.cons_append, List.nil_append, List.cons.injEq,
          WorkerAction.respond.injEq] at h
        obtain ⟨rfl, rfl, -⟩ := h
        exact ⟨ret, calls, List.mem_cons_self⟩
      · simp only [List.cons_append, List.nil_append, List.cons.injEq] at h
        obtain ⟨ret', calls', hmem⟩ :=
          ih (fun e he => hm e (List.mem_cons_of_mem _ he)) pre h.2.2
        exact ⟨ret', calls', List.mem_cons_of_mem _ (List.mem_cons_of_mem _ hmem)⟩

end Terminate

end ContainerManager

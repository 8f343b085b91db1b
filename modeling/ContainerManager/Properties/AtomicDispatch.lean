import ContainerManager.Properties.Answers

/-!
# A dispatch that fails

A dispatch marks each selected element as soon as it has a copy of it, and takes no mark back. So a
dispatch that fails leaves the operation as it was exactly when the elements copied before the
failure were marked already.
-/

namespace ContainerManager

/-- A dispatch that returns a negative value leaves the operation as it was, the elements of the
mount list and the storage. So when no element was dispatched before it, a later dispatch that
succeeds still completes, when its worker answers. -/
structure DispatchAtomic (kind : OperationKind) (sys : DispatchSys) (cmo : ManagerOperation) :
    Prop where
  unchanged : (kind.dispatch sys cmo).2 < 0 → (kind.dispatch sys cmo).1 = cmo
  completes : (kind.dispatch sys cmo).2 < 0 → (cmo.mountList.map MountElem.index).Nodup →
    (∀ t ∈ cmo.threads, t.serial < cmo.dispatches) →
    (∀ e ∈ cmo.mountList, e.isDispatched = false) →
    ∀ kind' sys', sys'.pthreadCreate = 0 → sys'.worker.NoCancel →
      FirstMountsSucceed kind' sys'.worker cmo →
      (kind'.dispatch sys' (kind.dispatch sys cmo).1).2 = 0 →
        Completes (kind'.dispatch sys' (kind.dispatch sys cmo).1).1 cmo.threads.length

/-- No unmarked element is copied before a failure: the elements before the first copy that cannot
be allocated are marked already, and all selected ones are when the thread cannot be created. -/
def NoneMarkedBeforeFailure (kind : OperationKind) (sys : DispatchSys) (cmo : ManagerOperation) :
    Prop :=
  let selected := cmo.mountList.filter kind.selects
  (∀ k < selected.length, (∀ j < k, sys.mallocElem j = true) → sys.mallocElem k = false →
      ∀ e ∈ selected.take k, e.isDispatched = true) ∧
    ((∀ k < selected.length, sys.mallocElem k = true) → sys.pthreadCreate < 0 →
      ∀ e ∈ selected, e.isDispatched = true)

/-! ### The marking loop -/

lemma MountElem.mark_eq_iff (e : MountElem) :
    { e with isDispatched := true } = e ↔ e.isDispatched = true := by
  cases e
  simp [eq_comm]

/-- When a copy cannot be allocated, the elements copied before are marked. -/
lemma dispatchElems_fails (select : MountElem → Bool) (l : List MountElem) {malloc : ℕ → Bool}
    {k : ℕ} (hk : k < (l.filter select).length) (hbefore : ∀ j < k, malloc j = true)
    (hfail : malloc k = false) :
    (dispatchElems select malloc l).2 = none ∧
      ((dispatchElems select malloc l).1 = l ↔
        ∀ e ∈ (l.filter select).take k, e.isDispatched = true) := by
  induction l generalizing malloc k with
  | nil => simp at hk
  | cons e l ih =>
    by_cases hs : select e
    · cases k with
      | zero => simp [dispatchElems, hs, hfail]
      | succ k =>
        have hlen : k < (l.filter select).length := by simpa [hs] using hk
        obtain ⟨hnone, hiff⟩ := ih hlen
          (fun j hj => hbefore (j + 1) (by omega)) hfail
        simp [dispatchElems, hs, hbefore 0 (by omega), hnone, hiff, MountElem.mark_eq_iff]
    · have hlen : k < (l.filter select).length := by simpa [hs] using hk
      simpa [dispatchElems, hs] using ih hlen hbefore hfail

/-- When every copy is allocated, all selected elements are marked. -/
lemma dispatchElems_succeeds (select : MountElem → Bool) (l : List MountElem) {malloc : ℕ → Bool}
    (h : ∀ k < (l.filter select).length, malloc k = true) :
    dispatchElems select malloc l =
      (l.map (MountElem.dispatchIf select), some (dispatchCopies select l)) := by
  induction l generalizing malloc with
  | nil => rfl
  | cons e l ih =>
    by_cases hs : select e
    · have hl := ih (fun k hk => h (k + 1) (by simpa [hs] using hk))
      simp [dispatchElems, hs, h 0 (by simp [hs]), hl, MountElem.dispatchIf, dispatchCopies]
    · have hl := ih fun k hk => h k (by simpa [hs] using hk)
      simp [dispatchElems, hs, hl, MountElem.dispatchIf, dispatchCopies]

/-- Marking the selected elements changes nothing when they are marked already. -/
lemma map_dispatchIf_eq_iff (select : MountElem → Bool) (l : List MountElem) :
    l.map (MountElem.dispatchIf select) = l ↔ ∀ e ∈ l.filter select, e.isDispatched = true := by
  induction l with
  | nil => simp
  | cons e l ih =>
    by_cases hs : select e
    · simp [MountElem.dispatchIf, hs, ih, MountElem.mark_eq_iff]
    · simp [MountElem.dispatchIf, hs, ih]

/-- Either some copy is the first that cannot be allocated, or all are. -/
lemma malloc_cases (malloc : ℕ → Bool) (n : ℕ) :
    (∃ k < n, (∀ j < k, malloc j = true) ∧ malloc k = false) ∨ ∀ k < n, malloc k = true := by
  induction n with
  | zero => simp
  | succ n ih =>
    rcases ih with ⟨k, hk, h⟩ | h
    · exact Or.inl ⟨k, by omega, h⟩
    · cases hn : malloc n with
      | false => exact Or.inl ⟨n, by omega, h, hn⟩
      | true =>
        right
        intro k hk
        rcases Nat.lt_succ_iff_lt_or_eq.mp hk with hk | rfl
        · exact h k hk
        · exact hn

/-! ### The dispatch -/

variable {kind : OperationKind} {sys : DispatchSys} {cmo : ManagerOperation}

/-- An operation that was left as it was is dispatched and completed as before. -/
lemma DispatchAtomic.of_unchanged
    (h : (kind.dispatch sys cmo).2 < 0 → (kind.dispatch sys cmo).1 = cmo) :
    DispatchAtomic kind sys cmo := by
  refine ⟨h, ?_⟩
  intro hneg hn hthreads hmarks kind' sys' hp _ hfirst
  rw [h hneg]
  intro h0
  have hd : Dispatchable kind' cmo := by
    refine ⟨hn, ?_, hthreads⟩
    intro e he hde
    simp [hmarks e he] at hde
  exact completes_of_kept_nil hd hp h0 ((keptElems_dispatchCopies _).mpr hfirst)

lemma ManagerOperation.with_mountList_eq_iff (l : List MountElem) :
    { cmo with mountList := l } = cmo ↔ l = cmo.mountList := by
  cases cmo
  simp

/-- Past the first allocations, a dispatch fails when a copy cannot be allocated, or when there is
something to do and no thread to do it. -/
lemma dispatch_past_allocations (kind : OperationKind) (hst : cmo.storage = none)
    (hok : sys.mallocStorage ∧ sys.mallocWorker ∧ sys.socketpair) :
    ((kind.dispatch sys cmo).2 < 0 ↔
      (dispatchElems kind.selects sys.mallocElem cmo.mountList).2 = none ∨
        (dispatchElems kind.selects sys.mallocElem cmo.mountList).2 ≠ some [] ∧
          sys.pthreadCreate < 0) ∧
      ((kind.dispatch sys cmo).2 < 0 → (kind.dispatch sys cmo).1 =
        { cmo with mountList := (dispatchElems kind.selects sys.mallocElem cmo.mountList).1 }) := by
  rw [OperationKind.dispatch_eq]
  simp only [managerOperationDispatch, hst, hok, Option.isSome_none, Bool.false_eq_true, and_self,
    not_true, if_false]
  cases hd : (dispatchElems kind.selects sys.mallocElem cmo.mountList).2 with
  | none => simp
  | some elems =>
    cases elems with
    | nil => simp
    | cons e elems =>
      by_cases hp : sys.pthreadCreate < 0
      · simp [hp]
      · simp [hp]

/-- The first copy that cannot be allocated is the only one of its kind. -/
lemma first_failure_unique {malloc : ℕ → Bool} {j k : ℕ} (hj : ∀ i < j, malloc i = true)
    (hjf : malloc j = false) (hk : ∀ i < k, malloc i = true) (hkf : malloc k = false) : j = k := by
  rcases lt_trichotomy j k with hlt | rfl | hlt
  · simp [hk j hlt] at hjf
  · rfl
  · simp [hj k hlt] at hkf

/-- The mount list is as it was when the dispatch fails exactly when no unmarked element is copied
before the failure. -/
lemma mountList_kept_iff (kind : OperationKind) (sys : DispatchSys) (cmo : ManagerOperation) :
    ((dispatchElems kind.selects sys.mallocElem cmo.mountList).2 = none ∨
        (dispatchElems kind.selects sys.mallocElem cmo.mountList).2 ≠ some [] ∧
          sys.pthreadCreate < 0 →
      (dispatchElems kind.selects sys.mallocElem cmo.mountList).1 = cmo.mountList) ↔
      NoneMarkedBeforeFailure kind sys cmo := by
  rcases malloc_cases sys.mallocElem (cmo.mountList.filter kind.selects).length with
    ⟨k, hk, hbefore, hfail⟩ | hall
  · -- the `k`-th copy cannot be allocated
    obtain ⟨hnone, hsame⟩ := dispatchElems_fails kind.selects cmo.mountList hk hbefore hfail
    rw [hnone, hsame]
    constructor
    · intro h
      refine ⟨?_, ?_⟩
      · intro k' _ hbefore' hfail'
        obtain rfl := first_failure_unique hbefore' hfail' hbefore hfail
        exact h (Or.inl rfl)
      · intro hall
        simp [hall k hk] at hfail
    · intro h _
      exact h.1 k hk hbefore hfail
  · -- every copy is allocated
    rw [dispatchElems_succeeds kind.selects cmo.mountList hall, map_dispatchIf_eq_iff]
    constructor
    · intro h
      refine ⟨?_, ?_⟩
      · intro k hk _ hfail
        simp [hall k hk] at hfail
      · intro _ hp e he
        refine h (Or.inr ⟨?_, hp⟩) e he
        intro hnil
        have hmem : e.workerCopy ∈ dispatchCopies kind.selects cmo.mountList :=
          List.mem_map_of_mem he
        rw [Option.some.inj hnil] at hmem
        simp at hmem
    · intro h hlt
      rcases hlt with hlt | ⟨-, hp⟩
      · simp at hlt
      · exact h.2 hall hp

/-- Past the first allocations, a dispatch is atomic exactly when the mount list is kept. -/
lemma dispatchAtomic_past_allocations (kind : OperationKind) (hst : cmo.storage = none)
    (hok : sys.mallocStorage ∧ sys.mallocWorker ∧ sys.socketpair) :
    DispatchAtomic kind sys cmo ↔ ((kind.dispatch sys cmo).2 < 0 →
      (dispatchElems kind.selects sys.mallocElem cmo.mountList).1 = cmo.mountList) := by
  obtain ⟨-, hcmo⟩ := dispatch_past_allocations kind hst hok
  constructor
  · intro h hlt
    rw [← ManagerOperation.with_mountList_eq_iff, ← hcmo hlt]
    exact h.unchanged hlt
  · intro h
    apply DispatchAtomic.of_unchanged
    intro hlt
    rw [hcmo hlt, ManagerOperation.with_mountList_eq_iff]
    exact h hlt

/-- A dispatch is atomic exactly when it does not get past the first allocations, or marks no
unmarked element before it fails. -/
theorem dispatch_atomic_iff (kind : OperationKind) (sys : DispatchSys) (cmo : ManagerOperation) :
    DispatchAtomic kind sys cmo ↔
      cmo.storage ≠ none ∨ ¬ (sys.mallocStorage ∧ sys.mallocWorker ∧ sys.socketpair) ∨
        NoneMarkedBeforeFailure kind sys cmo := by
  by_cases hst : cmo.storage = none
  swap
  · refine iff_of_true (.of_unchanged ?_) (Or.inl hst)
    intro _
    simp [OperationKind.dispatch_eq, managerOperationDispatch, Option.isSome_iff_ne_none, hst]
  by_cases hok : sys.mallocStorage ∧ sys.mallocWorker ∧ sys.socketpair
  swap
  · refine iff_of_true (.of_unchanged ?_) (Or.inr (Or.inl hok))
    intro _
    simp only [OperationKind.dispatch_eq, managerOperationDispatch]
    simp [hst, hok]
  rw [dispatchAtomic_past_allocations kind hst hok, (dispatch_past_allocations kind hst hok).1,
    mountList_kept_iff]
  simp [hst, hok]

/-- The second copy cannot be allocated, and the first disk is left marked. -/
theorem second_copy_leaves_mark :
    ¬ DispatchAtomic .launch { dispatchOk with mallocElem := fun k => k == 0 }
      { mountList := managerDisks } := by
  intro h
  exact absurd (h.unchanged (by decide)) (by decide)

end ContainerManager

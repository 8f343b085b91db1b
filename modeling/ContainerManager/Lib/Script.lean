import Mathlib.Tactic.Common
import Mathlib.Algebra.Order.Ring.Int

/-!
# Scripts of calls

A procedure that makes one call after the other, and returns early when it cannot go on, is the list
of what it does. The environment answers the calls; `ok a b` says that the answer `b` to the call
`a` is a success. A call either ends the procedure when it fails, or its result is not looked at.
-/

namespace Script

/-- One thing a procedure does. -/
inductive Op (α : Type*) where
  /-- a call; when it fails the procedure returns the given value, if there is one -/
  | call (a : α) (onFail : Option ℤ)
  /-- return with this value -/
  | leave (ret : ℤ)
deriving DecidableEq

/-- The calls made, with their answers, and the return value. -/
structure Outcome (α β : Type*) where
  calls : List (α × β)
  ret : ℤ

variable {α β : Type*}

/-- What happens when the environment gives these answers, in this order. -/
def run (ok : α → β → Bool) (answer : ℕ → β) : List (Op α) → Outcome α β
  | [] => ⟨[], 0⟩
  | .leave ret :: _ => ⟨[], ret⟩
  | .call a onFail :: rest =>
    let next := run ok (fun k => answer (k + 1)) rest
    match ok a (answer 0), onFail with
    | false, some ret => ⟨[(a, answer 0)], ret⟩
    | _, _ => ⟨(a, answer 0) :: next.calls, next.ret⟩

/-- The same procedure, called by one that returns this value when it fails. -/
def onError (ret : ℤ) (ops : List (Op α)) : List (Op α) :=
  ops.map fun
    | .call a onFail => .call a (onFail.map fun _ => ret)
    | .leave _ => .leave ret

/-- The calls that are made when no call fails. -/
def reached : List (Op α) → List α
  | [] => []
  | .leave _ :: _ => []
  | .call a _ :: rest => a :: reached rest

/-- The procedure does not return early by itself. -/
def Completes (ops : List (Op α)) : Prop := ∀ ret, Op.leave ret ∉ ops

/-- Every early return is an error. -/
structure Errors (ops : List (Op α)) : Prop where
  call : ∀ a ret, Op.call a (some ret) ∈ ops → ret < 0
  leave : ∀ ret, Op.leave ret ∈ ops → ret < 0

section Lists

variable {ops ops' : List (Op α)} {a : α} {onFail : Option ℤ} {ret : ℤ}

@[simp] lemma completes_nil : Completes ([] : List (Op α)) := by simp [Completes]

@[simp] lemma completes_call : Completes (.call a onFail :: ops) ↔ Completes ops := by
  simp [Completes]

@[simp] lemma not_completes_leave : ¬ Completes (.leave ret :: ops) := fun h => h ret (by simp)

@[simp] lemma completes_append : Completes (ops ++ ops') ↔ Completes ops ∧ Completes ops' := by
  simp [Completes, forall_and]

@[simp] lemma completes_flatMap {ι : Type*} {l : List ι} {f : ι → List (Op α)} :
    Completes (l.flatMap f) ↔ ∀ i ∈ l, Completes (f i) := by
  simp only [Completes, List.mem_flatMap, not_exists, not_and]
  exact ⟨fun h i hi ret => h ret i hi, fun h ret i hi => h i hi ret⟩

@[simp] lemma errors_nil : Errors ([] : List (Op α)) := ⟨by simp, by simp⟩

lemma errors_call : Errors (.call a onFail :: ops) ↔ (∀ ret, onFail = some ret → ret < 0) ∧
    Errors ops := by
  constructor
  · intro h
    exact ⟨fun ret e => h.call a ret (by simp [e]),
      fun b ret hb => h.call b ret (by simp [hb]), fun ret hr => h.leave ret (by simp [hr])⟩
  · rintro ⟨ha, hops⟩
    constructor
    · intro b ret hb
      rcases List.mem_cons.mp hb with e | hb
      · obtain ⟨-, e⟩ := Op.call.inj e
        exact ha ret e.symm
      · exact hops.call b ret hb
    · intro ret hr
      exact hops.leave ret (by simpa using hr)

lemma errors_leave : Errors (.leave ret :: ops) ↔ ret < 0 ∧ Errors ops := by
  constructor
  · intro h
    exact ⟨h.leave ret (by simp),
      fun b r hb => h.call b r (by simp [hb]), fun r hr => h.leave r (by simp [hr])⟩
  · rintro ⟨hret, hops⟩
    constructor
    · intro b r hb
      exact hops.call b r (by simpa using hb)
    · intro r hr
      rcases List.mem_cons.mp hr with e | hr
      · obtain rfl := Op.leave.inj e
        exact hret
      · exact hops.leave r hr

@[simp] lemma errors_append : Errors (ops ++ ops') ↔ Errors ops ∧ Errors ops' := by
  constructor
  · intro h
    exact ⟨⟨fun b r hb => h.call b r (by simp [hb]), fun r hr => h.leave r (by simp [hr])⟩,
      ⟨fun b r hb => h.call b r (by simp [hb]), fun r hr => h.leave r (by simp [hr])⟩⟩
  · rintro ⟨h, h'⟩
    exact ⟨fun b r hb => (List.mem_append.mp hb).elim (h.call b r) (h'.call b r),
      fun r hr => (List.mem_append.mp hr).elim (h.leave r) (h'.leave r)⟩

lemma errors_flatMap {ι : Type*} {l : List ι} {f : ι → List (Op α)} (h : ∀ i ∈ l, Errors (f i)) :
    Errors (l.flatMap f) := by
  constructor
  · intro b r hb
    obtain ⟨i, hi, hb⟩ := List.mem_flatMap.mp hb
    exact (h i hi).call b r hb
  · intro r hr
    obtain ⟨i, hi, hr⟩ := List.mem_flatMap.mp hr
    exact (h i hi).leave r hr

/-! ### Errors of a called procedure -/

lemma mem_onError_call : Op.call a onFail ∈ onError ret ops ↔
    ∃ onFail', Op.call a onFail' ∈ ops ∧ onFail = onFail'.map fun _ => ret := by
  simp only [onError, List.mem_map]
  constructor
  · rintro ⟨op, hop, e⟩
    cases op with
    | call b onFail' =>
      obtain ⟨rfl, rfl⟩ := Op.call.inj e
      exact ⟨onFail', hop, rfl⟩
    | leave r => cases e
  · rintro ⟨onFail', hop, rfl⟩
    exact ⟨_, hop, rfl⟩

lemma mem_onError_leave {r : ℤ} : Op.leave r ∈ onError ret ops ↔ r = ret ∧ ¬ Completes ops := by
  simp only [onError, List.mem_map, Completes, not_forall, not_not]
  constructor
  · rintro ⟨op, hop, e⟩
    cases op with
    | call b onFail' => cases e
    | leave r' => exact ⟨(Op.leave.inj e).symm, r', hop⟩
  · rintro ⟨rfl, r', hop⟩
    exact ⟨_, hop, rfl⟩

@[simp] lemma completes_onError : Completes (onError ret ops) ↔ Completes ops := by
  constructor
  · intro h
    by_contra hops
    exact h ret (mem_onError_leave.mpr ⟨rfl, hops⟩)
  · intro h r hr
    exact (mem_onError_leave.mp hr).2 h

lemma errors_onError (h : ret < 0) : Errors (onError ret ops) := by
  constructor
  · intro b r hb
    obtain ⟨onFail', -, e⟩ := mem_onError_call.mp hb
    cases onFail' with
    | none => simp at e
    | some r' => simpa [Option.some.inj e] using h
  · intro r hr
    exact (mem_onError_leave.mp hr).1 ▸ h

/-! ### Reached calls -/

lemma mem_reached_append : a ∈ reached (ops ++ ops') ↔
    a ∈ reached ops ∨ Completes ops ∧ a ∈ reached ops' := by
  induction ops with
  | nil => simp [reached]
  | cons op ops ih =>
    cases op with
    | call b onFail => simp [reached, ih, or_assoc]
    | leave r => simp [reached]

lemma reached_append (h : Completes ops) : reached (ops ++ ops') = reached ops ++ reached ops' := by
  induction ops with
  | nil => rfl
  | cons op ops ih =>
    cases op with
    | call b onFail => simp [reached, ih (completes_call.mp h)]
    | leave r => exact absurd h not_completes_leave

/-- Behind an early return nothing is reached. -/
lemma reached_append_of_not_completes (h : ¬ Completes ops) :
    reached (ops ++ ops') = reached ops := by
  induction ops with
  | nil => exact absurd completes_nil h
  | cons op ops ih =>
    cases op with
    | call b onFail => simp [reached, ih fun hc => h (completes_call.mpr hc)]
    | leave r => rfl

/-- A call of a loop is reached when no earlier pass ends the procedure. -/
lemma mem_reached_flatMap {ι : Type*} {l : List ι} {f : ι → List (Op α)} :
    a ∈ reached (l.flatMap f) ↔
      ∃ pre i post, l = pre ++ i :: post ∧ (∀ j ∈ pre, Completes (f j)) ∧ a ∈ reached (f i) := by
  induction l with
  | nil => simp [reached]
  | cons i l ih =>
    rw [List.flatMap_cons, mem_reached_append, ih]
    constructor
    · rintro (h | ⟨hi, pre, j, post, rfl, hpre, h⟩)
      · exact ⟨[], i, l, rfl, by simp, h⟩
      · exact ⟨i :: pre, j, post, rfl, by simpa using ⟨hi, hpre⟩, h⟩
    · rintro ⟨pre, j, post, e, hpre, h⟩
      cases pre with
      | nil =>
        obtain ⟨rfl, rfl⟩ := List.cons.inj e
        exact .inl h
      | cons k pre =>
        obtain ⟨rfl, rfl⟩ := List.cons.inj e
        obtain ⟨hi, hpre⟩ := List.forall_mem_cons.mp hpre
        exact .inr ⟨hi, pre, j, post, rfl, hpre, h⟩

lemma mem_reached_of_completes (h : Completes ops) : a ∈ reached ops ↔ ∃ f, Op.call a f ∈ ops := by
  induction ops with
  | nil => simp [reached]
  | cons op ops ih =>
    cases op with
    | call b onFail => simp [reached, ih (completes_call.mp h), exists_or, eq_comm]
    | leave r => exact absurd h not_completes_leave

@[simp] lemma reached_onError : reached (onError ret ops) = reached ops := by
  induction ops with
  | nil => rfl
  | cons op ops ih =>
    cases op with
    | call b onFail => exact congrArg (b :: ·) ih
    | leave r => rfl

/-- What holds of all reached calls, part by part. -/
lemma forall_reached_append {P : α → Prop} : (∀ b ∈ reached (ops ++ ops'), P b) ↔
    (∀ b ∈ reached ops, P b) ∧ (Completes ops → ∀ b ∈ reached ops', P b) := by
  simp only [mem_reached_append, or_imp, forall_and, and_imp]
  exact and_congr_right fun _ => forall_comm

lemma forall_reached_flatMap {P : α → Prop} {ι : Type*} {l : List ι} {f : ι → List (Op α)} :
    (∀ b ∈ reached (l.flatMap f), P b) ↔ ∀ pre i post, l = pre ++ i :: post →
      (∀ j ∈ pre, Completes (f j)) → ∀ b ∈ reached (f i), P b := by
  simp only [mem_reached_flatMap]
  constructor
  · intro h pre i post e hpre b hb
    exact h b ⟨pre, i, post, e, hpre, hb⟩
  · rintro h b ⟨pre, i, post, e, hpre, hb⟩
    exact h pre i post e hpre b hb

end Lists

/-! ### Runs -/

section Runs

variable {ok : α → β → Bool} {answer : ℕ → β} {ops : List (Op α)}

/-- After a call the run goes on, unless the call failed and ends it. -/
lemma run_call (ok : α → β → Bool) (answer : ℕ → β) (a : α) (onFail : Option ℤ)
    (ops : List (Op α)) :
    (ok a (answer 0) = false → onFail = none) ∧ run ok answer (.call a onFail :: ops) =
        ⟨(a, answer 0) :: (run ok (fun k => answer (k + 1)) ops).calls,
          (run ok (fun k => answer (k + 1)) ops).ret⟩ ∨
      ∃ ret, onFail = some ret ∧
        run ok answer (.call a onFail :: ops) = ⟨[(a, answer 0)], ret⟩ := by
  cases hok : ok a (answer 0) with
  | true => exact .inl ⟨by simp, by simp [run, hok]⟩
  | false =>
    cases onFail with
    | none => exact .inl ⟨by simp, by simp [run, hok]⟩
    | some ret => exact .inr ⟨ret, rfl, by simp [run, hok]⟩

/-- A run makes the reached calls in order, up to the one it returns after. -/
lemma run_calls_prefix : (run ok answer ops).calls.map Prod.fst <+: reached ops := by
  induction ops generalizing answer with
  | nil => simp [run, reached]
  | cons op ops ih =>
    cases op with
    | leave r => simp [run, reached]
    | call a onFail =>
      rcases run_call ok answer a onFail ops with ⟨-, hrun⟩ | ⟨ret, -, hrun⟩
      · rw [hrun]
        exact List.cons_prefix_cons.mpr ⟨rfl, ih⟩
      · rw [hrun]
        exact List.cons_prefix_cons.mpr ⟨rfl, List.nil_prefix⟩

lemma mem_reached_of_mem_run {c : α × β} (h : c ∈ (run ok answer ops).calls) :
    c.1 ∈ reached ops :=
  run_calls_prefix.subset (List.mem_map_of_mem h)

/-- When no call fails, all the reached calls are made. -/
lemma run_calls_of_ok (h : ∀ k a, ok a (answer k) = true) :
    (run ok answer ops).calls.map Prod.fst = reached ops := by
  induction ops generalizing answer with
  | nil => rfl
  | cons op ops ih =>
    cases op with
    | leave r => rfl
    | call a onFail =>
      have hnext : (run ok (fun k => answer (k + 1)) ops).calls.map Prod.fst = reached ops :=
        ih fun k => h (k + 1)
      simp [run, h 0 a, reached, hnext]

/-- When no call fails, the procedure succeeds unless it returns early by itself. -/
lemma run_ret_of_ok (herr : Errors ops) (h : ∀ k a, ok a (answer k) = true) :
    (run ok answer ops).ret = 0 ↔ Completes ops := by
  induction ops generalizing answer with
  | nil => simp [run]
  | cons op ops ih =>
    cases op with
    | leave r =>
      have hr : r < 0 := (errors_leave.mp herr).1
      simp [run, hr.ne]
    | call a onFail =>
      have hnext : (run ok (fun k => answer (k + 1)) ops).ret = 0 ↔ Completes ops :=
        ih (errors_call.mp herr).2 fun k => h (k + 1)
      simpa [run, h 0 a] using hnext

/-- A procedure whose early returns are errors returns no positive value. -/
lemma run_ret_nonpos (herr : Errors ops) : (run ok answer ops).ret ≤ 0 := by
  induction ops generalizing answer with
  | nil => exact le_rfl
  | cons op ops ih =>
    cases op with
    | leave r => exact (errors_leave.mp herr).1.le
    | call a onFail =>
      obtain ⟨ha, hops⟩ := errors_call.mp herr
      rcases run_call ok answer a onFail ops with ⟨-, hrun⟩ | ⟨ret, hret, hrun⟩
      · rw [hrun]
        exact ih hops
      · rw [hrun]
        exact (ha ret hret).le

/-- A procedure that succeeds did not return early, and only calls whose result is not looked at
failed. -/
lemma run_ret_eq_zero (herr : Errors ops) (h : (run ok answer ops).ret = 0) :
    Completes ops ∧
      ∀ c ∈ (run ok answer ops).calls, ok c.1 c.2 = false → Op.call c.1 none ∈ ops := by
  induction ops generalizing answer with
  | nil => simp [run]
  | cons op ops ih =>
    cases op with
    | leave r =>
      have hr : r < 0 := (errors_leave.mp herr).1
      exact absurd h hr.ne
    | call a onFail =>
      obtain ⟨ha, hops⟩ := errors_call.mp herr
      rcases run_call ok answer a onFail ops with ⟨hnone, hrun⟩ | ⟨ret, hret, hrun⟩
      · rw [hrun] at h ⊢
        obtain ⟨hc, hcalls⟩ := ih hops h
        refine ⟨completes_call.mpr hc, List.forall_mem_cons.mpr ⟨?_, ?_⟩⟩
        · intro hf
          simp [hnone hf]
        · intro c hmem hf
          exact List.mem_cons_of_mem _ (hcalls c hmem hf)
      · rw [hrun] at h
        exact absurd h (ha ret hret).ne

/-- A call whose result is not looked at may fail while the procedure succeeds. -/
lemma exists_run_unchecked (hok : ∀ a, ∃ b, ok a b = true) (hc : Completes ops) {a : α}
    (ha : Op.call a none ∈ ops) {b : β} (hb : ok a b = false) :
    ∃ answer, (run ok answer ops).ret = 0 ∧ (a, b) ∈ (run ok answer ops).calls := by
  have hsucc : ∀ ops : List (Op α), Completes ops → ∃ answer, (run ok answer ops).ret = 0 := by
    intro ops hc
    induction ops with
    | nil => exact ⟨fun _ => b, rfl⟩
    | cons op ops ih =>
      cases op with
      | leave r => exact absurd hc not_completes_leave
      | call a' onFail =>
        obtain ⟨answer, hret⟩ := ih (completes_call.mp hc)
        obtain ⟨b', hb'⟩ := hok a'
        exact ⟨fun k => k.casesOn b' answer, by simpa [run, hb'] using hret⟩
  induction ops with
  | nil => simp at ha
  | cons op ops ih =>
    cases op with
    | leave r => exact absurd hc not_completes_leave
    | call a' onFail =>
      rcases List.mem_cons.mp ha with e | ha
      · obtain ⟨rfl, rfl⟩ := Op.call.inj e
        obtain ⟨answer, hret⟩ := hsucc ops (completes_call.mp hc)
        refine ⟨fun k => k.casesOn b answer, ?_, ?_⟩
        · simpa [run, hb] using hret
        · simp [run, hb]
      · obtain ⟨answer, hret, hmem⟩ := ih (completes_call.mp hc) ha
        obtain ⟨b', hb'⟩ := hok a'
        refine ⟨fun k => k.casesOn b' answer, ?_, ?_⟩
        · simpa [run, hb'] using hret
        · simpa [run, hb'] using .inr hmem

end Runs

end Script

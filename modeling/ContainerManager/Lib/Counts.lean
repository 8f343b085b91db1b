import ContainerManager.Lib.Transition

/-!
# Counted resources

Calls that each work on one key of a table of counts. The count of a key depends on the calls on the
key only, so a property of all calls is one of the calls on each key.
-/

namespace Counts

open Transition

variable {κ α : Type*} [DecidableEq κ] (key : α → κ) (effect : ℕ → α → ℕ)

/-- A call changes the count of its key. -/
def perform (counts : κ → ℕ) (a : α) : κ → ℕ :=
  Function.update counts (key a) (effect (counts (key a)) a)

/-- The calls on a key. -/
def callsOn (p : κ) (as : List α) : List α := as.filter fun a => key a = p

@[simp] lemma callsOn_nil (p : κ) : callsOn key p ([] : List α) = [] := rfl

@[simp] lemma callsOn_append (p : κ) (as bs : List α) :
    callsOn key p (as ++ bs) = callsOn key p as ++ callsOn key p bs := List.filter_append ..

variable {key}

lemma callsOn_cons_self (a : α) (as : List α) :
    callsOn key (key a) (a :: as) = a :: callsOn key (key a) as := by
  simp [callsOn]

lemma callsOn_cons_of_ne {p : κ} {a : α} (h : key a ≠ p) (as : List α) :
    callsOn key p (a :: as) = callsOn key p as := by
  simp [callsOn, h]

lemma callsOn_of_forall_eq {p : κ} {as : List α} (h : ∀ a ∈ as, key a = p) :
    callsOn key p as = as := by
  rw [callsOn, List.filter_eq_self]
  simpa using h

lemma callsOn_of_forall_ne {p : κ} {as : List α} (h : ∀ a ∈ as, key a ≠ p) :
    callsOn key p as = [] := by
  rw [callsOn, List.filter_eq_nil_iff]
  simpa using h

variable {effect}

lemma perform_self (counts : κ → ℕ) (a : α) :
    perform key effect counts a (key a) = effect (counts (key a)) a := by
  simp [perform]

lemma perform_of_ne {p : κ} {a : α} (h : key a ≠ p) (counts : κ → ℕ) :
    perform key effect counts a p = counts p := by
  simp [perform, Function.update_of_ne h.symm]

/-- The count of a key after the calls. -/
lemma run_perform_apply (counts : κ → ℕ) (as : List α) (p : κ) :
    run (perform key effect) counts as p = run effect (counts p) (callsOn key p as) := by
  induction as generalizing counts with
  | nil => rfl
  | cons a as ih =>
    rw [run_cons, ih]
    rcases eq_or_ne (key a) p with rfl | h
    · rw [perform_self, callsOn_cons_self, run_cons]
    · rw [perform_of_ne h, callsOn_cons_of_ne h]

/-- Every call is allowed by the count of its key exactly when this holds key by key. -/
lemma guarded_perform_iff {G : ℕ → α → Prop} (counts : κ → ℕ) (as : List α) :
    Guarded (perform key effect) (fun counts a => G (counts (key a)) a) counts as ↔
      ∀ p, Guarded effect G (counts p) (callsOn key p as) := by
  induction as generalizing counts with
  | nil => simp
  | cons a as ih =>
    rw [guarded_cons, ih]
    constructor
    · rintro ⟨ha, has⟩ p
      have hp := has p
      rcases eq_or_ne (key a) p with rfl | h
      · rw [perform_self] at hp
        rw [callsOn_cons_self, guarded_cons]
        exact ⟨ha, hp⟩
      · rw [perform_of_ne h] at hp
        rwa [callsOn_cons_of_ne h]
    · intro hall
      have ha := hall (key a)
      rw [callsOn_cons_self, guarded_cons] at ha
      refine ⟨ha.1, ?_⟩
      intro p
      rcases eq_or_ne (key a) p with rfl | h
      · rw [perform_self]
        exact ha.2
      · have hp := hall p
        rw [callsOn_cons_of_ne h] at hp
        rwa [perform_of_ne h]

end Counts

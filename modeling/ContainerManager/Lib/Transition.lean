import Mathlib.Logic.Relation
import Mathlib.Data.List.Basic

/-!
# Runs of deterministic transition systems

A system is a function `step : σ → α → σ`, where an action `α` carries every outcome the
environment may choose. Runs are lists of actions. The rules below turn facts about one step into
facts about whole runs: for every run, for the runs whose steps all satisfy a guard, and for one
component of a state whose steps move that component along a smaller relation.
-/

namespace Transition

variable {σ α : Type*} (step : σ → α → σ)

/-- The state after a list of actions. -/
def run (s : σ) (as : List α) : σ := as.foldl step s

@[simp] lemma run_nil (s : σ) : run step s [] = s := rfl

@[simp] lemma run_cons (s : σ) (a : α) (as : List α) :
    run step s (a :: as) = run step (step s a) as := rfl

lemma run_append (s : σ) (as bs : List α) :
    run step s (as ++ bs) = run step (run step s as) bs := by
  simp [run, List.foldl_append]

/-- Every action of the run satisfies the guard in the state it is taken in. -/
def Guarded (G : σ → α → Prop) : σ → List α → Prop
  | _, [] => True
  | s, a :: as => G s a ∧ Guarded G (step s a) as

@[simp] lemma guarded_nil (G : σ → α → Prop) (s : σ) : Guarded step G s [] := trivial

@[simp] lemma guarded_cons (G : σ → α → Prop) (s : σ) (a : α) (as : List α) :
    Guarded step G s (a :: as) ↔ G s a ∧ Guarded step G (step s a) as := Iff.rfl

lemma guarded_append (G : σ → α → Prop) (s : σ) (as bs : List α) :
    Guarded step G s (as ++ bs) ↔ Guarded step G s as ∧ Guarded step G (run step s as) bs := by
  induction as generalizing s with
  | nil => simp
  | cons a as ih => simp [ih, and_assoc]

/-- A weaker guard is satisfied as well. -/
lemma Guarded.mono {step : σ → α → σ} {G H : σ → α → Prop} (hGH : ∀ s a, G s a → H s a) {s : σ}
    {as : List α} (h : Guarded step G s as) : Guarded step H s as := by
  induction as generalizing s with
  | nil => trivial
  | cons a as ih => exact ⟨hGH s a h.1, ih h.2⟩

/-- A guard that every action satisfies is satisfied along every run. -/
lemma guarded_of_forall {step : σ → α → σ} {G : σ → α → Prop} (h : ∀ s a, G s a) (s : σ)
    (as : List α) : Guarded step G s as := by
  induction as generalizing s with
  | nil => trivial
  | cons a as ih => exact ⟨h s a, ih _⟩

/-- A guard on the actions alone, satisfied by each action of the run. -/
lemma guarded_of_mem {step : σ → α → σ} {G : α → Prop} {s : σ} {as : List α}
    (h : ∀ a ∈ as, G a) : Guarded step (fun _ a => G a) s as := by
  induction as generalizing s with
  | nil => trivial
  | cons a as ih =>
    exact ⟨h a List.mem_cons_self, ih fun b hb => h b (List.mem_cons_of_mem _ hb)⟩

/-- Two guards that are satisfied along a run are satisfied together. -/
lemma Guarded.and {step : σ → α → σ} {G H : σ → α → Prop} {s : σ} {as : List α}
    (hG : Guarded step G s as) (hH : Guarded step H s as) :
    Guarded step (fun s a => G s a ∧ H s a) s as := by
  induction as generalizing s with
  | nil => trivial
  | cons a as ih => exact ⟨⟨hG.1, hH.1⟩, ih hG.2 hH.2⟩

/-- An invariant kept by the guarded steps holds at the end of a guarded run. -/
lemma run_invariant_of_guarded {step : σ → α → σ} {G : σ → α → Prop} {I : σ → Prop}
    (hstep : ∀ s a, G s a → I s → I (step s a)) {s : σ} (hs : I s) {as : List α}
    (has : Guarded step G s as) : I (run step s as) := by
  induction as generalizing s with
  | nil => exact hs
  | cons a as ih => exact ih (hstep s a has.1 hs) has.2

/-- Along a guarded run, every step keeps the invariant and does what the invariant allows it. -/
lemma Guarded.of_invariant {step : σ → α → σ} {G Q : σ → α → Prop} {I : σ → Prop} {s : σ}
    {as : List α} (has : Guarded step G s as)
    (hstep : ∀ s a, G s a → I s → I (step s a) ∧ Q s a) (hs : I s) :
    Guarded step (fun s a => I (step s a) ∧ Q s a) s as := by
  induction as generalizing s with
  | nil => trivial
  | cons a as ih =>
    have h := hstep s a has.1 hs
    exact ⟨h, ih has.2 h.1⟩

/-- An invariant kept by every step holds at the end of every run. -/
lemma run_invariant {step : σ → α → σ} {I : σ → Prop} (hstep : ∀ s a, I s → I (step s a)) {s : σ}
    (hs : I s) (as : List α) : I (run step s as) := by
  induction as generalizing s with
  | nil => exact hs
  | cons a as ih => exact ih (hstep s a hs)

/-- When every step accounts for what it adds to a log, everything in the log after a run was there
before, or some step of the run accounts for it. -/
lemma run_log_cause {ε : Type*} {step : σ → α → σ} (log : σ → List ε) {J : σ → α → ε → Prop}
    (hstep : ∀ s a e, e ∈ log (step s a) → e ∈ log s ∨ J s a e) {s : σ} {as : List α} {e : ε}
    (he : e ∈ log (run step s as)) :
    e ∈ log s ∨ ∃ pre a post, as = pre ++ a :: post ∧ J (run step s pre) a e := by
  induction as generalizing s with
  | nil => exact Or.inl he
  | cons a as ih =>
    rcases ih he with hlog | ⟨pre, b, post, rfl, hj⟩
    · exact (hstep s a e hlog).imp_right fun hj => ⟨[], a, as, rfl, hj⟩
    · exact Or.inr ⟨a :: pre, b, post, rfl, hj⟩

/-- When every step is a guarded run of another system, so is every run. -/
lemma run_refines {τ β : Type*} {step : σ → α → σ} {step' : τ → β → τ} {G : τ → β → Prop}
    (abs : σ → τ)
    (hstep : ∀ s a, ∃ bs, Guarded step' G (abs s) bs ∧ abs (step s a) = run step' (abs s) bs)
    (s : σ) (as : List α) :
    ∃ bs, Guarded step' G (abs s) bs ∧ abs (run step s as) = run step' (abs s) bs := by
  induction as generalizing s with
  | nil => exact ⟨[], trivial, rfl⟩
  | cons a as ih =>
    obtain ⟨bs, hbs, ha⟩ := hstep s a
    obtain ⟨cs, hcs, has⟩ := ih (step s a)
    rw [ha] at hcs has
    refine ⟨bs ++ cs, (guarded_append step' G (abs s) bs cs).mpr ⟨hbs, hcs⟩, ?_⟩
    rw [run_cons, has, run_append]

/-- The states that some run reaches from an initial state. -/
inductive Reachable (init : σ → Prop) : σ → Prop where
  | init {s : σ} (h : init s) : Reachable init s
  | step {s : σ} (h : Reachable init s) (a : α) : Reachable init (step s a)

lemma Reachable.run {step : σ → α → σ} {init : σ → Prop} {s : σ} (h : Reachable step init s)
    (as : List α) : Reachable step init (run step s as) :=
  run_invariant (I := Reachable step init) (fun _ a hs => hs.step a) h as

lemma Reachable.invariant {step : σ → α → σ} {init I : σ → Prop} (hinit : ∀ s, init s → I s)
    (hstep : ∀ s a, I s → I (step s a)) {s : σ} (h : Reachable step init s) : I s := by
  induction h with
  | init h => exact hinit _ h
  | step _ a ih => exact hstep _ a ih

/-- An invariant may use what is already known of the reachable states. -/
lemma Reachable.invariant_of_reachable {step : σ → α → σ} {init I : σ → Prop}
    (hinit : ∀ s, init s → I s)
    (hstep : ∀ s a, Reachable step init s → I s → I (step s a)) {s : σ}
    (h : Reachable step init s) : I s := by
  induction h with
  | init h => exact hinit _ h
  | step hs a ih => exact hstep _ a hs ih

/-- A property of a component survives any number of component moves that each keep it. -/
lemma reflTransGen_invariant {τ : Type*} {R : τ → τ → Prop} {I : τ → Prop}
    (hR : ∀ x y, R x y → I x → I y) {x y : τ} (h : Relation.ReflTransGen R x y) (hx : I x) :
    I y := by
  induction h with
  | refl => exact hx
  | tail _ hr ih => exact hR _ _ hr ih

end Transition

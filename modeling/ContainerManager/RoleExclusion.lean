import ContainerManager.Lib.Exclusion
import ContainerManager.Lifecycle

/-!
# Mutual exclusion in the abstract machine

All guests together: each guest takes moves of its own, a role start enables a guest of a role
without enabled guest, and a role switch hands the role over. The switch writes the status of the
new guest without looking at it; that it was disabled follows from the exclusion.
-/

namespace ContainerManager

open Exclusion

variable {n : ℕ} {R : Prop}

/-- What the abstract machine sees of all guests. -/
abbrev GuestViews (n : ℕ) := Fin n → GuestView

namespace GuestViews

def role (f : GuestViews n) (i : Fin n) : String := (f i).role

def Enabled (f : GuestViews n) (i : Fin n) : Prop := (f i).status ≠ .disable

end GuestViews

/-- The moves of all guests. -/
inductive GuestsMove (R : Prop) (f : GuestViews n) : GuestViews n → Prop where
  | moves (g : GuestViews n) (h : ∀ i, LifeMove R (f i) (g i)) : GuestsMove R f g
  | enable (j : Fin n) (hs : (f j).sys = .run)
      (h : ∀ i, f.role i = f.role j → ¬ f.Enabled i) :
      GuestsMove R f (Function.update f j (f j).enabled)
  | switch (i j : Fin n) (hij : i ≠ j) (hr : f.role i = f.role j) (hsi : (f i).sys = .run)
      (hsj : (f j).sys = .run) (h : (f i).status = .notStarted) (base : BaseConfig)
      (hb : base.lifecycle = (f i).base.lifecycle) (hu : base.Unmounted) :
      GuestsMove R f (Function.update (Function.update f i ((f i).disabled base)) j (f j).enabled)

namespace GuestsMove

variable {f g : GuestViews n}

/-- A role switch is a hand-over. -/
lemma handsOver {i j : Fin n} (hij : i ≠ j) (base : BaseConfig) :
    HandsOver f.Enabled
      (GuestViews.Enabled
        (Function.update (Function.update f i ((f i).disabled base)) j (f j).enabled)) i j where
  gives := by simp [GuestViews.Enabled, hij, GuestView.disabled]
  takes := by simp [GuestViews.Enabled, GuestView.enabled]
  others k hki hkj := by simp [GuestViews.Enabled, hki, hkj]

lemma role_eq (h : GuestsMove R f g) : g.role = f.role := by
  funext k
  cases h with
  | moves g h => exact (h k).role
  | enable j hs h => by_cases hkj : k = j <;> simp [GuestViews.role, hkj, GuestView.enabled]
  | switch i j hij hr hsi hsj h base hb hu =>
    by_cases hkj : k = j
    · simp [GuestViews.role, hkj, GuestView.enabled]
    · by_cases hki : k = i <;> simp [GuestViews.role, hkj, hki, hij, GuestView.disabled]

/-- The guest that a role start enables is the first of its role. -/
lemma enabled_iff_of_enable {j : Fin n} {i : Fin n} :
    GuestViews.Enabled (Function.update f j (f j).enabled) i ↔ i = j ∨ f.Enabled i := by
  by_cases hij : i = j <;> simp [GuestViews.Enabled, hij, GuestView.enabled]

/-- The moves keep roles exclusive. -/
lemma exclusive (h : GuestsMove R f g) (hex : Exclusive f.role f.Enabled) :
    Exclusive g.role g.Enabled := by
  rw [h.role_eq]
  cases h with
  | moves g h =>
    have hen : ∀ i, g.Enabled i → f.Enabled i := fun i hi e => hi ((h i).status_disable.mpr e)
    exact fun i j hi hj => hex i j (hen i hi) (hen j hj)
  | enable j hs h =>
    intro k l hk hl hkl
    rcases enabled_iff_of_enable.mp hk with rfl | hk' <;>
      rcases enabled_iff_of_enable.mp hl with rfl | hl'
    · rfl
    · exact absurd hl' (h l hkl.symm)
    · exact absurd hk' (h k hkl)
    · exact hex k l hk' hl' hkl
  | switch i j hij hr hsi hsj h base hb hu =>
    have hi : f.Enabled i := by simp [GuestViews.Enabled, h]
    exact hex.handOver hi hr (handsOver hij base)

/-- A role that has an enabled guest keeps one. -/
lemma held (h : GuestsMove R f g) {k : String} (hk : Held f.role f.Enabled k) :
    Held g.role g.Enabled k := by
  rw [h.role_eq]
  cases h with
  | moves g h =>
    obtain ⟨i, hi, hen⟩ := hk
    exact ⟨i, hi, fun e => hen ((h i).status_disable.mp e)⟩
  | enable j hs h =>
    obtain ⟨i, hi, hen⟩ := hk
    exact ⟨i, hi, enabled_iff_of_enable.mpr (Or.inr hen)⟩
  | switch i j hij hr hsi hsj h base hb hu => exact hk.handOver hr (handsOver hij base)

/-- While roles are exclusive, every guest takes a step of its own machine. -/
lemma lifeStep (h : GuestsMove R f g) (hex : Exclusive f.role f.Enabled) (k : Fin n) :
    LifeStep R (f k) (g k) := by
  have same : LifeStep R (f k) (f k) := .move .idle
  cases h with
  | moves g h => exact .move (h k)
  | enable j hs h =>
    by_cases hkj : k = j
    · subst hkj
      have hd : (f k).status = .disable := not_not.mp (h k rfl)
      simpa using LifeStep.enable hs hd
    · simpa [hkj] using same
  | switch i j hij hr hsi hsj h base hb hu =>
    by_cases hkj : k = j
    · subst hkj
      have hi : f.Enabled i := by simp [GuestViews.Enabled, h]
      have hd : (f k).status = .disable := not_not.mp (hex.not_holds_of_ne hi hr hij)
      simpa using LifeStep.enable hsj hd
    · by_cases hki : k = i
      · subst hki
        simpa [hkj] using LifeStep.disable hsi h base hb hu
      · simpa [hkj, hki] using same

end GuestsMove

/-! ### Several moves -/

/-- Any number of moves of all guests. -/
abbrev GuestsMoves (R : Prop) : GuestViews n → GuestViews n → Prop :=
  Relation.ReflTransGen (GuestsMove R)

/-- Any number of moves that every guest takes of its own: no role is started or switched. -/
abbrev OwnMoves (R : Prop) : GuestViews n → GuestViews n → Prop :=
  Relation.ReflTransGen fun f g => ∀ i, LifeMove R (f i) (g i)

namespace OwnMoves

variable {f g : GuestViews n}

lemma moves (h : OwnMoves R f g) : GuestsMoves R f g :=
  Relation.ReflTransGen.mono (fun _ _ h => .moves _ h) _ _ h

/-- What every move of a guest keeps, its own moves keep. -/
lemma invariant {I : GuestView → Prop} (hI : ∀ v w, LifeMove R v w → I v → I w)
    (h : OwnMoves R f g) {i : Fin n} (hi : I (f i)) : I (g i) :=
  Transition.reflTransGen_invariant (I := fun g : GuestViews n => I (g i))
    (fun _ _ hm hx => hI _ _ (hm i) hx) h hi

end OwnMoves

namespace GuestsMoves

variable {f g : GuestViews n}

lemma role_eq (h : GuestsMoves R f g) : g.role = f.role :=
  Transition.reflTransGen_invariant (I := fun g => g.role = f.role)
    (fun _ _ hm hx => hm.role_eq.trans hx) h rfl

lemma exclusive (h : GuestsMoves R f g) (hex : Exclusive f.role f.Enabled) :
    Exclusive g.role g.Enabled :=
  Transition.reflTransGen_invariant (I := fun g => Exclusive g.role g.Enabled)
    (fun _ _ hm hx => hm.exclusive hx) h hex

lemma held (h : GuestsMoves R f g) {k : String} (hk : Held f.role f.Enabled k) :
    Held g.role g.Enabled k :=
  Transition.reflTransGen_invariant (I := fun g => Held g.role g.Enabled k)
    (fun _ _ hm hx => hm.held hx) h hk

lemma lifeSteps (h : GuestsMoves R f g) (hex : Exclusive f.role f.Enabled) (i : Fin n) :
    Relation.ReflTransGen (LifeStep R) (f i) (g i) := by
  have key : Exclusive g.role g.Enabled ∧ Relation.ReflTransGen (LifeStep R) (f i) (g i) := by
    induction h with
    | refl => exact ⟨hex, .refl⟩
    | tail _ hm ih => exact ⟨hm.exclusive ih.1, ih.2.tail (hm.lifeStep ih.1 i)⟩
  exact key.2

/-- What every step of a guest's own machine keeps, the moves of all guests keep. -/
lemma invariant {I : GuestView → Prop} (hI : ∀ v w, LifeStep R v w → I v → I w)
    (h : GuestsMoves R f g) (hex : Exclusive f.role f.Enabled) {i : Fin n} (hi : I (f i)) :
    I (g i) :=
  Transition.reflTransGen_invariant hI (h.lifeSteps hex i) hi

end GuestsMoves

end ContainerManager

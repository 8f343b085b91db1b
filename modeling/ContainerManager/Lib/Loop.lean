import Mathlib.Data.List.FinRange
import Mathlib.Logic.Function.Basic

/-!
# Loops over an array

`forEach body s` runs `body` once for each index of an array of length `n`, in ascending order,
threading the state: the `for (int i = 0; i < num; i++)` loop. The rules say what a loop keeps and,
for a loop whose body only touches its own index, what it leaves at an index.
-/

namespace Loop

variable {n : ℕ} {σ : Type*}

/-- `for i in 0 .. n-1 { s = body s i }`. -/
def forEach (body : σ → Fin n → σ) (s : σ) : σ := (List.finRange n).foldl body s

/-- A fold keeps what its body keeps. -/
lemma foldl_invariant {ι : Type*} {I : σ → Prop} {body : σ → ι → σ}
    (h : ∀ s i, I s → I (body s i)) {s : σ} (hs : I s) (l : List ι) : I (l.foldl body s) := by
  induction l generalizing s with
  | nil => exact hs
  | cons i l ih => exact ih (h s i hs)

lemma forEach_invariant {I : σ → Prop} {body : σ → Fin n → σ} (h : ∀ s i, I s → I (body s i))
    {s : σ} (hs : I s) : I (forEach body s) :=
  foldl_invariant h hs _

/-- A fold relates its first and last state by every preorder that relates the two ends of one
pass. -/
lemma foldl_rel {ι : Type*} {R : σ → σ → Prop} (hrefl : ∀ s, R s s)
    (htrans : ∀ s t u, R s t → R t u → R s u) {body : σ → ι → σ} (h : ∀ s i, R s (body s i))
    (s : σ) (l : List ι) : R s (l.foldl body s) := by
  induction l generalizing s with
  | nil => exact hrefl s
  | cons i l ih => exact htrans _ _ _ (h s i) (ih (body s i))

lemma forEach_rel {R : σ → σ → Prop} (hrefl : ∀ s, R s s)
    (htrans : ∀ s t u, R s t → R t u → R s u) {body : σ → Fin n → σ}
    (h : ∀ s i, R s (body s i)) (s : σ) : R s (forEach body s) :=
  foldl_rel hrefl htrans h s _

/-- What no pass changes, the loop does not change. -/
lemma forEach_congr {β : Type*} {body : σ → Fin n → σ} (f : σ → β)
    (h : ∀ s i, f (body s i) = f s) (s : σ) : f (forEach body s) = f s :=
  forEach_invariant (I := fun t => f t = f s) (fun t i ht => (h t i).trans ht) rfl

/-- Splitting a loop at one index: the passes before it, its own pass, the passes after it. -/
lemma forEach_split (body : σ → Fin n → σ) (s : σ) (i : Fin n) :
    ∃ pre post : List (Fin n), List.finRange n = pre ++ i :: post ∧ i ∉ pre ∧ i ∉ post ∧
      forEach body s = post.foldl body (body (pre.foldl body s) i) := by
  obtain ⟨pre, post, h⟩ := List.append_of_mem (List.mem_finRange i)
  have hnd : (pre ++ i :: post).Nodup := h ▸ List.nodup_finRange n
  rw [List.nodup_append] at hnd
  obtain ⟨-, hpost, hdisj⟩ := hnd
  refine ⟨pre, post, h, ?_, (List.nodup_cons.mp hpost).1, ?_⟩
  · intro hi
    exact hdisj i hi i List.mem_cons_self rfl
  · rw [forEach, h, List.foldl_append, List.foldl_cons]

/-- A fold that never visits `i` keeps what the passes for the other indices keep. -/
lemma foldl_invariant_of_ne {I : σ → Prop} {body : σ → Fin n → σ} {i : Fin n}
    (h : ∀ s j, j ≠ i → I s → I (body s j)) {s : σ} (hs : I s) {l : List (Fin n)} (hi : i ∉ l) :
    I (l.foldl body s) := by
  induction l generalizing s with
  | nil => exact hs
  | cons j l ih =>
    rw [List.mem_cons, not_or] at hi
    exact ih (h s j (fun e => hi.1 e.symm) hs) hi.2

/-- The Hoare rule for one index: the passes for the other indices keep `P` before and `Q` after,
and the own pass turns `P` into `Q`. -/
lemma forEach_at {P Q : σ → Prop} {body : σ → Fin n → σ} (i : Fin n)
    (hpre : ∀ s j, j ≠ i → P s → P (body s j)) (hown : ∀ s, P s → Q (body s i))
    (hpost : ∀ s j, j ≠ i → Q s → Q (body s j)) {s : σ} (hs : P s) : Q (forEach body s) := by
  obtain ⟨pre, post, -, hi, hi', heq⟩ := forEach_split body s i
  rw [heq]
  exact foldl_invariant_of_ne hpost (hown _ (foldl_invariant_of_ne hpre hs hi)) hi'

/-- The rule for an invariant that knows which passes are still to come. -/
lemma foldl_invariant_rest {ι : Type*} {I : List ι → σ → Prop} {body : σ → ι → σ}
    (h : ∀ s i rest, I (i :: rest) s → I rest (body s i)) {s : σ} {l : List ι} (hs : I l s) :
    I [] (l.foldl body s) := by
  induction l generalizing s with
  | nil => exact hs
  | cons i l ih => exact ih (h s i l hs)

/-- A fold that overwrites each visited entry of an array by a function of its old value. -/
lemma foldl_update {α : Type*} (f : Fin n → α → α) (g : Fin n → α) {l : List (Fin n)}
    (hl : l.Nodup) :
    l.foldl (fun g i => Function.update g i (f i (g i))) g =
      fun i => if i ∈ l then f i (g i) else g i := by
  induction l generalizing g with
  | nil => simp
  | cons j l ih =>
    obtain ⟨hj, hl⟩ := List.nodup_cons.mp hl
    rw [List.foldl_cons, ih _ hl]
    funext i
    by_cases hij : i = j
    · subst hij
      simp [hj]
    · simp [hij]

/-- The loop that overwrites every entry of an array is a map. -/
lemma forEach_update {α : Type*} (f : Fin n → α → α) (g : Fin n → α) :
    forEach (fun g i => Function.update g i (f i (g i))) g = fun i => f i (g i) := by
  rw [forEach, foldl_update f g (List.nodup_finRange n)]
  simp

end Loop

import Mathlib.Logic.Function.Basic
import Mathlib.Logic.ExistsUnique

/-!
# Mutual exclusion within classes

Owners are indices `ι`, each in a class `cls i`. `Exclusive` says that a class has at most one
holder. It is kept when holders drop out and when a holder hands over to another member of its own
class; the hand-over also keeps every class that is held held.
-/

namespace Exclusion

variable {ι κ : Type*} {cls : ι → κ} {holds holds' : ι → Prop}

/-- At most one holder in each class. -/
def Exclusive (cls : ι → κ) (holds : ι → Prop) : Prop :=
  ∀ i j, holds i → holds j → cls i = cls j → i = j

/-- The class `k` has a holder. -/
def Held (cls : ι → κ) (holds : ι → Prop) (k : κ) : Prop := ∃ i, cls i = k ∧ holds i

lemma Exclusive.existsUnique (h : Exclusive cls holds) {k : κ} (hk : Held cls holds k) :
    ∃! i, cls i = k ∧ holds i := by
  obtain ⟨i, hi, hhi⟩ := hk
  refine ⟨i, ⟨hi, hhi⟩, ?_⟩
  rintro j ⟨hj, hhj⟩
  exact h j i hhj hhi (hj.trans hi.symm)

/-- `holds'` is `holds` after the holder `i` handed over to `j`. -/
structure HandsOver (holds holds' : ι → Prop) (i j : ι) : Prop where
  gives : ¬ holds' i
  takes : holds' j
  others : ∀ k, k ≠ i → k ≠ j → (holds' k ↔ holds k)

lemma Exclusive.handOver (h : Exclusive cls holds) {i j : ι} (hi : holds i) (hc : cls i = cls j)
    (ho : HandsOver holds holds' i j) : Exclusive cls holds' := by
  have key : ∀ k, holds' k → k = j ∨ (k ≠ i ∧ k ≠ j ∧ holds k) := by
    intro k hk
    by_cases hkj : k = j
    · exact Or.inl hkj
    · have hki : k ≠ i := fun e => ho.gives (e ▸ hk)
      exact Or.inr ⟨hki, hkj, (ho.others k hki hkj).mp hk⟩
  intro k l hk hl hkl
  rcases key k hk with rfl | ⟨hki, -, hhk⟩ <;> rcases key l hl with rfl | ⟨hli, -, hhl⟩
  · rfl
  · exact absurd (h l i hhl hi (hkl.symm.trans hc.symm)) hli
  · exact absurd (h k i hhk hi (hkl.trans hc.symm)) hki
  · exact h k l hhk hhl hkl

lemma Held.handOver {i j : ι} (hc : cls i = cls j) (ho : HandsOver holds holds' i j) {k : κ}
    (hk : Held cls holds k) : Held cls holds' k := by
  obtain ⟨l, hl, hhl⟩ := hk
  by_cases hli : l = i
  · exact ⟨j, by rw [← hl, hli, hc], ho.takes⟩
  · by_cases hlj : l = j
    · exact ⟨l, hl, hlj ▸ ho.takes⟩
    · exact ⟨l, hl, (ho.others l hli hlj).mpr hhl⟩

/-- The receiver of a hand-over was not holding when it is not the giver. -/
lemma Exclusive.not_holds_of_ne (h : Exclusive cls holds) {i j : ι} (hi : holds i)
    (hc : cls i = cls j) (hij : i ≠ j) : ¬ holds j :=
  fun hj => hij (h i j hi hj hc)

end Exclusion

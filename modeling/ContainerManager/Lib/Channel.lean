import Mathlib.Data.List.Nodup

/-!
# Requests answered over a channel

A writer still has answers `todo` to write, in this order; the answers in `queue` were written and
not yet read. `Answered` says that exactly the outstanding requests have an answer under way, and
each of them one. Writing and reading keep it, so when nothing is left to write or read every
request has been answered. The second part is about actions that concern one key each.
-/

namespace Channel

variable {κ : Type*} {outstanding : κ → Prop} {queue todo : List κ}

/-- The outstanding requests are those with an answer under way, and no request has two. -/
structure Answered (outstanding : κ → Prop) (queue todo : List κ) : Prop where
  nodup : (queue ++ todo).Nodup
  iff : ∀ k, outstanding k ↔ k ∈ queue ++ todo

lemma Answered.write {k : κ} (h : Answered outstanding queue (k :: todo)) :
    Answered outstanding (queue ++ [k]) todo := by
  have e : queue ++ [k] ++ todo = queue ++ k :: todo := List.append_cons queue k todo ▸ rfl
  exact ⟨e ▸ h.nodup, e ▸ h.iff⟩

lemma Answered.read {k : κ} (h : Answered outstanding (k :: queue) todo) :
    Answered (fun j => outstanding j ∧ j ≠ k) queue todo := by
  obtain ⟨hk, hnodup⟩ := List.nodup_cons.mp h.nodup
  refine ⟨hnodup, fun j => ?_⟩
  rw [h.iff j, List.cons_append, List.mem_cons]
  constructor
  · rintro ⟨hj | hj, hjk⟩
    · exact absurd hj hjk
    · exact hj
  · intro hj
    exact ⟨Or.inr hj, fun e => hk (e ▸ hj)⟩

lemma Answered.finished (h : Answered outstanding [] []) (k : κ) : ¬ outstanding k := by
  simp [h.iff]

/-! ### Actions by key -/

variable {α β : Type*} {key : α → κ} {f : α → List β} {concerns : κ → β → Bool}

/-- Among the actions for items with different keys, those that concern the key of an item are its
own. -/
lemma filter_flatMap (hf : ∀ a, ∀ b ∈ f a, ∀ k, concerns k b = true ↔ k = key a) {l : List α}
    (hl : (l.map key).Nodup) {a : α} (ha : a ∈ l) :
    (l.flatMap f).filter (concerns (key a)) = f a := by
  have own : (f a).filter (concerns (key a)) = f a :=
    List.filter_eq_self.mpr fun b hb => (hf a b hb _).mpr rfl
  have other : ∀ l' : List α, key a ∉ l'.map key →
      (l'.flatMap f).filter (concerns (key a)) = [] := by
    intro l' hl'
    refine List.filter_eq_nil_iff.mpr fun b hb hc => ?_
    obtain ⟨c, hc', hbc⟩ := List.mem_flatMap.mp hb
    exact hl' (List.mem_map.mpr ⟨c, hc', ((hf c b hbc _).mp hc).symm⟩)
  induction l with
  | nil => simp at ha
  | cons c l ih =>
    obtain ⟨hc, hl⟩ := List.nodup_cons.mp hl
    rw [List.flatMap_cons, List.filter_append]
    rcases List.mem_cons.mp ha with rfl | ha
    · rw [own, other l hc, List.append_nil]
    · have hne : key a ∉ [c].map key := by
        simp only [List.map_cons, List.map_nil, List.mem_singleton]
        exact fun e => hc (e ▸ List.mem_map_of_mem ha)
      have hnil := other [c] hne
      rw [List.flatMap_cons, List.flatMap_nil, List.append_nil] at hnil
      rw [hnil, List.nil_append, ih hl ha]

end Channel

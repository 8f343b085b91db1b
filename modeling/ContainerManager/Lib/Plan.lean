import Mathlib.Data.List.Infix
import Mathlib.Tactic.Common

/-!
# Plans

A procedure works through a plan and logs what it does. It stops when something fails, and then
returns a negative value; it has done a prefix of its plan. Otherwise it has done all of it.
-/

/-- From the first log to the second, a prefix of the plan was done, and all of it unless the
return value is negative. -/
structure FollowsPlan {ε : Type*} (plan before after : List ε) (ret : ℤ) : Prop where
  begun : ∃ done, done <+: plan ∧ after = before ++ done
  finished : 0 ≤ ret → after = before ++ plan

namespace FollowsPlan

variable {ε : Type*} {plan plan' before between after : List ε} {ret ret' : ℤ}

/-- There was nothing to do. -/
lemma nothing (log : List ε) (ret : ℤ) : FollowsPlan [] log log ret where
  begun := ⟨[], List.prefix_refl _, by simp⟩
  finished _ := by simp

/-- Nothing was done, and the procedure failed. -/
lemma stopped (plan log : List ε) (h : ret < 0) : FollowsPlan plan log log ret where
  begun := ⟨[], List.nil_prefix, by simp⟩
  finished h' := absurd h' (Int.not_le.mpr h)

/-- The plan was carried out. -/
lemma done (plan log : List ε) (ret : ℤ) : FollowsPlan plan log (log ++ plan) ret where
  begun := ⟨plan, List.prefix_refl _, rfl⟩
  finished _ := rfl

/-- Failing in another way is still failing. -/
lemma of_ret (h : FollowsPlan plan before after ret) (hret : 0 ≤ ret' → 0 ≤ ret) :
    FollowsPlan plan before after ret' where
  begun := h.begun
  finished h' := h.finished (hret h')

/-- A first procedure that fails leaves the rest of the plan undone. -/
lemma cut (h : FollowsPlan plan before after ret) (plan' : List ε) (hret : ret' < 0) :
    FollowsPlan (plan ++ plan') before after ret' where
  begun := by
    obtain ⟨done, hdone, hafter⟩ := h.begun
    exact ⟨done, hdone.trans (List.prefix_append _ _), hafter⟩
  finished h' := absurd h' (Int.not_le.mpr hret)

/-- One procedure after the other. -/
lemma append (h : FollowsPlan plan before between ret) (hret : 0 ≤ ret)
    (h' : FollowsPlan plan' between after ret') :
    FollowsPlan (plan ++ plan') before after ret' := by
  obtain rfl := h.finished hret
  constructor
  · obtain ⟨done, hdone, rfl⟩ := h'.begun
    refine ⟨plan ++ done, ?_, by rw [List.append_assoc]⟩
    rwa [List.prefix_append_right_inj]
  · intro hret'
    rw [h'.finished hret', List.append_assoc]

/-- Only whether it failed is passed on. -/
lemma recode {σ : Type*} (log : σ → List ε) {r : σ × ℤ} {k : ℤ}
    (h : FollowsPlan plan before (log r.1) r.2) (hk : k < 0) :
    FollowsPlan plan before (log (if r.2 < 0 then (r.1, k) else (r.1, 0)).1)
      (if r.2 < 0 then (r.1, k) else (r.1, 0)).2 := by
  split_ifs with hret
  · exact h.of_ret fun h0 => absurd h0 (Int.not_le.mpr hk)
  · exact h.of_ret fun _ => Int.not_lt.mp hret

/-- What was logged is in the plan. -/
lemma mem_plan (h : FollowsPlan plan before after ret) {e : ε} (he : e ∈ after) :
    e ∈ before ∨ e ∈ plan := by
  obtain ⟨done, hdone, rfl⟩ := h.begun
  exact (List.mem_append.mp he).imp_right fun hd => hdone.subset hd

end FollowsPlan

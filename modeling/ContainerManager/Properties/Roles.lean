import ContainerManager.Refinement.Boot

/-!
# Roles are exclusive

In every run at most one guest of a role is enabled, a role that was enabled keeps exactly one
enabled guest, and no guest is started while another guest of its role is enabled.
-/

namespace ContainerManager

open Containers Exclusion

variable {n : ℕ}

/-- A role that has an enabled guest keeps one. -/
lemma step_held {cs : Containers n} (h : RoleExclusion cs) (a : Action n) {role : String}
    (hr : Held cs.views.role cs.views.Enabled role) :
    Held (step cs a).views.role (step cs a).views.Enabled role :=
  (step_moves (R := False) h a False.elim).held hr

lemma run_held {cs : Containers n} (h : RoleExclusion cs) (as : List (Action n)) {role : String}
    (hr : Held cs.views.role cs.views.Enabled role) :
    Held (Transition.run step cs as).views.role (Transition.run step cs as).views.Enabled role := by
  have key := Transition.run_invariant
    (I := fun cs => RoleExclusion cs ∧ Held cs.views.role cs.views.Enabled role)
    (fun s a hs => ⟨step_roleExclusion hs.1 a, step_held hs.1 a hs.2⟩) ⟨h, hr⟩ as
  exact key.2

theorem reachable_role_exclusive {cs : Containers n} (h : Reachable cs) :
    (∀ i j, (cs.containers i).Enabled → (cs.containers j).Enabled →
      (cs.containers i).role = (cs.containers j).role → i = j) ∧
    (∀ role, (∃ i, (cs.containers i).role = role ∧ (cs.containers i).Enabled) →
      ∀ as, ∃! i, ((Transition.run step cs as).containers i).role = role ∧
        ((Transition.run step cs as).containers i).Enabled) ∧
    (∀ i status, LogEntry.containerStart i status ∈ cs.log →
      ∀ j, j ≠ i → (cs.containers j).role = (cs.containers i).role → status j = .disable) := by
  have hex := h.roleExclusion
  refine ⟨hex.exclusive, ?_, hex.starts⟩
  intro role hr as
  exact (h.run as).roleExclusion.exclusive.existsUnique (run_held hex as hr)

/-- Once the role of the two guests is started, one of them is enabled at any time. -/
theorem reachable_role_exclusive_ivi :
    (iviBooted.containers 0).Enabled ∧
      ∀ as, ∃! i, ((Transition.run step iviBooted as).containers i).role = "ivi" ∧
        ((Transition.run step iviBooted as).containers i).Enabled :=
  ⟨by decide, (reachable_role_exclusive iviBooted_reachable).2.1 "ivi" ⟨0, by decide⟩⟩

end ContainerManager

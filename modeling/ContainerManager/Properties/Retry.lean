import ContainerManager.Properties.Consistency

/-!
# Failed starts are retried

A guest whose last start failed is dead, or has a worker that restarts it, when every start at
`CONTAINER_NOT_STARTED` either mounts the mandatory disks or finds a recovery. Without one, the
guest stays not started and nothing starts it again.
-/

namespace ContainerManager

open Containers

variable {n : ℕ} {v w : GuestView}

/-- The last start of the guest failed, and neither a shutdown request nor a role switch away from
it came since. The history has its newest event first. -/
def retryOwed : List GuestEvent → Bool
  | [] => false
  | .start _ ret :: _ => ret < 0
  | .shutdownRequest _ _ _ _ :: _ => false
  | .disabled :: _ => false
  | _ :: history => retryOwed history

/-- A start of the guest is pending. -/
def GuestView.StartPending (v : GuestView) : Prop :=
  v.status = .dead ∨ v.worker.Pending ∧ v.after = 1

/-- A guest that is owed a start has one pending. A guest with an instance is owed none, and neither
is a disabled one: it is started when it is enabled. -/
structure GuestView.Retried (v : GuestView) : Prop where
  consistent : v.Consistent
  up : v.status.Up ∨ v.status = .disable → retryOwed v.history = false
  pending : v.sys = .run → v.status ≠ .disable → retryOwed v.history = true → v.StartPending

namespace GuestView

/-- Nothing that was owed is lost. -/
lemma Retried.of_pending (h : v.Retried) (hc : w.Consistent) (hs : w.sys = .run → v.sys = .run)
    (hst : ¬ w.status.Up) (hd : w.status = .disable ↔ v.status = .disable)
    (hh : retryOwed w.history = true → retryOwed v.history = true)
    (hp : v.StartPending → w.StartPending) : w.Retried where
  consistent := hc
  up hu := by
    have hv := h.up (Or.inr (hd.mp (hu.resolve_left hst)))
    by_contra hw
    rw [hh (by simpa using hw)] at hv
    simp at hv
  pending hr hne how := hp (h.pending (hs hr) (fun e => hne (hd.mpr e)) (hh how))

/-- Nothing is owed afterwards. -/
lemma Retried.of_not_owed (hc : w.Consistent) (hh : retryOwed w.history = false) : w.Retried :=
  ⟨hc, fun _ => hh, fun _ _ how => by simp [hh] at how⟩

/-- A guest with an instance is owed no start. -/
lemma Retried.of_up (h : v.Retried) (hc : w.Consistent) (hu : v.status.Up)
    (hh : retryOwed w.history = retryOwed v.history) : w.Retried :=
  .of_not_owed hc (hh.trans (h.up (Or.inl hu)))

end GuestView

lemma LifeMove.retried (hm : LifeMove True v w) (h : v.Retried) : w.Retried := by
  have hc := hm.consistent h.consistent
  have hdis := hm.status_disable
  cases hm with
  | idle => exact h
  | mountFailed hst base worker after hb hw hR =>
    refine ⟨hc, ?_, ?_⟩
    · intro hu
      rcases hu with hu | hu
      · exact absurd hu hst.not_up
      · rcases hst.2 with e | ⟨e, -⟩ <;> simp [e] at hu
    · intro hs hne _
      rcases hst.2 with e | ⟨e, -⟩
      · exact Or.inl e
      · exact Or.inr ⟨Or.inl (hR trivial e), hc.after (Or.inl (hR trivial e))⟩
  | launchFailed hst base hb =>
    exact ⟨hc, fun hu => by simp [ContainerStatus.Up] at hu, fun _ _ _ => Or.inl rfl⟩
  | launched hst base lxc hb hmm => exact .of_not_owed hc rfl
  | cleaned hs hst hw base hb hu =>
    refine h.of_pending hc id (by simp [hst, ContainerStatus.Up]) hdis id fun hp => ?_
    have hnw := h.consistent.not_working hs (by simp [hst])
    rcases hp with e | ⟨e | e | e, -⟩
    · simp [hst] at e
    · exact absurd e hw
    · exact absurd e hnw.1
    · exact absurd e hnw.2
  | workerStarted hs hst hw base hb hu thread =>
    refine h.of_pending hc id (by simp [ContainerStatus.Up]) hdis id fun _ => ?_
    exact Or.inr ⟨Or.inr (Or.inl rfl), h.consistent.after (Or.inl hw)⟩
  | workerRemoved hs hst hw base hb hu =>
    have ha := h.consistent.after (Or.inl hw)
    refine h.of_pending hc id (statusAfterExecute_not_up _) hdis id fun _ => Or.inl ?_
    simp [statusAfterExecute, ha]
  | workerCompleted ht =>
    have hw := h.consistent.thread ht
    refine ⟨hc, h.up, fun hs hne how => ?_⟩
    rcases h.pending hs hne how with e | ⟨-, e⟩
    · exact Or.inl e
    · exact Or.inr ⟨Or.inr (Or.inr rfl), e⟩
  | workerFinished hs hst hw =>
    have ha := h.consistent.after (Or.inr (Or.inr hw))
    refine h.of_pending hc id (statusAfterExecute_not_up _) hdis id fun _ => Or.inl ?_
    simp [statusAfterExecute, ha]
  | workerExited hs hst hw =>
    exact ⟨hc, fun hu => by simp [ContainerStatus.Up] at hu, fun hr => by simp [hs] at hr⟩
  | workerTimeout now hs hst ht =>
    exact ⟨hc, fun hu => by simp [ContainerStatus.Up] at hu, fun hr => by simp [hs] at hr⟩
  | killed now hs ho => exact h.of_up hc (Or.inr ho.1.symm) rfl
  | killedAtShutdown now hs ho => exact h.of_up hc (Or.inr ho.1.symm) rfl
  | exited =>
    by_cases hu : v.status.Up
    · exact h.of_up hc hu rfl
    · refine ⟨hc, ?_, ?_⟩
      · intro hw
        exact h.up (Or.inr (hdis.mp (hw.resolve_left (exitedStatus_not_up _ _))))
      · intro hs hne how
        have hrun : v.sys = .run := hs
        rcases h.pending hs (fun e => hne (hdis.mpr e)) how with e | e
        · exact Or.inl (by simp [hrun, e, exitedStatus])
        · exact Or.inr e
  | requestShutdown s hs w he ret => exact .of_not_owed hc rfl
  | requestReboot w he =>
    cases he with
    | idle hst =>
      refine ⟨hc, ?_, ?_⟩
      · intro hu
        rw [RequestKind.idleStatus_up _ _ hst] at hu
        exact h.up (hu.imp_right hdis.mp)
      · intro hs hne how
        have hrun : v.sys = .run := hs
        have hp := h.pending hs (fun e => hne (hdis.mpr e)) how
        simpa [GuestView.StartPending, RequestKind.idleStatus, hrun] using hp
    | failed hst => exact h.of_up hc (Or.inl hst) rfl
    | accepted now hst hl => exact h.of_up hc (Or.inl hst) rfl
    | worker now hst hs => exact ⟨hc, h.up, fun hr => by simp [hs] at hr⟩
  | scheduled hw =>
    exact ⟨hc, h.up, fun _ _ _ => Or.inr ⟨Or.inl rfl, rfl⟩⟩

lemma LifeStep.retried (hm : LifeStep True v w) (h : v.Retried) : w.Retried := by
  have hc := hm.consistent h.consistent
  cases hm with
  | move hm => exact hm.retried h
  | disable hs hst base hb hu => exact .of_not_owed hc rfl
  | enable hs hst => exact .of_not_owed hc (h.up (Or.inr hst))

lemma Fresh.retried {cc : ContainerConfig} (h : Fresh cc) : (cc.view .run).Retried :=
  .of_not_owed h.consistent (by simp [ContainerConfig.view, h.history, retryOwed])

/-! ### Runs -/

/-- In the run state, every active guest that is owed a start has one pending. -/
def RetriesPending (cs : Containers n) : Prop :=
  cs.sysState = .run → ∀ i, cs.Active i → (cs.containers i).Enabled →
    retryOwed (cs.containers i).history = true →
      (cs.containers i).runtimeStat.status = .dead ∨
        ((cs.containers i).workqueue.status = .scheduled ∨
          (cs.containers i).workqueue.status = .started ∨
          (cs.containers i).workqueue.status = .completed) ∧
        (cs.containers i).workqueue.stateAfterExecute = 1

theorem retries_pending_of_recovers {sys : ℕ → VisitSys} {notify : Bool} {cs₀ cs : Containers n}
    (h₀ : Initial cs₀) (hb : Booted sys notify cs₀ cs) (hR : BootRecovers sys cs₀)
    {as : List (Action n)} (has : Transition.Guarded step StepRecovers cs as) :
    RetriesPending (Transition.run step cs as) := by
  intro hs i _ hen how
  have hr := run_guest_invariant (fun _ => Fresh.retried) (fun _ _ hm => hm.retried) h₀ hb hR has i
  exact hr.pending hs hen how

/-- The start of the guest whose disk is checked recovers. -/
lemma clusterGuest_recovers :
    StartRecovers visitDiskFails.start (enableGuest (clusterGuest 0)) := by
  intro tried hstop
  have hroot : ¬ RootfsFails visitDiskFails.start.mount (clusterGuest 0).baseconfig := by
    simp only [RootfsFails]
    decide
  have hfail : fsckDisk.Fails 0 (visitDiskFails.start.mount.extradisk 0) := by
    simp only [ExtraDisk.Fails]
    decide
  obtain ⟨k, -, rfl⟩ : ∃ k, _ ∧ tried = k + 1 := (hstop.resolve_left fun h => hroot h.1).2
  refine Or.inr ⟨rfl, 0, ⟨fsckDisk, rfl, ?_, rfl⟩, ⟨rfl, rfl⟩, ?_⟩
  · rw [LeftFailedAt, if_pos (Nat.succ_pos k)]
    exact hfail
  · intro j hj d hd _
    obtain rfl : j = 0 := by omega
    obtain rfl : fsckDisk = d := Option.some.inj hd
    decide

/-- A single guest is never switched. -/
lemma stepRecovers_of_single (cs : Containers 1) (a : Action 1) : StepRecovers cs a :=
  fun _ _ _ _ i j _ _ hij => absurd (Subsingleton.elim i j) hij

theorem retries_pending_of_recovers_cluster :
    RetriesPending (Transition.run step clusterBooted [.message .timerTick (messageOk 0)]) := by
  have h₀ : Initial (setupManager clusterGuest []) :=
    setupManager_initial clusterGuest_fresh ⟨by simp, by simp, rfl, rfl⟩
  have hb : Booted (fun _ => visitDiskFails) true (setupManager clusterGuest []) clusterBooted :=
    .started
  have hR : BootRecovers (fun _ => visitDiskFails) (setupManager clusterGuest []) :=
    fun _ _ _ _ => clusterGuest_recovers
  exact retries_pending_of_recovers h₀ hb hR ⟨stepRecovers_of_single _ _, trivial⟩

/-- A visit whose start cannot mount the root file system. -/
def visitRootfsFails : VisitSys :=
  { visitOk with start := { startOk with mount := ⟨⟨.error, .ok, .ok⟩, fun _ _ => mountOk⟩ } }

/-- The guest after a start that could not mount its root file system, and two cyclic events. -/
def clusterUnrooted : Containers 1 :=
  Transition.run step
    (containerMngsmStart (fun _ => visitRootfsFails) true (setupManager clusterGuest []))
    [.message .timerTick (messageOk 0), .message .timerTick (messageOk 200)]

/-- Its start is never retried, though every later call would succeed. -/
theorem clusterUnrooted_not_retried :
    Reachable clusterUnrooted ∧ ¬ RetriesPending clusterUnrooted := by
  refine ⟨(setupManager_reachable clusterGuest_fresh ⟨by simp, by simp, rfl, rfl⟩ _ _).run _, ?_⟩
  intro h
  have hp := h (by decide) 0 (by unfold Active; decide) (by decide) (by decide)
  revert hp
  decide

end ContainerManager

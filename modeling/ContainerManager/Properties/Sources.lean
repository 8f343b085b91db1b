import ContainerManager.Properties.Incarnation

/-!
# No orphaned pidfd source

A guest points to the event source that watches it. A relaunch that adds a source while the old one
is still registered overwrites the pointer, and nobody disarms the old source any more.
-/

namespace ContainerManager

open Containers

variable {n : ℕ} {cs cs' : Containers n}

/-- Each guest has at most one registered source and points to it, and its handler disarms it once
the report was sent. -/
structure NoOrphan (cs : Containers n) : Prop where
  atMostOne : ∀ i, (cs.event.sources.filter fun s => s.guest = i).length ≤ 1
  pointed : ∀ s ∈ cs.event.sources, (cs.containers s.guest).runtimeStat.pidfdSource = some s.id
  disarmed : ∀ s ∈ cs.event.sources, ∀ s' ∈ (step cs (.pidfd s.id true)).event.sources,
    s'.id ≠ s.id

/-- A guest points to a source exactly when it is registered for it. -/
structure Registered (cs : Containers n) : Prop where
  nodup : (cs.event.sources.map PidfdSource.id).Nodup
  bound : ∀ s ∈ cs.event.sources, s.id < cs.event.nextId
  owned : ∀ s ∈ cs.event.sources, (cs.containers s.guest).runtimeStat.pidfdSource = some s.id
  pointers : ∀ i id, (cs.containers i).runtimeStat.pidfdSource = some id →
    ∃ s ∈ cs.event.sources, s.guest = i ∧ s.id = id

namespace Registered

lemma keep (h : Registered cs)
    (hp : ∀ i, (cs'.containers i).runtimeStat.pidfdSource =
      (cs.containers i).runtimeStat.pidfdSource) (he : cs'.event = cs.event) : Registered cs' := by
  refine ⟨he ▸ h.nodup, he ▸ h.bound, ?_, ?_⟩
  · intro s hs
    rw [hp]
    exact h.owned s (he ▸ hs)
  · intro i id hi
    rw [he]
    exact h.pointers i id (hp i ▸ hi)

lemma guestsOnly (h : Registered cs) (hg : GuestsOnly cs cs') : Registered cs' :=
  h.keep (fun i => (hg.guests i).pidfdSource) hg.event

/-- A source is told by its number. -/
lemma eq_of_id (h : Registered cs) {s s' : PidfdSource n} (hs : s ∈ cs.event.sources)
    (hs' : s' ∈ cs.event.sources) (hid : s.id = s'.id) : s = s' :=
  List.inj_on_of_nodup_map h.nodup hs hs' hid

/-! ### Exits -/

/-- A guest that reports its exit is rid of its source. -/
lemma exitReported (h : Registered cs) {source : PidfdSource n} {i : Fin n}
    (hi : (cs.containers i).runtimeStat.pidfdSource = some source.id) :
    Registered (exitReported source cs i) := by
  obtain ⟨s₀, hs₀, rfl, hid⟩ := h.pointers _ _ hi
  have hother : ∀ s ∈ cs.event.sources, s.id ≠ source.id → s.guest ≠ s₀.guest := by
    intro s hs hne hg
    have howned := h.owned s hs
    rw [hg, hi] at howned
    exact hne (Option.some.inj howned).symm
  constructor
  · exact h.nodup.sublist (List.Sublist.map _ List.filter_sublist)
  · exact fun s hs => h.bound s (List.mem_of_mem_filter hs)
  · intro s hs
    obtain ⟨hs, hne⟩ := List.mem_filter.mp hs
    have hg := hother s hs (by simpa using hne)
    simpa [ContainerManager.exitReported, hg] using h.owned s hs
  · intro j id hj
    have hji : j ≠ s₀.guest := by
      rintro rfl
      simp [ContainerManager.exitReported] at hj
    obtain ⟨s, hs, rfl, rfl⟩ :=
      h.pointers j id (by simpa [ContainerManager.exitReported, hji] using hj)
    refine ⟨s, List.mem_filter.mpr ⟨hs, ?_⟩, rfl, rfl⟩
    rw [decide_eq_true_eq]
    intro hne
    exact hji (congrArg PidfdSource.guest (h.eq_of_id hs hs₀ (hne.trans hid.symm)))

/-- The handler of a source keeps the registrations, and disarms the source. -/
lemma handler (h : Registered cs) (source : PidfdSource n) (sent : Bool) :
    Registered (containerMonitorPidfdHandler sent source cs) ∧
      (sent = true → ∀ s ∈ (containerMonitorPidfdHandler sent source cs).event.sources,
        s.id ≠ source.id) := by
  have key : Registered (containerMonitorPidfdHandler sent source cs) ∧ (sent = true →
      ∀ s ∈ (containerMonitorPidfdHandler sent source cs).event.sources, s.id = source.id →
        s.guest ∈ ([] : List (Fin n))) := by
    refine Loop.foldl_invariant_rest (I := fun rest cs => Registered cs ∧ (sent = true →
      ∀ s ∈ cs.event.sources, s.id = source.id → s.guest ∈ rest)) (fun cs i rest hI => ?_)
      ⟨h, fun _ s _ _ => List.mem_finRange _⟩
    obtain ⟨hr, hrest⟩ := hI
    dsimp only
    split_ifs with hi hsent
    · exact ⟨hr.exitReported hi, fun _ s hs hid => by simp [hid] at hs⟩
    · exact ⟨hr, fun hs => absurd hs hsent⟩
    · refine ⟨hr, fun hsent s hs hid => ?_⟩
      rcases List.mem_cons.mp (hrest hsent s hs hid) with hg | hg
      · exact absurd (hg ▸ hid ▸ hr.owned s hs) hi
      · exact hg
  exact ⟨key.1, fun hsent s hs hid => by simpa using key.2 hsent s hs hid⟩

lemma noOrphan (h : Registered cs) : NoOrphan cs where
  atMostOne i := by
    have hn : ((cs.event.sources.filter fun s => s.guest = i).map PidfdSource.id).Nodup :=
      h.nodup.sublist (List.Sublist.map _ List.filter_sublist)
    have hown : ∀ s ∈ cs.event.sources.filter fun s => s.guest = i,
        (cs.containers i).runtimeStat.pidfdSource = some s.id := by
      intro s hs
      obtain ⟨hmem, hg⟩ := List.mem_filter.mp hs
      rw [← h.owned s hmem, of_decide_eq_true hg]
    -- two sources of the guest would both be the one it points to
    generalize cs.event.sources.filter (fun s => s.guest = i) = l at hn hown ⊢
    rcases l with _ | ⟨a, _ | ⟨b, l⟩⟩
    · simp
    · simp
    · have ha := hown a List.mem_cons_self
      have hb := hown b (List.mem_cons_of_mem _ List.mem_cons_self)
      rw [ha] at hb
      simp [Option.some.inj hb] at hn
  pointed := h.owned
  disarmed s hs := by
    obtain ⟨s', hs'⟩ : ∃ s', cs.event.sources.find? (fun s' => s'.id = s.id) = some s' := by
      rw [← Option.isSome_iff_exists, List.find?_isSome]
      exact ⟨s, hs, by simp⟩
    have hid : s'.id = s.id := by simpa using List.find?_some hs'
    rw [step, hs', ← hid]
    exact (h.handler s' true).2 rfl

/-! ### Starts -/

/-- A guest that gets a source has none. -/
lemma addguest {i : Fin n} (h : Registered cs) {lxc : LxcContainer} {sys : MonitorSys}
    (hlxc : (cs.containers i).runtimeStat.lxc = some lxc) (ha : sys.Adds)
    (hnone : (cs.containers i).runtimeStat.pidfdSource = none) :
    Registered (containerMonitorAddguest sys cs i).1 := by
  have e : (containerMonitorAddguest sys cs i).1 =
      { cs.setGuest i { cs.containers i with
          runtimeStat := { (cs.containers i).runtimeStat with
            pidfdSource := some cs.event.nextId } } with
        event := ⟨cs.event.nextId + 1,
          ⟨cs.event.nextId, i, lxc.incarnation⟩ :: cs.event.sources⟩ } := by
    simp [containerMonitorAddguest, hlxc, not_lt.mpr ha.1, not_lt.mpr ha.2]
  have hother : ∀ s ∈ cs.event.sources, s.guest ≠ i := by
    rintro s hs rfl
    simp [h.owned s hs] at hnone
  rw [e]
  constructor
  · refine List.nodup_cons.mpr ⟨fun hm => ?_, h.nodup⟩
    obtain ⟨s, hs, hid⟩ := List.mem_map.mp hm
    exact absurd (h.bound s hs) (by simp [hid])
  · intro s hs
    rcases List.mem_cons.mp hs with rfl | hs
    · exact Nat.lt_succ_self _
    · exact (h.bound s hs).trans (Nat.lt_succ_self _)
  · intro s hs
    rcases List.mem_cons.mp hs with rfl | hs
    · simp
    · simpa [hother s hs] using h.owned s hs
  · intro j id hj
    by_cases hji : j = i
    · subst hji
      have hid : cs.event.nextId = id := by simpa using hj
      exact ⟨_, List.mem_cons_self, rfl, hid⟩
    · obtain ⟨s, hs, hg, hid⟩ := h.pointers j id (by simpa [hji] using hj)
      exact ⟨s, List.mem_cons_of_mem _ hs, hg, hid⟩

end Registered

/-- When the start of a guest succeeds, a source is added for it only if its old one is gone. -/
def StartUnregistered (sys : VisitSys) (cs : Containers n) (i : Fin n) : Prop :=
  (cs.callStart sys.start i).2 = 0 → sys.monitor.Adds →
    (cs.containers i).runtimeStat.pidfdSource = none

lemma Registered.startGuest (h : Registered cs) {sys : VisitSys} {i : Fin n}
    (hs : StartUnregistered sys cs i) : Registered (startGuest sys cs i).1 := by
  have hcall : Registered (cs.callStart sys.start i).1 := by
    refine h.keep (fun j => ?_) rfl
    by_cases hj : j = i
    · subst hj
      rw [Containers.callStart, setGuest_self, containerStart_pidfdSource]
    · rw [Containers.callStart, setGuest_of_ne _ hj]
      rfl
  simp only [ContainerManager.startGuest]
  split_ifs with h0
  · by_cases ha : sys.monitor.Adds
    · have hlxc : ((cs.callStart sys.start i).1.containers i).runtimeStat.lxc =
          some ⟨(cs.containers i).launches + 1⟩ := by
        rw [Containers.callStart, setGuest_self]
        exact containerStart_lxc _ _ h0
      apply hcall.addguest hlxc ha
      rw [Containers.callStart, setGuest_self, containerStart_pidfdSource]
      exact hs h0 ha
    · rwa [containerMonitorAddguest_of_not_adds ha]
  · exact hcall

lemma registered_framed : Framed StartUnregistered (Registered (n := n)) where
  guestsOnly _ _ hg h := h.guestsOnly hg
  others _ _ h hc he := h.keep (fun _ => hc ▸ rfl) he
  start _ _ _ hs h := h.startGuest hs
  handler sent source _ h := (h.handler source sent).1

/-! ### Runs -/

lemma Initial.registered (h : Initial cs) : Registered cs :=
  ⟨by simp [h.event], by simp [h.event], by simp [h.event], by simp [(h.guests _).pidfdSource]⟩

/-- No guest has two registered sources in any state of a run in which no source is added for a
guest whose old one is still there. -/
theorem no_orphan {cs₀ : Containers n} (h₀ : Initial cs₀) {sys : ℕ → VisitSys} {notify : Bool}
    (hb : Booted sys notify cs₀ cs) {as : List (Action n)}
    (hs : Transition.Guarded step (StepStarts StartUnregistered) cs as) :
    NoOrphan (Transition.run step cs as) := by
  have hcs : Registered cs := by
    refine registered_framed.booted h₀ (fun sys s i e _ _ => ?_) h₀.registered hb
    rw [e]
    exact (h₀.guests i).pidfdSource
  have hrun : Registered (Transition.run step cs as) :=
    Transition.run_invariant_of_guarded (G := StepStarts StartUnregistered)
      (fun _ _ hg h => registered_framed.step h hg) hcs hs
  exact hrun.noOrphan

/-- The guest exits, and is started again when its exit is handled. -/
def restart : List (Action 1) :=
  [.receive (messageOk 50), .pidfd 0 true, .receive (messageOk 51)]

theorem no_orphan_restart : NoOrphan (Transition.run step clusterStarted restart) := by
  refine no_orphan setup_clusterGuest_initial .started ⟨?_, ?_, ?_, trivial⟩
  · intro sys cs' hc _
    obtain ⟨-, rfl⟩ := Prod.mk.inj (Option.some.inj hc)
    refine ⟨?_, trivial⟩
    intro j s hv
    -- the guest is started already
    have hnone : none = some (j, s) := hv
    simp at hnone
  · intro sys cs' hc
    simp [cyclicEvent] at hc
  · intro sys cs' hc _
    obtain ⟨rfl, rfl⟩ := Prod.mk.inj (Option.some.inj hc)
    refine ⟨?_, trivial⟩
    intro j s hv _ _
    obtain ⟨rfl, rfl⟩ := Prod.mk.inj (Option.some.inj hv)
    rfl

/-- The relaunch overwrites the source of the killed incarnation, which stays armed. -/
theorem relaunch_orphans :
    Initial (setupManager clusterGuest []) ∧
      Booted (fun _ => visitOk) true (setupManager clusterGuest []) clusterStarted ∧
      ¬ NoOrphan (Transition.run step clusterStarted (relaunch ⟨0, 0⟩ [])) := by
  refine ⟨setup_clusterGuest_initial, .started, ?_⟩
  intro h
  exact absurd (h.atMostOne 0) (by decide)

end ContainerManager

import ContainerManager.Refinement.Frame

/-!
# Exits of the right incarnation

An exit report carries the number of its guest only. It still concerns the incarnation that exited
when every relaunch replaces the event source of the guest: then no guest points to the source of an
older incarnation, and no relaunch comes between a report and its handling.
-/

namespace ContainerManager

open Containers

variable {n : ℕ}

/-! ### Sources and reports -/

/-- A guest that points to a source runs the incarnation that the source watches, or an older
one. -/
structure Monitored (cs : Containers n) : Prop where
  sources : ∀ s ∈ cs.event.sources, s.id < cs.event.nextId
  pointers : ∀ i id, (cs.containers i).runtimeStat.pidfdSource = some id → id < cs.event.nextId
  owner : ∀ i j id, (cs.containers i).runtimeStat.pidfdSource = some id →
    (cs.containers j).runtimeStat.pidfdSource = some id → i = j
  incarnation : ∀ i, ∀ s ∈ cs.event.sources,
    (cs.containers i).runtimeStat.pidfdSource = some s.id →
      ∀ lxc, (cs.containers i).runtimeStat.lxc = some lxc → lxc.incarnation ≤ s.incarnation

/-- Only the oldest packet of the internal socket can be a guest exit, and the guest does not run a
later incarnation than the one that exited. -/
structure ReportFirst (cs : Containers n) : Prop where
  tail : ∀ k incarnation, .guestExit k incarnation ∉ cs.comm.tail
  head : ∀ (i : Fin n) incarnation, cs.comm.head? = some (.guestExit i incarnation) →
    ∀ lxc, (cs.containers i).runtimeStat.lxc = some lxc → lxc.incarnation ≤ incarnation

variable {cs cs' : Containers n}

lemma Monitored.keep (h : Monitored cs)
    (hg : ∀ i, KeepsInstance (cs.containers i) (cs'.containers i))
    (he : cs'.event = cs.event) : Monitored cs' where
  sources := by
    rw [he]
    exact h.sources
  pointers i id hi := by
    rw [he]
    exact h.pointers i id ((hg i).pidfdSource ▸ hi)
  owner i j id hi hj := h.owner i j id ((hg i).pidfdSource ▸ hi) ((hg j).pidfdSource ▸ hj)
  incarnation i s hs hi lxc hl := by
    rw [he] at hs
    exact h.incarnation i s hs ((hg i).pidfdSource ▸ hi) lxc ((hg i).some_of_some hl)

lemma GuestsOnly.monitored (hg : GuestsOnly cs cs') (h : Monitored cs) : Monitored cs' :=
  h.keep hg.guests hg.event

lemma ReportFirst.keep (h : ReportFirst cs)
    (hg : ∀ i, KeepsInstance (cs.containers i) (cs'.containers i))
    (hc : cs'.comm = cs.comm) : ReportFirst cs' where
  tail := by
    rw [hc]
    exact h.tail
  head i incarnation hi lxc hl := by
    rw [hc] at hi
    exact h.head i incarnation hi lxc ((hg i).some_of_some hl)

/-- The packet is not a guest exit. -/
def Message.NotExit (m : Message) : Prop := ∀ k incarnation, m ≠ .guestExit k incarnation

/-- Without a guest exit in the socket there is nothing to check. -/
lemma ReportFirst.of_notExit (h : ∀ m ∈ cs.comm, m.NotExit) : ReportFirst cs where
  tail k incarnation hm := h _ (List.mem_of_mem_tail hm) k incarnation rfl
  head i incarnation hi := absurd rfl (h _ (List.mem_of_mem_head? hi) i incarnation)

lemma ReportFirst.send (h : ReportFirst cs) {m : Message} (hm : m.NotExit) (sent : Bool) :
    ReportFirst (cs.send m sent) := by
  have hcomm : (cs.send m sent).comm = cs.comm ∨ (cs.send m sent).comm = cs.comm ++ [m] := by
    cases sent <;> simp [Containers.send]
  have hcont := send_containers cs m sent
  generalize cs.send m sent = cs' at hcomm hcont ⊢
  rcases hcomm with e | e
  · exact h.keep (fun i => hcont ▸ .refl _) e
  · cases hc : cs.comm with
    | nil =>
      refine .of_notExit fun m' hm' => ?_
      rw [e, hc, List.nil_append, List.mem_singleton] at hm'
      rw [hm']
      exact hm
    | cons m₀ rest =>
      rw [hc] at e
      constructor
      · intro k incarnation hk
        rw [e, List.cons_append, List.tail_cons, List.mem_append, List.mem_singleton] at hk
        rcases hk with hk | hk
        · exact h.tail k incarnation (by rwa [hc])
        · exact hm k incarnation hk.symm
      · intro i incarnation hi lxc hl
        rw [e] at hi
        rw [hcont] at hl
        exact h.head i incarnation (by rwa [hc]) lxc hl

/-! ### Starts -/

/-- Both calls of `container_monitor_addguest` succeed. -/
def MonitorSys.Adds (sys : MonitorSys) : Prop := 0 ≤ sys.initPidfd ∧ 0 ≤ sys.addIo

/-- A started guest that is monitored runs the incarnation its new source watches. -/
lemma Monitored.addguest {sys : MonitorSys} {i : Fin n} (h : Monitored cs') (ha : sys.Adds)
    (hg : ∀ j, j ≠ i → cs.containers j = cs'.containers j) (he : cs.event = cs'.event)
    (hl : (cs.containers i).runtimeStat.lxc ≠ none) :
    Monitored (containerMonitorAddguest sys cs i).1 := by
  obtain ⟨lxc, hlxc⟩ := Option.ne_none_iff_exists'.mp hl
  obtain ⟨hpid, hio⟩ := ha
  have hcont : ∀ j, j ≠ i → (containerMonitorAddguest sys cs i).1.containers j =
      cs'.containers j := by
    intro j hj
    obtain ⟨source, event, e⟩ := containerMonitorAddguest_frame sys cs i
    rw [e, ← hg j hj]
    exact setGuest_of_ne cs hj _
  have hself : ((containerMonitorAddguest sys cs i).1.containers i).runtimeStat =
      { (cs.containers i).runtimeStat with pidfdSource := some cs'.event.nextId } := by
    simp [containerMonitorAddguest, hlxc, not_lt.mpr hpid, not_lt.mpr hio, he]
  have hevent : (containerMonitorAddguest sys cs i).1.event =
      ⟨cs'.event.nextId + 1, ⟨cs'.event.nextId, i, lxc.incarnation⟩ :: cs'.event.sources⟩ := by
    simp [containerMonitorAddguest, hlxc, not_lt.mpr hpid, not_lt.mpr hio, he]
  generalize (containerMonitorAddguest sys cs i).1 = s at hcont hself hevent ⊢
  -- a pointer is the new one of `i`, or an old one below the next number
  have hpointer : ∀ j id, (s.containers j).runtimeStat.pidfdSource = some id →
      j = i ∧ id = cs'.event.nextId ∨
        j ≠ i ∧ (cs'.containers j).runtimeStat.pidfdSource = some id := by
    intro j id hj
    by_cases hji : j = i
    · subst hji
      rw [hself] at hj
      exact Or.inl ⟨rfl, (Option.some.inj hj).symm⟩
    · rw [hcont j hji] at hj
      exact Or.inr ⟨hji, hj⟩
  constructor
  · intro s' hs'
    rw [hevent] at hs' ⊢
    rcases List.mem_cons.mp hs' with rfl | hs'
    · exact Nat.lt_succ_self _
    · exact (h.sources s' hs').trans (Nat.lt_succ_self _)
  · intro j id hj
    rw [hevent]
    rcases hpointer j id hj with ⟨-, rfl⟩ | ⟨-, hj⟩
    · exact Nat.lt_succ_self _
    · exact (h.pointers j id hj).trans (Nat.lt_succ_self _)
  · intro j k id hj hk
    rcases hpointer j id hj with ⟨rfl, rfl⟩ | ⟨-, hj⟩ <;>
      rcases hpointer k _ hk with ⟨rfl, e⟩ | ⟨-, hk⟩
    · rfl
    · exact absurd (h.pointers k _ hk) (lt_irrefl _)
    · exact absurd (e ▸ h.pointers j _ hj) (lt_irrefl _)
    · exact h.owner j k id hj hk
  · intro j s' hs' hj lxc' hl'
    rw [hevent] at hs'
    rcases hpointer j s'.id hj with ⟨rfl, e⟩ | ⟨hji, hj⟩
    · rcases List.mem_cons.mp hs' with rfl | hs'
      · rw [hself] at hl'
        exact (congrArg LxcContainer.incarnation
          (Option.some.inj (hl'.symm.trans hlxc))).le
      · exact absurd (e ▸ h.sources s' hs') (lt_irrefl _)
    · rw [hcont j hji] at hl'
      rcases List.mem_cons.mp hs' with rfl | hs'
      · exact absurd (h.pointers j _ hj) (lt_irrefl _)
      · exact h.incarnation j s' hs' hj lxc' hl'

/-- A failed monitor changes nothing. -/
lemma containerMonitorAddguest_of_not_adds {sys : MonitorSys} (h : ¬ sys.Adds) (cs : Containers n)
    (i : Fin n) : (containerMonitorAddguest sys cs i).1 = cs := by
  simp only [containerMonitorAddguest]
  split
  · rfl
  · split_ifs with hpid hio
    · rfl
    · rfl
    · exact absurd ⟨not_lt.mp hpid, not_lt.mp hio⟩ h

/-- When a start of the guest succeeds, its old source is replaced. -/
def StartMonitored (sys : VisitSys) (cs : Containers n) (i : Fin n) : Prop :=
  (cs.callStart sys.start i).2 = 0 →
    (cs.containers i).runtimeStat.pidfdSource ≠ none → sys.monitor.Adds

lemma Monitored.startGuest (h : Monitored cs) {sys : VisitSys} {i : Fin n}
    (hm : StartMonitored sys cs i) : Monitored (startGuest sys cs i).1 := by
  have hcall : ∀ j, j ≠ i → (cs.callStart sys.start i).1.containers j = cs.containers j :=
    fun j hj => setGuest_of_ne _ hj _
  have hself : (cs.callStart sys.start i).1.containers i =
      (containerStart sys.start (cs.containers i)).1 := setGuest_self _ _ _
  have keep : (∀ j, KeepsInstance (cs.containers j) ((cs.callStart sys.start i).1.containers j)) →
      Monitored (cs.callStart sys.start i).1 := fun hk => h.keep hk rfl
  simp only [ContainerManager.startGuest]
  split_ifs with h0
  · by_cases ha : sys.monitor.Adds
    · apply h.addguest ha hcall rfl
      rw [hself, containerStart_lxc _ _ h0]
      simp
    · have hnone : (cs.containers i).runtimeStat.pidfdSource = none := by
        by_contra hsome
        exact ha (hm h0 hsome)
      rw [containerMonitorAddguest_of_not_adds ha]
      -- without a source it does not matter which incarnation the guest runs
      have hp : ((cs.callStart sys.start i).1.containers i).runtimeStat.pidfdSource = none := by
        rw [hself, containerStart_pidfdSource, hnone]
      have hpointer : ∀ j id,
          ((cs.callStart sys.start i).1.containers j).runtimeStat.pidfdSource = some id →
            j ≠ i := by
        rintro j id hj rfl
        simp [hp] at hj
      refine ⟨h.sources, ?_, ?_, ?_⟩
      · intro j id hj
        rw [hcall j (hpointer j id hj)] at hj
        exact h.pointers j id hj
      · intro j k id hj hk
        rw [hcall j (hpointer j id hj)] at hj
        rw [hcall k (hpointer k id hk)] at hk
        exact h.owner j k id hj hk
      · intro j s hs hj
        have hji := hpointer j s.id hj
        rw [hcall j hji] at hj ⊢
        exact h.incarnation j s hs hj
  · refine keep fun j => ?_
    by_cases hj : j = i
    · subst hj
      rw [hself]
      exact containerStart_keeps _ _ h0
    · rw [hcall j hj]
      exact .refl _

lemma Monitored.startAndNotify (h : Monitored cs) {sys : VisitSys} {i : Fin n}
    (hm : StartMonitored sys cs i) : Monitored (startAndNotify sys cs i) := by
  obtain ⟨comm, e⟩ := startAndNotify_frame sys cs i
  rw [e]
  exact (h.startGuest hm).keep (fun _ => .refl _) rfl

/-! ### The cyclic event -/

/-- A visit that starts a guest again replaces its source. -/
def VisitMonitored (visit : Fin n → VisitSys) (cs : Containers n) (i : Fin n) : Prop :=
  ∀ j cs', visitStart (visit i) cs i = some (j, cs') → StartMonitored (visit i) cs' j

/-- Starts only add update notifications to the internal socket. -/
lemma startAndNotify_comm (sys : VisitSys) (cs : Containers n) (i : Fin n) :
    ∀ m ∈ (startAndNotify sys cs i).comm, m ∈ cs.comm ∨ m = .netifUpdated := by
  intro m hm
  obtain ⟨containers, event, e⟩ := startGuest_frame sys cs i
  simp only [startAndNotify] at hm
  rw [e] at hm
  split_ifs at hm
  · simp only [Containers.send] at hm
    split_ifs at hm
    · simpa using hm
    · exact Or.inl hm
  · exact Or.inl hm

/-- No packet of the internal socket is a guest exit, and the sources are replaced. -/
structure Quiet (cs : Containers n) : Prop where
  monitored : Monitored cs
  notExit : ∀ m ∈ cs.comm, m.NotExit

lemma GuestsOnly.quiet (hg : GuestsOnly cs cs') (h : Quiet cs) : Quiet cs' :=
  ⟨hg.monitored h.monitored, by rw [hg.comm]; exact h.notExit⟩

lemma Quiet.visit (h : Quiet cs) {visit : Fin n → VisitSys} {i : Fin n}
    (hm : VisitMonitored visit cs i) : Quiet (execRunVisit (visit i) cs i) := by
  rcases execRunVisit_cases (visit i) cs i with hg | ⟨j, cs', hst, hg, e⟩
  · exact hg.quiet h
  · have hq := hg.quiet h
    rw [e]
    refine ⟨hq.monitored.startAndNotify (hm j cs' hst), fun m hmem => ?_⟩
    rcases startAndNotify_comm (visit i) cs' j m hmem with hmem | rfl
    · exact hq.notExit m hmem
    · simp [Message.NotExit]

/-- Every visit of the cyclic event that starts a guest again replaces its source. -/
def VisitsMonitored (visit : Fin n → VisitSys) (cs : Containers n) : Prop :=
  Transition.Guarded (fun cs i => execRunVisit (visit i) cs i) (VisitMonitored visit) cs
    (List.finRange n)

lemma Quiet.visits (h : Quiet cs) {visit : Fin n → VisitSys} (hm : VisitsMonitored visit cs) :
    Quiet (execRunVisits visit cs) :=
  Transition.run_invariant_of_guarded (I := Quiet) (fun _ _ hv hq => hq.visit hv) h hm

lemma Quiet.operation (h : Quiet cs) (hc : cs'.containers = cs.containers)
    (hm : cs'.comm = cs.comm) (he : cs'.event = cs.event) : Quiet cs' where
  monitored := h.monitored.keep (fun i => hc ▸ .refl _) he
  notExit := by
    rw [hm]
    exact h.notExit

/-- In the run state, the visits of the cyclic event replace the sources. -/
def ExecMonitored (sys : ExecSys n) (cs : Containers n) : Prop :=
  cs.sysState = .run → VisitsMonitored sys.visit cs

lemma Quiet.exec (h : Quiet cs) {sys : ExecSys n} (hm : ExecMonitored sys cs) :
    Quiet (containerExecInternalEvent sys cs) := by
  simp only [containerExecInternalEvent]
  split
  · rename_i hs
    obtain ⟨cs', hg, e⟩ := execInternalEventRun_guestsOnly sys cs
    rw [e]
    exact (hg.quiet (h.visits (hm hs))).operation rfl rfl rfl
  · obtain ⟨cs', hg, e⟩ := execInternalEventShutdown_guestsOnly sys cs
    rw [e]
    split_ifs
    · obtain ⟨hc, hm, he⟩ := execTerminateOperation_outside sys.dispatch sys.read cs'
      exact (hg.quiet h).operation hc hm he
    · exact hg.quiet h

/-! ### Exit reports -/

/-- The state after the guest reported the exit that its source saw. -/
def exitReported (source : PidfdSource n) (cs : Containers n) (i : Fin n) : Containers n :=
  { (cs.send (.guestExit i source.incarnation) true).setGuest i { cs.containers i with
      runtimeStat := { (cs.containers i).runtimeStat with pidfdSource := none } } with
    event := { cs.event with sources := cs.event.sources.filter fun s => s.id ≠ source.id } }

/-- At most one guest reports an exit. -/
lemma containerMonitorPidfdHandler_cases (sent : Bool) (source : PidfdSource n)
    (h : Monitored cs) :
    containerMonitorPidfdHandler sent source cs = cs ∨
      ∃ i, (cs.containers i).runtimeStat.pidfdSource = some source.id ∧
        containerMonitorPidfdHandler sent source cs = exitReported source cs i := by
  refine Loop.forEach_invariant (I := fun s : Containers n => s = cs ∨
    ∃ i, (cs.containers i).runtimeStat.pidfdSource = some source.id ∧
      s = exitReported source cs i) (fun s j hs => ?_) (Or.inl rfl)
  dsimp only
  split_ifs with hj hsent
  · rcases hs with rfl | ⟨i, hi, rfl⟩
    · exact Or.inr ⟨j, hj, rfl⟩
    · -- the guest that reported points to no source, and no other one pointed to this
      have hji : j ≠ i := by
        rintro rfl
        simp [exitReported] at hj
      have hj' : (cs.containers j).runtimeStat.pidfdSource = some source.id := by
        simpa [exitReported, hji] using hj
      exact absurd (h.owner j i _ hj' hi) hji
  · exact hs
  · exact hs

lemma Monitored.exitReported (h : Monitored cs) (source : PidfdSource n) (i : Fin n) :
    Monitored (exitReported source cs i) := by
  have hpointer : ∀ j id,
      ((ContainerManager.exitReported source cs i).containers j).runtimeStat.pidfdSource = some id →
        j ≠ i ∧ (cs.containers j).runtimeStat.pidfdSource = some id := by
    intro j id hj
    have hji : j ≠ i := by
      rintro rfl
      simp [ContainerManager.exitReported] at hj
    exact ⟨hji, by simpa [ContainerManager.exitReported, hji] using hj⟩
  have hsources : ∀ s ∈ (ContainerManager.exitReported source cs i).event.sources,
      s ∈ cs.event.sources := fun s hs => List.mem_of_mem_filter hs
  refine ⟨fun s hs => h.sources s (hsources s hs),
    fun j id hj => h.pointers j id (hpointer j id hj).2,
    fun j k id hj hk => h.owner j k id (hpointer j id hj).2 (hpointer k id hk).2,
    fun j s hs hj lxc hl => ?_⟩
  obtain ⟨hji, hj⟩ := hpointer j s.id hj
  apply h.incarnation j s (hsources s hs) hj lxc
  simpa [ContainerManager.exitReported, hji] using hl

lemma reportFirst_exitReported (h : Monitored cs) (hc : cs.comm = []) {source : PidfdSource n}
    (hs : source ∈ cs.event.sources) {i : Fin n}
    (hi : (cs.containers i).runtimeStat.pidfdSource = some source.id) :
    ReportFirst (exitReported source cs i) := by
  have hcomm : (exitReported source cs i).comm = [.guestExit i source.incarnation] := by
    simp [exitReported, Containers.send, Containers.setGuest, hc]
  constructor
  · intro k incarnation hk
    simp [hcomm] at hk
  · intro j incarnation hj lxc hl
    rw [hcomm] at hj
    obtain ⟨hij, rfl⟩ := Message.guestExit.inj (Option.some.inj hj)
    obtain rfl : i = j := Fin.ext (by exact_mod_cast hij)
    apply h.incarnation i source hs hi lxc
    simpa [exitReported] using hl

/-! ### Steps -/

/-- The schedule of the event loop: messages come from the internal socket, and a pidfd is only
served when no packet waits there. -/
def Scheduled (cs : Containers n) : Action n → Prop
  | .message _ _ => False
  | .pidfd _ _ => cs.comm = []
  | _ => True

/-- No call of `container_monitor_addguest` fails for a guest whose `pidfd_source` is set. -/
def StepMonitored (cs : Containers n) (a : Action n) : Prop :=
  ∀ sys cs', cyclicEvent cs a = some (sys, cs') → ExecMonitored sys cs'

/-- What a run keeps. -/
structure ReportsInvariant (cs : Containers n) : Prop where
  monitored : Monitored cs
  reportFirst : ReportFirst cs

lemma Quiet.reports (h : Quiet cs) : ReportsInvariant cs := ⟨h.monitored, .of_notExit h.notExit⟩

lemma GuestsOnly.reports (hg : GuestsOnly cs cs') (h : ReportsInvariant cs) :
    ReportsInvariant cs' :=
  ⟨hg.monitored h.monitored, h.reportFirst.keep hg.guests hg.comm⟩

lemma ReportsInvariant.send (h : ReportsInvariant cs) {m : Message} (hm : m.NotExit)
    (sent : Bool) : ReportsInvariant (cs.send m sent) := by
  refine ⟨h.monitored.keep (fun i => ?_) ?_, h.reportFirst.send hm sent⟩
  · rw [send_containers]
    exact .refl _
  · rw [send_frame]

/-- Handling the oldest packet leaves no guest exit in the socket. -/
lemma ReportsInvariant.receive (h : ReportsInvariant cs) {sys : MessageSys n} {m : Message}
    {rest : List Message} (hc : cs.comm = m :: rest)
    (hm : ExecMonitored sys.exec (handleMessage sys { cs with comm := rest } m)) :
    ReportsInvariant (containerMngsmStateMachine sys { cs with comm := rest } m) := by
  have hq : Quiet { cs with comm := rest } := by
    refine ⟨h.monitored.keep (fun _ => .refl _) rfl, ?_⟩
    rintro m' hm' k incarnation rfl
    exact h.reportFirst.tail k incarnation (by rwa [hc])
  exact (((handleMessage_guestsOnly sys _ m).quiet hq).exec hm).reports

lemma ReportsInvariant.step (h : ReportsInvariant cs) {a : Action n} (ha : Scheduled cs a)
    (hm : StepMonitored cs a) : ReportsInvariant (step cs a) := by
  cases a with
  | message m sys => exact ha.elim
  | receive sys =>
    simp only [ContainerManager.step, containerMngsmCommsocketHandler]
    cases hc : cs.comm with
    | nil => exact h
    | cons m rest =>
      refine h.receive hc (hm sys.exec _ ?_)
      simp [cyclicEvent, hc]
  | timer sent => exact h.send (by simp [Message.NotExit]) sent
  | sigterm sent => exact h.send (by simp [Message.NotExit]) sent
  | netlink m sent =>
    have hl : ReportsInvariant { cs with nllist := (dataCb m cs.nllist).1 } :=
      ⟨h.monitored.keep (fun _ => .refl _) rfl, h.reportFirst.keep (fun _ => .refl _) rfl⟩
    exact hl.send (by simp [Message.NotExit]) _
  | pidfd id sent =>
    simp only [ContainerManager.step]
    split
    · exact h
    · rename_i source hs
      rcases containerMonitorPidfdHandler_cases sent source h.monitored with e | ⟨i, hi, e⟩
      · rw [e]
        exact h
      · rw [e]
        exact ⟨h.monitored.exitReported source i,
          reportFirst_exitReported h.monitored ha (List.mem_of_find?_eq_some hs) hi⟩
  | command p sys => exact (containerExternalInterfaceExec_guestsOnly sys cs p).reports h
  | guestWorker i exec =>
    have hg : GuestsOnly cs (cs.setGuest i (guestWorkerDone exec (cs.containers i))) :=
      .setGuest (guestWorkerDone_keeps _ _)
    exact hg.reports h
  | managerWorker k =>
    simp only [ContainerManager.step, managerWorker]
    split <;> exact ⟨h.monitored.keep (fun _ => .refl _) rfl,
      h.reportFirst.keep (fun _ => .refl _) rfl⟩

/-! ### The start of the guests -/

lemma containerStartByRole_quiet {cs s : Containers n} (h₀ : Initial cs)
    {c : RoleConfig n × ℕ} {rest : List (RoleConfig n × ℕ)}
    (hb : BootInvariant False cs (c :: rest) s) (h : Quiet s) (sys : VisitSys) :
    Quiet (containerStartByRole sys s c.1.name).1 := by
  simp only [containerStartByRole]
  split
  · exact h
  · rename_i j hj
    have hg : GuestsOnly s (s.setGuest j (enableGuest (s.containers j))) :=
      .setGuest (enableGuest_keeps _)
    -- the role was not started yet, so the guest has no source
    have hnone : (s.containers j).runtimeStat.pidfdSource = none := by
      have hrole : (cs.containers j).role = c.1.name := by
        have e : (s.containers j).role = (cs.containers j).role := congrFun hb.moves.role_eq j
        rw [← e]
        exact hb.roles.roles.role_active hj
      rw [hb.untouched c List.mem_cons_self j hrole]
      exact (h₀.guests j).pidfdSource
    have hq := hg.quiet h
    refine ⟨hq.monitored.startGuest fun _ hsome => absurd ?_ hsome, ?_⟩
    · rw [setGuest_self]
      exact hnone
    · obtain ⟨containers, event, e⟩ :=
        startGuest_frame sys (s.setGuest j (enableGuest (s.containers j))) j
      rw [e]
      exact hq.notExit

lemma Initial.quiet (h : Initial cs) : Quiet cs where
  monitored :=
    ⟨by simp [h.event], by simp [(h.guests _).pidfdSource], by simp [(h.guests _).pidfdSource],
      by simp [h.event]⟩
  notExit := by simp [h.comm]

lemma Booted.reports {sys : ℕ → VisitSys} {notify : Bool} {cs₀ : Containers n}
    (h₀ : Initial cs₀) (hb : Booted sys notify cs₀ cs) : ReportsInvariant cs := by
  have hstart : ReportsInvariant (containerMngsmStart sys notify cs₀) := by
    have hI : BootInvariant False cs₀ [] (cs₀.roleList.zipIdx.foldl
        (fun s c => (containerStartByRole (sys c.2) s c.1.name).1) cs₀) ∧
        Quiet (cs₀.roleList.zipIdx.foldl
          (fun s c => (containerStartByRole (sys c.2) s c.1.name).1) cs₀) := by
      refine Loop.foldl_invariant_rest
        (I := fun rest s => BootInvariant False cs₀ rest s ∧ Quiet s)
        (fun s c rest hI => ⟨hI.1.startByRole (fun i => (h₀.guests i).status) sys False.elim,
          containerStartByRole_quiet h₀ hI.1 hI.2 _⟩) ⟨?_, h₀.quiet⟩
      exact h₀.bootInvariant
    exact hI.2.reports.send (by simp [Message.NotExit]) notify
  cases hb with
  | started => exact hstart
  | launched dispatch =>
    simp only [containerMngsmExecDelayedOperation]
    split_ifs <;> exact ⟨hstart.monitored.keep (fun _ => .refl _) rfl,
      hstart.reportFirst.keep (fun _ => .refl _) rfl⟩

/-! ### Runs -/

/-- The handling of a guest exit leaves a later incarnation of the guest alone that is started: it
neither changes its status nor releases its instance. -/
def ExitConcernsOwn (cs : Containers n) : Prop :=
  ∀ (i : Fin n) incarnation rest lxc, cs.comm = .guestExit i incarnation :: rest →
    (cs.containers i).runtimeStat.status = .started →
    (cs.containers i).runtimeStat.lxc = some lxc → incarnation < lxc.incarnation →
      let cc := (containerExited { cs with comm := rest } i).1.containers i
      cc.runtimeStat.status = .started ∧ cc.runtimeStat.lxc = some lxc

lemma ReportsInvariant.exitConcernsOwn (h : ReportsInvariant cs) : ExitConcernsOwn cs := by
  intro i incarnation rest lxc hc hs hl hlt
  have hle := h.reportFirst.head i incarnation (by simp [hc]) lxc hl
  omega

theorem exit_concerns_own {cs₀ : Containers n} (h₀ : Initial cs₀) {sys : ℕ → VisitSys}
    {notify : Bool} (hb : Booted sys notify cs₀ cs) {as : List (Action n)}
    (hs : Transition.Guarded step Scheduled cs as)
    (hm : Transition.Guarded step StepMonitored cs as) :
    ExitConcernsOwn (Transition.run step cs as) :=
  ReportsInvariant.exitConcernsOwn (Transition.run_invariant_of_guarded
    (G := fun cs a => Scheduled cs a ∧ StepMonitored cs a)
    (fun _ _ hg hI => hI.step hg.1 hg.2) (hb.reports h₀) (hs.and hm))

/-- The guest is killed after a reboot request and relaunched with this monitor; then the pidfds of
the sources with these numbers are served. -/
def relaunch (monitor : MonitorSys) (ids : List ℕ) : List (Action 1) :=
  [.receive (messageOk 50),
    .command { size := 136, command := 0x2000, subcommand := 2, guestName := "cluster" }
      (commandOk 100),
    .timer true,
    .receive (messageOk 101),
    .timer true,
    .receive { messageOk 102 with
      exec := { execOk 102 with visit := fun _ => { visitOk with monitor := monitor } } },
    .receive (messageOk 103)] ++ ids.map fun id => .pidfd id true

/-- The guest after the start of its role. -/
def clusterStarted : Containers 1 :=
  containerMngsmStart (fun _ => visitOk) true (setupManager clusterGuest [])

/-- An event whose monitors all succeed replaces every source. -/
lemma stepMonitored_of_adds {a : Action n}
    (h : ∀ sys cs', cyclicEvent cs a = some (sys, cs') → ∀ i, (sys.visit i).monitor.Adds) :
    StepMonitored cs a :=
  fun sys cs' hc _ => Transition.guarded_of_forall (fun _ i _ _ _ _ _ => h sys cs' hc i) cs' _

lemma stepMonitored_relaunch (ids : List ℕ) :
    Transition.Guarded step StepMonitored clusterStarted (relaunch ⟨0, 0⟩ ids) := by
  have hreceive : ∀ (cs : Containers 1) (sys : MessageSys 1),
      (∀ i, (sys.exec.visit i).monitor.Adds) → StepMonitored cs (.receive sys) := by
    intro cs sys ha
    refine stepMonitored_of_adds fun sys' cs' hc => ?_
    simp only [cyclicEvent] at hc
    split at hc
    · simp at hc
    · obtain ⟨rfl, -⟩ := Prod.mk.inj (Option.some.inj hc)
      exact ha
  have hok : ∀ _ : Fin 1, visitOk.monitor.Adds := fun _ => ⟨le_rfl, le_rfl⟩
  have hnone : ∀ (cs : Containers 1) (a : Action 1), cyclicEvent cs a = none →
      StepMonitored cs a :=
    fun cs a hn => stepMonitored_of_adds fun sys cs' hc => by simp [hn] at hc
  have hpidfd : ∀ cs : Containers 1, Transition.Guarded step StepMonitored cs
      (ids.map fun id => .pidfd id true) := by
    intro cs
    induction ids generalizing cs with
    | nil => trivial
    | cons id ids ih => exact ⟨hnone _ _ rfl, ih _⟩
  exact ⟨hreceive _ _ hok, hnone _ _ rfl, hnone _ _ rfl, hreceive _ _ hok, hnone _ _ rfl,
    hreceive _ _ hok, hreceive _ _ hok, hpidfd _⟩

theorem exit_concerns_own_relaunch :
    ExitConcernsOwn (Transition.run step clusterStarted (relaunch ⟨0, 0⟩ [0, 1])) :=
  exit_concerns_own setup_clusterGuest_initial .started
    ⟨trivial, trivial, trivial, trivial, trivial, trivial, trivial, rfl, rfl, trivial⟩
    (stepMonitored_relaunch [0, 1])

/-- When the monitor of the second incarnation fails, the exit of the first one ends it. -/
theorem exit_ends_relaunch :
    Initial (setupManager clusterGuest []) ∧
      Booted (fun _ => visitOk) true (setupManager clusterGuest []) clusterStarted ∧
      Transition.Guarded step Scheduled clusterStarted (relaunch ⟨-1, 0⟩ [0]) ∧
      ¬ ExitConcernsOwn (Transition.run step clusterStarted (relaunch ⟨-1, 0⟩ [0])) := by
  refine ⟨setup_clusterGuest_initial, .started,
    ⟨trivial, trivial, trivial, trivial, trivial, trivial, trivial, rfl, trivial⟩, fun h => ?_⟩
  have hs := (h 0 1 [] ⟨2⟩ rfl rfl rfl (by decide)).1
  exact absurd hs (by decide)

end ContainerManager

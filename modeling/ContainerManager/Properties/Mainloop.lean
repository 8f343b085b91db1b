import ContainerManager.Mainloop
import ContainerManager.Properties.Incarnation
import ContainerManager.Properties.Shutdown

/-!
# Runs of the main loop

The main loop is one way to schedule the events of the manager: it serves the internal socket before
anything else. So a report of an exit and a request to shut down are handled before any other event,
and the tick timer, which fires until it is set again, never has two ticks on the way.
-/

namespace ContainerManager

open Containers

variable {n : ℕ}

/-! ### The loop as a schedule -/

/-- While another source is dispatched, no packet waits. -/
lemma Mainloop.Dispatches.comm_eq_nil {m : Mainloop n} {source : EventSource n}
    (h : m.Dispatches source) (hs : ∀ sys rearm, source ≠ .commsocket sys rearm) :
    m.cs.comm = [] := by
  refine ((m.dispatches_iff source).mp h).2.resolve_left ?_
  cases source with
  | commsocket sys rearm => exact absurd rfl (hs sys rearm)
  | _ => simp [EventSource.priority]

/-- Every action of the list fits the schedule, one after the other. -/
abbrev ScheduledRun (cs : Containers n) (as : List (Action n)) : Prop :=
  Transition.Guarded ContainerManager.step Scheduled cs as

lemma netlink_scheduled (ms : List (LinkMessage × Bool)) (cs : Containers n) :
    ScheduledRun cs (ms.map fun r => .netlink r.1 r.2) ∧
    ms.foldl (fun cs r => ContainerManager.step cs (.netlink r.1 r.2)) cs =
      Transition.run ContainerManager.step cs (ms.map fun r => .netlink r.1 r.2) := by
  induction ms generalizing cs with
  | nil => exact ⟨trivial, rfl⟩
  | cons r ms ih =>
    obtain ⟨hguard, hrun⟩ := ih (ContainerManager.step cs (.netlink r.1 r.2))
    exact ⟨⟨trivial, hguard⟩, hrun⟩

lemma updateTimertick_cs (ok : Bool) (m : Mainloop n) :
    (containerMngsmUpdateTimertick ok m).cs = m.cs := by
  simp only [containerMngsmUpdateTimertick]
  split_ifs <;> rfl

/-- What a source does that the loop dispatches is a scheduled run of events. -/
lemma dispatch_scheduled {m : Mainloop n} {source : EventSource n} (h : m.Dispatches source) :
    ∃ as, ScheduledRun m.cs as ∧
      (m.dispatch source).cs = Transition.run ContainerManager.step m.cs as := by
  cases source with
  | commsocket sys rearm =>
    refine ⟨[.receive sys], ⟨trivial, trivial⟩, ?_⟩
    simp only [Mainloop.dispatch, Mainloop.commsocket, Transition.run_cons, Transition.run_nil,
      ContainerManager.step]
    split_ifs
    · rw [updateTimertick_cs]
    · rfl
  | timer sent rearm =>
    simp only [Mainloop.dispatch, containerMngsmTimerHandler]
    split_ifs
    · exact ⟨[.timer true], ⟨trivial, trivial⟩, rfl⟩
    · exact ⟨[], trivial, updateTimertick_cs _ _⟩
  | sigterm sent =>
    simp only [Mainloop.dispatch, sdEventSignalHandler]
    split_ifs
    · exact ⟨[.sigterm true], ⟨trivial, trivial⟩, rfl⟩
    · exact ⟨[], trivial, rfl⟩
  | netlink ms =>
    obtain ⟨hguard, hrun⟩ := netlink_scheduled ms m.cs
    exact ⟨_, hguard, hrun⟩
  | pidfd id sent =>
    exact ⟨[.pidfd id sent], ⟨h.comm_eq_nil (by simp), trivial⟩, rfl⟩
  | session p sys => exact ⟨[.command p sys], ⟨trivial, trivial⟩, rfl⟩

lemma Mainloop.step_scheduled (m : Mainloop n) (l : LoopStep n) :
    ∃ as, ScheduledRun m.cs as ∧ (m.step l).cs = Transition.run ContainerManager.step m.cs as := by
  cases l with
  | pass now source =>
    simp only [Mainloop.step]
    split_ifs with hexit hdisp
    · exact ⟨[], trivial, rfl⟩
    · exact dispatch_scheduled hdisp
    · exact ⟨[], trivial, rfl⟩
  | guestWorker i exec => exact ⟨[.guestWorker i exec], ⟨trivial, trivial⟩, rfl⟩
  | managerWorker k => exact ⟨[.managerWorker k], ⟨trivial, trivial⟩, rfl⟩

/-- Every run of the main loop is a run of the manager in which messages come from the internal
socket and a pidfd is only served when no packet waits there; the states it passes are reachable. -/
theorem mainloop_scheduled (m : Mainloop n) (ls : List (LoopStep n)) :
    (∃ as, ScheduledRun m.cs as ∧
      (Transition.run Mainloop.step m ls).cs = Transition.run ContainerManager.step m.cs as) ∧
    (Reachable m.cs → Reachable (Transition.run Mainloop.step m ls).cs) := by
  have hrun : ∃ as, ScheduledRun m.cs as ∧
      (Transition.run Mainloop.step m ls).cs = Transition.run ContainerManager.step m.cs as :=
    Transition.run_refines Mainloop.cs Mainloop.step_scheduled m ls
  refine ⟨hrun, fun hm => ?_⟩
  obtain ⟨as, -, has⟩ := hrun
  rw [has]
  exact hm.run as

/-- The two guests of one role when the loop is entered. -/
def iviEntered : Mainloop 2 where
  cs := iviBooted
  timerNext := some tickInterval

lemma iviEntered_entered : iviEntered.Entered (setupManager iviGuests []) where
  booted := ⟨fun _ => visitOk, true, .started⟩
  timer := rfl
  fired := rfl

/-- Two ticks: the notification of the start is handled first, and each tick after it was sent. -/
def twoTicks : List (LoopStep 2) :=
  [.pass 100 (.commsocket (messageOk 0) true), .pass 50000 (.timer true true),
    .pass 50100 (.commsocket (messageOk 50) true), .pass 100100 (.timer true true)]

/-- The states of these ticks are reachable. -/
theorem iviEntered_scheduled : Reachable (Transition.run Mainloop.step iviEntered twoTicks).cs :=
  (mainloop_scheduled iviEntered twoTicks).2 iviBooted_reachable

/-! ### The internal socket -/

/-- The cyclic event only adds update notifications to the internal socket. -/
lemma execInternalEvent_comm (sys : ExecSys n) (cs : Containers n) :
    ∀ m ∈ (containerExecInternalEvent sys cs).comm, m ∈ cs.comm ∨ m = .netifUpdated := by
  simp only [containerExecInternalEvent]
  split
  · obtain ⟨cs', hg, e⟩ := execInternalEventRun_guestsOnly sys cs
    have hcomm : (execInternalEventRun sys cs).comm = (execRunVisits sys.visit cs).comm := by
      rw [e]
      exact hg.comm
    rw [hcomm]
    apply Loop.forEach_invariant
      (I := fun s : Containers n => ∀ m ∈ s.comm, m ∈ cs.comm ∨ m = .netifUpdated)
    · intro s i hs m hm
      rcases execRunVisit_cases (sys.visit i) s i with hg | ⟨j, s', -, hg, e⟩
      · exact hs m (hg.comm ▸ hm)
      · rw [e] at hm
        rcases startAndNotify_comm _ _ _ m hm with hold | hnew
        · exact hs m (hg.comm ▸ hold)
        · exact Or.inr hnew
    · exact fun m hm => Or.inl hm
  · obtain ⟨cs', hg, e⟩ := execInternalEventShutdown_guestsOnly sys cs
    rw [e]
    intro m hm
    left
    split_ifs at hm
    · rwa [(execTerminateOperation_outside sys.dispatch sys.read cs').2.1, hg.comm] at hm
    · rwa [hg.comm] at hm

/-- After the oldest packet was handled, the others are left, and update notifications. -/
lemma commsocketHandler_comm (sys : MessageSys n) {cs : Containers n} {m : Message}
    {rest : List Message} (hc : cs.comm = m :: rest) :
    ∀ m' ∈ (containerMngsmCommsocketHandler sys cs).comm, m' ∈ rest ∨ m' = .netifUpdated := by
  intro m' hm'
  simp only [containerMngsmCommsocketHandler, hc, containerMngsmStateMachine] at hm'
  have hhandled := (handleMessage_guestsOnly sys { cs with comm := rest } m).comm
  rcases execInternalEvent_comm _ _ m' hm' with hold | hnew
  · exact Or.inl (by rwa [hhandled] at hold)
  · exact Or.inr hnew

/-- A message that is no update notification waits at the head of the internal socket only. -/
def HeadOnly (c : Message) (comm : List Message) : Prop := c ∉ comm.tail

lemma HeadOnly.handled {c : Message} (hne : c ≠ .netifUpdated) (sys : MessageSys n)
    {cs : Containers n} (hc : cs.comm ≠ []) (h : HeadOnly c cs.comm) :
    c ∉ (containerMngsmCommsocketHandler sys cs).comm := by
  obtain ⟨m, rest, hm⟩ := List.exists_cons_of_ne_nil hc
  intro hmem
  rw [HeadOnly, hm] at h
  rcases commsocketHandler_comm sys hm c hmem with hrest | hnew
  · exact h hrest
  · exact hne hnew

lemma send_comm (cs : Containers n) (c : Message) : (cs.send c true).comm = cs.comm ++ [c] := by
  simp [Containers.send]

/-! ### The tick timer -/

/-- What the loop keeps of its timer: the next tick is at most an interval away, there is at most
one tick on the way, and ticks are at least an interval apart. -/
structure Ticking (m : Mainloop n) (t : ℕ) : Prop where
  next : m.timerNext = some t
  near : t ≤ m.now + tickInterval
  past : ∀ f ∈ m.fired, f ≤ m.now
  single : HeadOnly .timerTick m.cs.comm
  apart : .timerTick ∉ m.cs.comm → ∀ f ∈ m.fired, f + tickInterval ≤ t
  spaced : m.fired.Pairwise fun later earlier => earlier + tickInterval ≤ later

/-- The answers of the system to a step are the usual ones: the time of the timer can be set, by the
handler of a tick or, when the tick cannot be sent, by that of the timer. -/
def LoopStep.Usual : LoopStep n → Prop
  | .pass _ (.commsocket _ rearm) => rearm = true
  | .pass _ (.timer sent rearm) => sent = true ∨ rearm = true
  | _ => True

/-- A source that adds no tick to the empty socket leaves the timer as it was. -/
lemma Ticking.other {m : Mainloop n} {t : ℕ} (h : Ticking m t) (cs : Containers n)
    (hcomm : .timerTick ∉ cs.comm) (hold : .timerTick ∉ m.cs.comm) :
    Ticking { m with cs := cs } t where
  next := h.next
  near := h.near
  past := h.past
  single := fun hmem => hcomm (List.mem_of_mem_tail hmem)
  apart _ := h.apart hold
  spaced := h.spaced

lemma netlink_comm (ms : List (LinkMessage × Bool)) {cs : Containers n}
    (h : .timerTick ∉ cs.comm) : .timerTick ∉
      (ms.foldl (fun cs r => ContainerManager.step cs (.netlink r.1 r.2)) cs).comm := by
  apply Loop.foldl_invariant (I := fun s : Containers n => .timerTick ∉ s.comm) _ h
  intro s r hs
  simp only [ContainerManager.step, Containers.send]
  split_ifs
  · simpa using hs
  · exact hs

lemma pidfdHandler_comm (sent : Bool) (source : PidfdSource n) {cs : Containers n}
    (h : .timerTick ∉ cs.comm) :
    .timerTick ∉ (containerMonitorPidfdHandler sent source cs).comm := by
  apply Loop.forEach_invariant (I := fun s : Containers n => .timerTick ∉ s.comm) _ h
  intro s i hs
  dsimp only
  split_ifs
  · simpa [Containers.send, Containers.setGuest] using hs
  · exact hs
  · exact hs

/-- A dispatch keeps the timer ticking. -/
lemma Ticking.dispatch {m : Mainloop n} {t : ℕ} (h : Ticking m t) {now : ℕ}
    {source : EventSource n} (husual : (LoopStep.pass now source).Usual)
    (hdisp : m.Dispatches source) : ∃ t', Ticking (m.dispatch source) t' := by
  cases source with
  | commsocket sys rearm =>
    obtain rfl : rearm = true := husual
    have hgone : .timerTick ∉ (containerMngsmCommsocketHandler sys m.cs).comm :=
      h.single.handled (by simp) sys hdisp.1
    simp only [Mainloop.dispatch, Mainloop.commsocket]
    split_ifs with htick
    · refine ⟨m.now + tickInterval, rfl, le_rfl, h.past, ?_, ?_, h.spaced⟩
      · exact fun hmem => hgone (List.mem_of_mem_tail hmem)
      · intro _ f hf
        exact Nat.add_le_add_right (h.past f hf) tickInterval
    · have hno : .timerTick ∉ m.cs.comm := by
        obtain ⟨c, rest, hc⟩ := List.exists_cons_of_ne_nil hdisp.1
        intro hmem
        rw [hc] at htick hmem
        rcases List.mem_cons.mp hmem with rfl | hrest
        · exact htick rfl
        · exact h.single (by rw [hc]; exact hrest)
      exact ⟨t, h.other _ hgone hno⟩
  | timer sent rearm =>
    have hempty := hdisp.comm_eq_nil (by simp)
    have hno : .timerTick ∉ m.cs.comm := by simp [hempty]
    obtain ⟨t', ht', hdue⟩ := hdisp.1
    obtain rfl : t = t' := Option.some.inj (h.next.symm.trans ht')
    have hpast : ∀ f ∈ m.now :: m.fired, f ≤ m.now := List.forall_mem_cons.mpr ⟨le_rfl, h.past⟩
    have hspaced : (m.now :: m.fired).Pairwise fun later earlier =>
        earlier + tickInterval ≤ later :=
      List.pairwise_cons.mpr ⟨fun f hf => (h.apart hno f hf).trans hdue, h.spaced⟩
    simp only [Mainloop.dispatch, containerMngsmTimerHandler]
    split_ifs with hsent
    · have hcomm : (m.cs.send .timerTick true).comm = [.timerTick] := by
        rw [send_comm, hempty, List.nil_append]
      refine ⟨t, h.next, h.near, hpast, ?_, ?_, hspaced⟩
      · simp [HeadOnly, hcomm]
      · intro habsent
        simp [hcomm] at habsent
    · -- the tick is not sent, and the handler sets the time itself
      obtain rfl : rearm = true := husual.resolve_left hsent
      refine ⟨m.now + tickInterval, rfl, le_rfl, hpast, ?_, ?_, hspaced⟩
      · exact fun hmem => hno (List.mem_of_mem_tail hmem)
      · exact fun _ f hf => Nat.add_le_add_right (hpast f hf) tickInterval
  | sigterm sent =>
    have hempty := hdisp.comm_eq_nil (by simp)
    have hno : .timerTick ∉ m.cs.comm := by simp [hempty]
    simp only [Mainloop.dispatch, sdEventSignalHandler]
    split_ifs with hsent
    · refine ⟨t, h.other _ ?_ hno⟩
      rw [send_comm, hempty]
      simp
    · exact ⟨t, { h with }⟩
  | netlink ms =>
    have hno : .timerTick ∉ m.cs.comm := by simp [hdisp.comm_eq_nil (by simp)]
    exact ⟨t, h.other _ (netlink_comm ms hno) hno⟩
  | pidfd id sent =>
    have hno : .timerTick ∉ m.cs.comm := by simp [hdisp.comm_eq_nil (by simp)]
    refine ⟨t, h.other _ ?_ hno⟩
    simp only [ContainerManager.step]
    split
    · exact hno
    · exact pidfdHandler_comm sent _ hno
  | session p sys =>
    have hno : .timerTick ∉ m.cs.comm := by simp [hdisp.comm_eq_nil (by simp)]
    refine ⟨t, h.other _ ?_ hno⟩
    simp only [ContainerManager.step]
    rwa [(containerExternalInterfaceExec_guestsOnly sys m.cs p).comm]

/-- A thread does not touch the internal socket. -/
lemma managerWorker_comm (cs : Containers n) (k : ℕ) : (cs.managerWorker k).comm = cs.comm := by
  simp only [Containers.managerWorker]
  split <;> rfl

lemma Ticking.later {m : Mainloop n} {t : ℕ} (h : Ticking m t) (now : ℕ) :
    Ticking { m with now := max m.now now } t where
  next := h.next
  near := h.near.trans (Nat.add_le_add_right (le_max_left _ _) _)
  past f hf := (h.past f hf).trans (le_max_left _ _)
  single := h.single
  apart := h.apart
  spaced := h.spaced

lemma Ticking.step {m : Mainloop n} (h : ∃ t, Ticking m t) {l : LoopStep n} (husual : l.Usual) :
    ∃ t, Ticking (m.step l) t := by
  obtain ⟨t, h⟩ := h
  cases l with
  | pass now source =>
    simp only [Mainloop.step]
    split_ifs with hexit hdisp
    · exact ⟨t, h⟩
    · exact (h.later now).dispatch husual hdisp
    · exact ⟨t, h⟩
  | guestWorker i exec => exact ⟨t, { h with }⟩
  | managerWorker k =>
    have hcomm : (m.step (.managerWorker k)).cs.comm = m.cs.comm := managerWorker_comm m.cs k
    exact ⟨t, { h with
      single := by rw [hcomm]; exact h.single
      apart := by rw [hcomm]; exact h.apart }⟩

/-- Before the loop, the internal socket holds update notifications only. -/
lemma Booted.comm {sys : ℕ → VisitSys} {notify : Bool} {cs₀ cs : Containers n}
    (h₀ : Initial cs₀) (hb : Booted sys notify cs₀ cs) : ∀ m ∈ cs.comm, m = .netifUpdated := by
  have hstart : ∀ m ∈ (containerMngsmStart sys notify cs₀).comm, m = .netifUpdated := by
    have hroles : (cs₀.roleList.zipIdx.foldl
        (fun s c => (containerStartByRole (sys c.2) s c.1.name).1) cs₀).comm = [] := by
      apply Loop.foldl_invariant (I := fun s : Containers n => s.comm = []) _ h₀.comm
      intro s c hs
      simp only [containerStartByRole]
      split
      · exact hs
      · rename_i i hi
        obtain ⟨containers, event, e⟩ :=
          startGuest_frame (sys c.2) (s.setGuest i (enableGuest (s.containers i))) i
        rw [e]
        exact hs
    intro m hm
    simp only [containerMngsmStart, Containers.send] at hm
    split_ifs at hm
    · simpa [hroles] using hm
    · simp [hroles] at hm
  cases hb with
  | started => exact hstart
  | launched dispatch =>
    simp only [containerMngsmExecDelayedOperation]
    split_ifs <;> exact hstart

lemma commsocketHandler_shutdown (sys : MessageSys n) {cs : Containers n} {rest : List Message}
    (hc : cs.comm = .systemShutdown :: rest) :
    (containerMngsmCommsocketHandler sys cs).sysState = .shutdown := by
  simp only [containerMngsmCommsocketHandler, hc, containerMngsmStateMachine, handleMessage]
  apply containerExecInternalEvent_sysState
  simp [containerManagerShutdown]

lemma Mainloop.run_sysState {m : Mainloop n} (h : m.cs.sysState = .shutdown)
    (ls : List (LoopStep n)) :
    (Transition.run Mainloop.step m ls).cs.sysState = .shutdown := by
  obtain ⟨as, -, has⟩ := Transition.run_refines Mainloop.cs Mainloop.step_scheduled m ls
  rw [has]
  exact ContainerManager.run_sysState h as

/-- The request to shut down waits until the next dispatch, which handles it. -/
lemma shutdown_pending {m : Mainloop n} (hc : m.cs.comm = [.systemShutdown]) (hrun : ¬ m.Exiting)
    (ls : List (LoopStep n)) :
    let m' := Transition.run Mainloop.step m ls
    m'.cs.sysState = .shutdown ∨ m'.cs.comm = [.systemShutdown] ∧
      ∀ now sys rearm, .pass now (.commsocket sys rearm) ∉ ls := by
  induction ls generalizing m with
  | nil => exact Or.inr ⟨hc, by simp⟩
  | cons l ls ih =>
    rw [Transition.run_cons]
    -- a step that leaves the request where it is
    have hkeep (hl : ∀ now sys rearm, l ≠ .pass now (.commsocket sys rearm))
        (hc' : (m.step l).cs.comm = [.systemShutdown]) (hrun' : ¬ (m.step l).Exiting) :
        (Transition.run Mainloop.step (m.step l) ls).cs.sysState = .shutdown ∨
          (Transition.run Mainloop.step (m.step l) ls).cs.comm = [.systemShutdown] ∧
          ∀ now sys rearm, .pass now (.commsocket sys rearm) ∉ l :: ls := by
      apply (ih hc' hrun').imp_right
      rintro ⟨hcomm, hno⟩
      refine ⟨hcomm, fun now sys rearm hmem => ?_⟩
      rcases List.mem_cons.mp hmem with heq | hrest
      · exact hl now sys rearm heq.symm
      · exact hno now sys rearm hrest
    cases l with
    | pass now source =>
      by_cases hsource : ∃ sys rearm, source = .commsocket sys rearm
      · obtain ⟨sys, rearm, rfl⟩ := hsource
        left
        apply Mainloop.run_sysState
        have hdisp : Mainloop.Dispatches { m with now := max m.now now }
            (.commsocket sys rearm) := by
          rw [Mainloop.dispatches_iff]
          simp [Mainloop.Pending, EventSource.priority, hc]
        simp only [Mainloop.step, if_neg hrun, if_pos hdisp, Mainloop.dispatch,
          Mainloop.commsocket]
        split_ifs
        · rw [updateTimertick_cs]
          exact commsocketHandler_shutdown sys hc
        · exact commsocketHandler_shutdown sys hc
      · have hno : ¬ Mainloop.Dispatches { m with now := max m.now now } source := by
          intro hdisp
          have hnil := hdisp.comm_eq_nil fun sys rearm heq => hsource ⟨sys, rearm, heq⟩
          simp [hc] at hnil
        have hsame : m.step (.pass now source) = m := by
          simp only [Mainloop.step, if_neg hrun, if_neg hno]
        refine hkeep ?_ (by rw [hsame]; exact hc) (by rw [hsame]; exact hrun)
        rintro now' sys rearm heq
        exact hsource ⟨sys, rearm, (LoopStep.pass.inj heq).2⟩
    | guestWorker i exec => exact hkeep (by simp) hc hrun
    | managerWorker k =>
      refine hkeep (by simp) ((managerWorker_comm m.cs k).trans hc) fun hexit => hrun ?_
      apply hexit.imp_right
      intro hlog
      simp only [Mainloop.step, ContainerManager.step, Containers.managerWorker] at hlog
      split at hlog
      · exact hlog
      · simpa [Containers.writeLog, LogEntry.isExit] using hlog

/-- After `sd_event_exit` the loop dispatches no source. -/
lemma Mainloop.run_forceExit {m : Mainloop n} (h : m.forceExit = true) (ls : List (LoopStep n)) :
    let m' := Transition.run Mainloop.step m ls
    m'.forceExit = true ∧ m'.cs.comm = m.cs.comm ∧ m'.now = m.now := by
  induction ls generalizing m with
  | nil => exact ⟨h, rfl, rfl⟩
  | cons l ls ih =>
    rw [Transition.run_cons]
    cases l with
    | pass now source =>
      have hsame : m.step (.pass now source) = m := if_pos (Or.inl h)
      rw [hsame]
      exact ih h
    | guestWorker i exec => exact ih h
    | managerWorker k =>
      obtain ⟨hexit, hcomm, hnow⟩ := @ih (m.step (.managerWorker k)) h
      exact ⟨hexit, hcomm.trans (managerWorker_comm m.cs k), hnow⟩

/-- `SIGTERM` is not lost and is not overtaken: after its dispatch the shutdown has begun, or its
request is the only packet of the internal socket and nothing was dispatched since that reads it, or
the request could not be written and the loop was left at once. -/
theorem sigterm_handled_next {m : Mainloop n} (hrun : ¬ m.Exiting) {now : ℕ} {sent : Bool}
    (hdisp : Mainloop.Dispatches { m with now := max m.now now } (.sigterm sent))
    (ls : List (LoopStep n)) :
    let m' := Transition.run Mainloop.step m (.pass now (.sigterm sent) :: ls)
    m'.cs.sysState = .shutdown ∨
      (m'.cs.comm = [.systemShutdown] ∧
        ∀ now' sys rearm, .pass now' (.commsocket sys rearm) ∉ ls) ∨
      (sent = false ∧ m'.forceExit = true ∧ m'.cs.comm = [] ∧ m'.now = max m.now now) := by
  have hempty : m.cs.comm = [] := hdisp.comm_eq_nil (by simp)
  have hstep : m.step (.pass now (.sigterm sent)) =
      sdEventSignalHandler sent { m with now := max m.now now } := by
    simp only [Mainloop.step, if_neg hrun, if_pos hdisp]
    rfl
  rw [Transition.run_cons, hstep]
  cases sent with
  | true =>
    rw [← or_assoc]
    left
    apply shutdown_pending
    · simp only [sdEventSignalHandler, if_true]
      rw [send_comm, hempty, List.nil_append]
    · intro hexit
      apply hrun
      exact hexit.imp_right fun hlog => by simpa [sdEventSignalHandler, send_log] using hlog
  | false =>
    right
    right
    obtain ⟨hexit, hcomm, hnow⟩ :=
      Mainloop.run_forceExit
        (m := sdEventSignalHandler false { m with now := max m.now now }) rfl ls
    exact ⟨rfl, hexit, hcomm.trans hempty, hnow⟩

/-- After the first notification, `SIGTERM` begins the shutdown in the next pass that does
anything. -/
theorem iviEntered_sigterm :
    let m := Transition.run Mainloop.step iviEntered [.pass 100 (.commsocket (messageOk 0) true)]
    let m' := Transition.run Mainloop.step m [.pass 200 (.sigterm true),
      .pass 50000 (.timer true true), .pass 50000 (.commsocket (messageOk 50) true)]
    m'.cs.sysState = .shutdown := by
  intro m m'
  have hnext := @sigterm_handled_next 2 m (by decide +kernel) 200 true (by decide +kernel)
    [.pass 50000 (.timer true true), .pass 50000 (.commsocket (messageOk 50) true)]
  rcases hnext with hshutdown | ⟨-, hno⟩ | ⟨hsent, -⟩
  · exact hshutdown
  · exact absurd (List.mem_cons_of_mem _ List.mem_cons_self) (hno _ _ _)
  · simp at hsent

end ContainerManager

import ContainerManager.System

/-!
# The main loop

`sd_event_loop` over the sources that the setup of `container-control.c` and `main` register, with
the tick timer. A pass dispatches a pending source of the least priority value. The timer stays
enabled, so it fires until its time is set again. The udev monitor and the listening socket of the
external interface are left out: their handlers touch neither the guests nor the internal socket.
-/

namespace ContainerManager

variable {n : ℕ}

/-- The manager in its main loop. -/
structure Mainloop (n : ℕ) where
  cs : Containers n
  /-- `sd_event_now`, in microseconds -/
  now : ℕ := 0
  /-- the time of `timer_source`; there is none at `UINT64_MAX` -/
  timerNext : Option ℕ := none
  /-- the handler of a signal called `sd_event_exit` -/
  forceExit : Bool := false
  /-- history: when the timer fired, newest first. -/
  fired : List ℕ := []

/-- A source that can be dispatched, and what its handler meets. -/
inductive EventSource (n : ℕ) where
  | commsocket (sys : MessageSys n) (rearm : Bool)
  | timer (sent rearm : Bool)
  | sigterm (sent : Bool)
  /-- one receive of the netlink socket, which may hold several messages -/
  | netlink (ms : List (LinkMessage × Bool))
  | pidfd (id : ℕ) (sent : Bool)
  | session (p : ExtifPacket) (sys : CommandSys n)

/-- `SD_EVENT_PRIORITY_NORMAL`. -/
def sdEventPriorityNormal : ℤ := 0

/-- The priority of a source; only that of the internal socket is set. -/
def EventSource.priority : EventSource n → ℤ
  | .commsocket _ _ => sdEventPriorityNormal - 10
  | _ => sdEventPriorityNormal

/-- A step of the process: a pass of the main loop, or of another thread. -/
inductive LoopStep (n : ℕ) where
  /-- the wait of the pass ends at this time -/
  | pass (now : ℕ) (source : EventSource n)
  | guestWorker (i : Fin n) (exec : ℤ)
  | managerWorker (k : ℕ)

/-- The entry tells that `container_mngsm_exit` was called. -/
def LogEntry.isExit : LogEntry n → Bool
  | .exit _ => true
  | _ => false

/-- The interval of the tick timer in microseconds. -/
def tickInterval : ℕ := 50 * 1000

/-- `container_mngsm_update_timertick`. -/
def containerMngsmUpdateTimertick (ok : Bool) (m : Mainloop n) : Mainloop n :=
  if ok then { m with timerNext := some (m.now + tickInterval) } else m

/-- `container_mngsm_timer_handler`. -/
def containerMngsmTimerHandler (sent rearm : Bool) (m : Mainloop n) : Mainloop n :=
  let m := { m with fired := m.now :: m.fired }
  if sent then { m with cs := m.cs.send .timerTick true }
  -- if timer tick can't send, set new tick in this point
  else containerMngsmUpdateTimertick rearm m

/-- `sd_event_signal_handler` for `SIGTERM`, with `sigterm_notify`. -/
def sdEventSignalHandler (sent : Bool) (m : Mainloop n) : Mainloop n :=
  if sent then { m with cs := m.cs.send .systemShutdown true } else { m with forceExit := true }

namespace Mainloop

variable (m : Mainloop n)

/-- The handler of the internal socket: a tick also sets the timer again. -/
def commsocket (sys : MessageSys n) (rearm : Bool) : Mainloop n :=
  let m := if m.cs.comm.head? = some .timerTick then containerMngsmUpdateTimertick rearm m else m
  { m with cs := containerMngsmCommsocketHandler sys m.cs }

/-- The handler of a source. -/
def dispatch : EventSource n → Mainloop n
  | .commsocket sys rearm => m.commsocket sys rearm
  | .timer sent rearm => containerMngsmTimerHandler sent rearm m
  | .sigterm sent => sdEventSignalHandler sent m
  | .netlink ms =>
    { m with cs := ms.foldl (fun cs r => ContainerManager.step cs (.netlink r.1 r.2)) m.cs }
  | .pidfd id sent => { m with cs := ContainerManager.step m.cs (.pidfd id sent) }
  | .session p sys => { m with cs := ContainerManager.step m.cs (.command p sys) }

/-- The source is pending, as far as this process decides it. -/
def Pending : EventSource n → Prop
  | .commsocket _ _ => m.cs.comm ≠ []
  | .timer _ _ => ∃ t ∈ m.timerNext, t ≤ m.now
  | _ => True

/-- The source is one that the loop dispatches: it is pending, and no pending source has a lower
priority value. -/
def Dispatches (source : EventSource n) : Prop :=
  m.Pending source ∧ ∀ other, m.Pending other → source.priority ≤ other.priority

/-- `sd_event_exit` was called. -/
def Exiting : Prop := m.forceExit = true ∨ m.cs.log.any LogEntry.isExit = true

instance (source : EventSource n) : Decidable (m.Pending source) := by
  cases source <;> unfold Pending <;> infer_instance

/-- Only the internal socket comes before another source. -/
lemma dispatches_iff (source : EventSource n) : m.Dispatches source ↔ m.Pending source ∧
    (source.priority < sdEventPriorityNormal ∨ m.cs.comm = []) := by
  apply and_congr_right
  intro hpending
  constructor
  · intro h
    by_contra! hno
    have hle : source.priority ≤ sdEventPriorityNormal - 10 :=
      h (.commsocket (messageOk 0) false) hno.2
    omega
  · intro h other hother
    cases other with
    | commsocket sys rearm =>
      rcases h with h | h
      · cases source <;> simp [EventSource.priority] at h ⊢
      · exact absurd h hother
    | _ => cases source <;> simp [EventSource.priority]

instance (source : EventSource n) : Decidable (m.Dispatches source) :=
  decidable_of_iff _ (m.dispatches_iff source).symm

instance : Decidable m.Exiting := inferInstanceAs (Decidable (_ ∨ _))

/-- The process after a step; a pass that cannot be is none. -/
def step : LoopStep n → Mainloop n
  | .pass now source =>
    if m.Exiting then m
    else
      let m' := { m with now := max m.now now }
      if m'.Dispatches source then m'.dispatch source else m
  | .guestWorker i exec => { m with cs := ContainerManager.step m.cs (.guestWorker i exec) }
  | .managerWorker k => { m with cs := ContainerManager.step m.cs (.managerWorker k) }

end Mainloop

/-- The process when `main` enters the loop: the timer was set by `container_mngsm_start`. -/
structure Mainloop.Entered (cs₀ : Containers n) (m : Mainloop n) : Prop where
  booted : ∃ sys notify, Booted sys notify cs₀ m.cs
  timer : m.timerNext = some (m.now + tickInterval)
  fired : m.fired = []

end ContainerManager

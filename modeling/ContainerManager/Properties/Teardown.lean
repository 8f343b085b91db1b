import ContainerManager.Properties.CompleteConfig
import ContainerManager.Properties.Startup

/-!
# The process releases what it acquired

In the event loop, what is live is what the pointers to attached sources own. So the end of `main`
releases everything except the monitors of the guests and the configs of guests whose worker runs,
unless a source was lost before: then it is released a second time.
-/

namespace ContainerManager.Startup

open Ownership

variable {E : Fault → Prop}

/-! ### The event loop -/

/-- The internal socket lost its source. -/
def Mngsm.detach (lost : Bool) (cms : Mngsm) : Mngsm :=
  if lost then { cms with socketSource := none } else cms

/-- The udev monitor lost its source. -/
def DynamicUdev.detach (lost : Bool) (ddu : DynamicUdev) : DynamicUdev :=
  if lost then { ddu with libudevSource := none } else ddu

/-- The netlink socket lost its source. -/
def Netifmon.detach (lost : Bool) (nfm : Netifmon) : Netifmon :=
  if lost then { nfm with ifmonitorSource := none } else nfm

/-- The manager as it were if the pointers to lost sources were null. -/
def LoopState.attached (s : LoopState) : Manager :=
  { s.cs with
    cms := s.cs.cms.map (Mngsm.detach s.commsocketLost)
    ddm := s.cs.ddm.map fun ddm => { ddm with
      ddu := ddm.ddu.map (DynamicUdev.detach s.udevLost)
      netifmon := ddm.netifmon.map (Netifmon.detach s.netlinkLost) } }

/-- Before a source is lost, all pointers are attached. -/
lemma attached_eq {s : LoopState} (hc : s.commsocketLost = false) (hu : s.udevLost = false)
    (hn : s.netlinkLost = false) : s.attached = s.cs := by
  have hcms : Mngsm.detach false = id := rfl
  have hddu : DynamicUdev.detach false = id := rfl
  have hnfm : Netifmon.detach false = id := rfl
  simp only [LoopState.attached, hc, hu, hn, hcms, hddu, hnfm, Option.map_id_fun, id_eq,
    Option.map_id']

lemma commsocketError_owned (s : LoopState) (h : s.commsocketLost = false) :
    s.attached.owned = sourceOwned .socketSource .primaryFd (s.cs.cms.bind Mngsm.socketSource) +
      { s with commsocketLost := true }.attached.owned := by
  cases hcms : s.cs.cms with
  | none => simp [LoopState.attached, Manager.owned, Manager.configs, hcms]
  | some cms =>
    simp only [LoopState.attached, Manager.owned, Manager.configs, hcms, h, Mngsm.detach,
      Mngsm.owned, Option.map_some, Option.elim_some, Option.bind_some, if_true,
      Bool.false_eq_true, if_false, sourceOwned_none]
    abel

lemma udevError_owned (s : LoopState) (h : s.udevLost = false) :
    s.attached.owned =
      one .udevSource ((s.cs.ddm.bind DeviceManager.ddu).bind DynamicUdev.libudevSource) +
      { s with udevLost := true }.attached.owned := by
  cases hddm : s.cs.ddm with
  | none => simp [LoopState.attached, Manager.owned, Manager.configs, hddm]
  | some ddm =>
    cases hddu : ddm.ddu with
    | none => simp [LoopState.attached, Manager.owned, Manager.configs, hddm, hddu]
    | some ddu =>
      simp only [LoopState.attached, Manager.owned, Manager.configs, hddm, hddu, h,
        DynamicUdev.detach, DeviceManager.owned, DynamicUdev.owned, Option.map_some,
        Option.elim_some, Option.bind_some, if_true, Bool.false_eq_true, if_false, one_none]
      abel

lemma netlinkError_owned (s : LoopState) (h : s.netlinkLost = false) :
    s.attached.owned =
      one .netlinkSource ((s.cs.ddm.bind DeviceManager.netifmon).bind Netifmon.ifmonitorSource) +
      { s with netlinkLost := true }.attached.owned := by
  cases hddm : s.cs.ddm with
  | none => simp [LoopState.attached, Manager.owned, Manager.configs, hddm]
  | some ddm =>
    cases hnfm : ddm.netifmon with
    | none => simp [LoopState.attached, Manager.owned, Manager.configs, hddm, hnfm]
    | some nfm =>
      simp only [LoopState.attached, Manager.owned, Manager.configs, hddm, hnfm, h,
        Netifmon.detach, DeviceManager.owned, Netifmon.owned, Option.map_some,
        Option.elim_some, Option.bind_some, if_true, Bool.false_eq_true, if_false, one_none]
      abel

/-- The monitors of the guests: those with a source, in the order of their starts, and how many
sources were overwritten and how many descriptors opened. -/
structure Watches where
  guests : List ℕ := []
  overwritten : ℕ := 0
  pidfds : ℕ := 0

/-- A guest was started. -/
def Watches.start (w : Watches) (start : ℕ × MonitorSys) : Watches :=
  if start.2.initPidfd < 0 then w
  else if start.2.addIo < 0 then { w with pidfds := w.pidfds + 1 }
  else {
    guests := start.1 :: w.guests.filter fun i => i ≠ start.1
    overwritten := w.guests.count start.1 + w.overwritten
    pidfds := w.pidfds + 1 }

/-- The exit of a guest was reported, and its source released. -/
def Watches.report (w : Watches) (i : ℕ) : Watches :=
  { w with guests := w.guests.filter fun j => j ≠ i }

def Monitors.watches (m : Monitors) : Watches :=
  ⟨m.pidfdSource.map Prod.fst, m.overwritten.length, m.pidfds.length⟩

/-- What the guests have. -/
structure GuestState where
  workqueue : ℕ → Workqueue
  watches : Watches := {}

def Manager.guestState (cs : Manager) : GuestState := ⟨cs.workqueue, cs.monitors.watches⟩

/-- What stays as it is in the loop: the sources were set up, and the guests are the same. -/
structure LoopState.Steady (guests : List ℕ) (s : LoopState) : Prop where
  socket : s.cs.cms.bind Mngsm.socketSource ≠ none
  devices : ∃ ddm ∈ s.cs.ddm, ddm.Attached
  guests : s.cs.guests = guests

/-- Whether some source was lost, and the guests. -/
def LoopState.view (s : LoopState) : Bool × GuestState :=
  (s.commsocketLost || s.udevLost || s.netlinkLost, s.cs.guestState)

/-- The handler of the event unreferences its own source. -/
def LoopEvent.losesSource : LoopEvent → Bool
  | .commsocketError | .udevError | .netlinkError => true
  | _ => false

/-- What the event does to the guests. -/
def LoopEvent.work : LoopEvent → GuestState → GuestState
  | .worker i wq, g => { g with workqueue := Function.update g.workqueue i wq }
  | .start i sys, g => { g with watches := g.watches.start (i, sys) }
  | .pidfd i sent, g => if sent then { g with watches := g.watches.report i } else g
  | _, g => g

/-- A handler ended: what the attached pointers own is live. -/
def Dispatched (guests : List ℕ) (s : LoopState) (e : LoopEvent) (s' : LoopState)
    (R : Resources) : Prop :=
  R = s'.attached.owned ∧ s'.Steady guests ∧
    s'.view = (s.view.1 || e.losesSource, e.work s.view.2)

lemma externalInterfaceIncoming_owns (sys : ExtifWorld.IncomingSys) (x : Extif) :
    Owns x.owned (containerExternalInterfaceIncomingHandler sys x)
      (fun x' R => R = x'.owned) E := by
  apply Owns.ite
  · intro _
    apply Owns.call (disableUnref_owns .serverSource .serverFd x.interfaceEvsource)
      (by rw [Extif.owned, add_right_comm, add_comm]) fun _ he => he
    rintro _ _ rfl
    rw [zero_add]
    exact Owns.pure (by simp [Extif.owned])
  intro _
  apply Owns.ite
  · exact fun _ => Owns.pure rfl
  intro _
  apply Owns.acquire
  intro fd
  apply Owns.ite
  · intro _
    apply Owns.release rfl
    exact Owns.pure rfl
  intro hopen
  have hnone : x.interfaceSessionEvsource = none := by
    simpa using (not_or.mp hopen).1
  apply Owns.acquire
  intro source
  apply Owns.ite
  · intro _
    apply Owns.call (bareSource_owns _ _ _) rfl fun _ he => he
    rintro _ _ rfl
    rw [zero_add]
    apply Owns.release rfl
    exact Owns.pure (by simp [Extif.owned, hnone])
  · intro _
    apply Owns.pure
    simp only [Extif.owned, hnone, sourceOwned_none, sourceOwned_some, one_some]
    abel

lemma externalInterfaceSessions_owns (x : Extif) :
    Owns x.owned (containerExternalInterfaceSessionsHandler x) (fun x' R => R = x'.owned) E := by
  apply Owns.call (disableUnref_owns _ _ _) (add_comm _ _) fun _ he => he
  rintro _ _ rfl
  rw [zero_add]
  exact Owns.pure (by simp [Extif.owned])

/-- The state with this external interface. -/
def LoopState.withExtif (s : LoopState) (cms : Mngsm) (x : Option Extif) : LoopState :=
  { s with cs := { s.cs with cms := some { cms with cmExtIf := x } } }

lemma extif_owned (s : LoopState) (cms : Mngsm) (x : Extif) :
    (s.withExtif cms (some x)).attached.owned =
      x.owned + (s.withExtif cms none).attached.owned := by
  cases hlost : s.commsocketLost
  all_goals
    simp only [LoopState.withExtif, LoopState.attached, Manager.owned, Manager.configs,
      Mngsm.detach, Mngsm.owned, hlost, Option.map_some, Option.elim_some, Option.elim_none,
      if_true, Bool.false_eq_true, if_false]
    abel

lemma onExtif_owns {guests : List ℕ} {s : LoopState} (h : s.Steady guests) {e : LoopEvent}
    (hsame : (s.view.1 || e.losesSource, e.work s.view.2) = s.view)
    {handler : Extif → Owning Kind Extif}
    (hx : ∀ x : Extif, Owns x.owned (handler x) (fun x' R => R = x'.owned) E) :
    Owns s.attached.owned (s.onExtif handler) (Dispatched guests s e) E := by
  have hkeep : Owns s.attached.owned (pure s) (Dispatched guests s e) E :=
    Owns.pure ⟨rfl, h, hsame.symm⟩
  cases hcms : s.cs.cms with
  | none => simpa only [LoopState.onExtif, hcms] using hkeep
  | some cms =>
    cases hextif : cms.cmExtIf with
    | none => simpa only [LoopState.onExtif, hcms, hextif] using hkeep
    | some x =>
      simp only [LoopState.onExtif, hcms, hextif]
      have hs : s = s.withExtif cms (some x) := by rw [LoopState.withExtif, ← hextif, ← hcms]
      have howned : s.attached.owned = x.owned + (s.withExtif cms none).attached.owned :=
        (congrArg (fun s => s.attached.owned) hs).trans (extif_owned s cms x)
      apply Owns.call (hx x) howned fun _ he => he
      rintro x' _ rfl
      apply Owns.pure
      refine ⟨(extif_owned s cms x').symm, ⟨?_, h.devices, h.guests⟩, hsame.symm⟩
      simpa [hcms] using h.socket

/-- The state with this list of interfaces. -/
def LoopState.withNllist (s : LoopState) (ddm : DeviceManager) (l : Option InterfaceList) :
    LoopState :=
  { s with cs := { s.cs with ddm := some { ddm with nllist := l } } }

lemma nllist_owned (s : LoopState) (ddm : DeviceManager) (l : InterfaceList) :
    (s.withNllist ddm (some l)).attached.owned =
      entries l + (s.withNllist ddm none).attached.owned := by
  simp only [LoopState.withNllist, LoopState.attached, Manager.owned, Manager.configs,
    DeviceManager.owned, Option.map_some, Option.elim_some, Option.elim_none]
  abel

/-- The state with these monitors. -/
def LoopState.withMonitors (s : LoopState) (m : Monitors) : LoopState :=
  { s with cs := { s.cs with monitors := m } }

lemma monitors_owned (s : LoopState) (m : Monitors) :
    (s.withMonitors m).attached.owned = m.owned + (s.withMonitors {}).attached.owned := by
  simp only [LoopState.withMonitors, LoopState.attached, Manager.owned, Manager.configs,
    Monitors.owned_empty]
  abel

lemma sources_cons (source : ℕ) (l : List ℕ) :
    sources (source :: l) = {(Kind.pidfdSource, source)} + sources l := by
  rw [sources, List.map_cons, List.sum_cons, ← sources]

lemma sources_append (l l' : List ℕ) : sources (l ++ l') = sources l + sources l' := by
  rw [sources, List.map_append, List.sum_append, ← sources, ← sources]

lemma sources_split (i : ℕ) (l : List (ℕ × ℕ)) :
    sources (l.map Prod.snd) = sources ((l.filter fun p => p.1 = i).map Prod.snd) +
      sources ((l.filter fun p => p.1 ≠ i).map Prod.snd) := by
  induction l with
  | nil => rfl
  | cons p l ih =>
    rw [List.map_cons, sources_cons, ih]
    by_cases h : p.1 = i
    · rw [List.filter_cons_of_pos (by simpa using h), List.filter_cons_of_neg (by simpa using h),
        List.map_cons, sources_cons, add_assoc]
    · rw [List.filter_cons_of_neg (by simpa using h), List.filter_cons_of_pos (by simpa using h),
        List.map_cons, sources_cons, add_left_comm]

lemma filter_fst (i : ℕ) (l : List (ℕ × ℕ)) :
    (l.filter fun p => p.1 ≠ i).map Prod.fst = (l.map Prod.fst).filter fun j => j ≠ i := by
  rw [List.filter_map]
  rfl

/-- The new source may overwrite one. -/
lemma watch_owned (m : Monitors) (i source : ℕ) :
    (m.watch i source).owned = {(Kind.pidfdSource, source)} + m.owned := by
  simp only [Monitors.owned, Monitors.watch, List.map_cons, sources_cons, sources_append]
  rw [sources_split i m.pidfdSource]
  abel

lemma watch_watches (m : Monitors) (i source : ℕ) :
    (m.watch i source).watches = {
      guests := i :: m.watches.guests.filter fun j => j ≠ i
      overwritten := m.watches.guests.count i + m.watches.overwritten
      pidfds := m.watches.pidfds } := by
  have hcount : (m.pidfdSource.filter fun p => p.1 = i).length =
      (m.pidfdSource.map Prod.fst).count i := by
    rw [List.count, List.countP_map, List.countP_eq_length_filter]
    rfl
  simp only [Monitors.watches, Monitors.watch, List.map_cons, filter_fst, List.length_append,
    List.length_map, hcount]

lemma monitorAddguest_owns (cs : Manager) (start : ℕ × MonitorSys) :
    Owns cs.monitors.owned (containerMonitorAddguest cs start)
      (fun cs' R => R = cs'.monitors.owned ∧ cs' = { cs with monitors := cs'.monitors } ∧
        cs'.monitors.watches = cs.monitors.watches.start start) E := by
  apply Owns.ite
  · intro hpidfd
    exact Owns.pure ⟨rfl, rfl, by rw [Watches.start, if_pos hpidfd]⟩
  intro hpidfd
  apply Owns.acquire
  intro pidfd
  have howned : {(Kind.pidfd, pidfd)} + cs.monitors.owned =
      { cs.monitors with pidfds := pidfd :: cs.monitors.pidfds }.owned := by
    simp only [Monitors.owned, List.map_cons, List.sum_cons]
    abel
  rw [howned]
  apply Owns.ite
  · intro hio
    refine Owns.pure ⟨rfl, rfl, ?_⟩
    rw [Watches.start, if_neg hpidfd, if_pos hio]
    rfl
  intro hio
  apply Owns.acquire
  intro source
  refine Owns.pure ⟨(watch_owned _ _ _).symm, rfl, ?_⟩
  rw [Watches.start, if_neg hpidfd, if_neg hio, watch_watches]
  rfl

lemma monitorPidfdHandler_owns (cs : Manager) (i : ℕ) (sent : Bool) :
    Owns cs.monitors.owned (containerMonitorPidfdHandler cs i sent)
      (fun cs' R => R = cs'.monitors.owned ∧ cs' = { cs with monitors := cs'.monitors } ∧
        cs'.monitors.watches = if sent then cs.monitors.watches.report i else cs.monitors.watches)
      E := by
  apply Owns.ite
  · intro hno
    exact Owns.pure ⟨rfl, rfl, by rw [if_neg hno]⟩
  intro hsent
  have hrelease := Owns.forM_release (E := E)
    (fun p : ℕ × ℕ => Owns.release_last Kind.pidfdSource p.2)
    (cs.monitors.pidfdSource.filter fun p => p.1 = i)
  have howned : cs.monitors.owned =
      ((cs.monitors.pidfdSource.filter fun p => p.1 = i).map fun p =>
        {(Kind.pidfdSource, p.2)}).sum +
      { cs.monitors with
        pidfdSource := cs.monitors.pidfdSource.filter fun p => p.1 ≠ i }.owned := by
    rw [Monitors.owned, sources_split i, Monitors.owned, sources, List.map_map,
      Function.comp_def]
    abel
  apply Owns.call hrelease howned fun _ he => he
  rintro _ _ rfl
  rw [zero_add]
  refine Owns.pure ⟨rfl, rfl, ?_⟩
  rw [if_pos (not_not.mp hsent)]
  simp only [Monitors.watches, Watches.report, filter_fst]

/-- What is done to the monitors only leaves the rest as it is. -/
lemma onMonitors_owns {guests : List ℕ} {s : LoopState} (h : s.Steady guests) {e : LoopEvent}
    {step : Owning Kind Manager} {w : Watches}
    (hwork : (s.view.1 || e.losesSource, e.work s.view.2) =
      (s.view.1, { s.view.2 with watches := w }))
    (hstep : Owns s.cs.monitors.owned step (fun cs' R => R = cs'.monitors.owned ∧
      cs' = { s.cs with monitors := cs'.monitors } ∧ cs'.monitors.watches = w) E) :
    Owns s.attached.owned (do
      let cs ← step
      pure { s with cs := cs }) (Dispatched guests s e) E := by
  apply Owns.call hstep (monitors_owned s s.cs.monitors) fun _ he => he
  rintro cs' _ ⟨rfl, hcs, rfl⟩
  have hs : { s with cs := cs' } = s.withMonitors cs'.monitors := by
    rw [LoopState.withMonitors, ← hcs]
  rw [hs]
  apply Owns.pure
  refine ⟨(monitors_owned s cs'.monitors).symm, ⟨h.socket, h.devices, h.guests⟩, ?_⟩
  rw [hwork]
  rfl

/-- Every handler keeps what is live to what the attached pointers own. -/
lemma dispatch_owns {guests : List ℕ} (s : LoopState) (e : LoopEvent) (h : s.Steady guests) :
    Owns s.attached.owned (s.dispatch e) (Dispatched guests s e) E := by
  cases e with
  | commsocketError =>
    apply Owns.ite
    · intro hlost
      exact Owns.pure ⟨rfl, h, by simp [LoopState.view, LoopEvent.losesSource, hlost]; rfl⟩
    intro hlost
    apply Owns.call (disableUnref_owns _ _ _) (commsocketError_owned s (by simpa using hlost))
      fun _ he => he
    rintro _ _ rfl
    rw [zero_add]
    exact Owns.pure ⟨rfl, ⟨h.socket, h.devices, h.guests⟩, by
      simp [LoopState.view, LoopEvent.losesSource]; rfl⟩
  | udevError =>
    apply Owns.ite
    · intro hlost
      exact Owns.pure ⟨rfl, h, by simp [LoopState.view, LoopEvent.losesSource, hlost]; rfl⟩
    intro hlost
    apply Owns.call (Owns.releaseOpt _ _) (udevError_owned s (by simpa using hlost))
      fun _ he => he
    rintro _ _ rfl
    rw [zero_add]
    exact Owns.pure ⟨rfl, ⟨h.socket, h.devices, h.guests⟩, by
      simp [LoopState.view, LoopEvent.losesSource]; rfl⟩
  | netlinkError =>
    apply Owns.ite
    · intro hlost
      exact Owns.pure ⟨rfl, h, by simp [LoopState.view, LoopEvent.losesSource, hlost]; rfl⟩
    intro hlost
    apply Owns.call (Owns.releaseOpt _ _) (netlinkError_owned s (by simpa using hlost))
      fun _ he => he
    rintro _ _ rfl
    rw [zero_add]
    exact Owns.pure ⟨rfl, ⟨h.socket, h.devices, h.guests⟩, by
      simp [LoopState.view, LoopEvent.losesSource]; rfl⟩
  | link m malloc =>
    obtain ⟨ddm, hddm, hattached⟩ := h.devices
    obtain ⟨l, hl⟩ := Option.ne_none_iff_exists'.mp hattached.nllist
    have hs : s = s.withNllist ddm (some l) := by
      rw [LoopState.withNllist, ← hl, ← Option.mem_def.mp hddm]
    have howned : s.attached.owned = entries l + (s.withNllist ddm none).attached.owned :=
      (congrArg (fun s => s.attached.owned) hs).trans (nllist_owned s ddm l)
    simp only [LoopState.dispatch, Option.mem_def.mp hddm, hl, Option.getD_some]
    apply Owns.ite
    · exact fun _ => Owns.pure ⟨rfl, h, by simp [LoopEvent.losesSource]; rfl⟩
    intro _
    apply Owns.call (dataCb_owns l (m, malloc)) howned fun _ he => he
    rintro l' _ ⟨rfl, -⟩
    apply Owns.pure
    refine ⟨(nllist_owned s ddm l').symm, ⟨h.socket, ⟨_, rfl, ?_⟩, h.guests⟩, ?_⟩
    · exact ⟨⟨hattached.ddu, hattached.netifmon, by simp⟩, hattached.udevSource,
        hattached.netlinkSource⟩
    · simp [LoopState.view, LoopEvent.losesSource]
      rfl
  | incoming sys =>
    apply onExtif_owns h (by simp [LoopEvent.losesSource]; rfl)
    intro x
    apply Owns.ite
    · exact fun _ => Owns.pure rfl
    · exact fun _ => externalInterfaceIncoming_owns sys x
  | session =>
    exact onExtif_owns h (by simp [LoopEvent.losesSource]; rfl) externalInterfaceSessions_owns
  | worker i wq =>
    apply Owns.pure
    refine ⟨?_, ⟨h.socket, h.devices, h.guests⟩, ?_⟩
    · simp [LoopState.attached, Manager.work, Manager.owned, Manager.configs]
    · simp [LoopState.view, LoopEvent.losesSource, Manager.work]
      rfl
  | start i sys =>
    exact onMonitors_owns h (by simp [LoopEvent.losesSource]; rfl)
      (monitorAddguest_owns s.cs (i, sys))
  | pidfd i sent =>
    apply onMonitors_owns h _ (monitorPidfdHandler_owns s.cs i sent)
    cases sent <;> simp [LoopEvent.losesSource] <;> rfl

/-- What an event does to the view. -/
def LoopEvent.next (v : Bool × GuestState) (e : LoopEvent) : Bool × GuestState :=
  (v.1 || e.losesSource, e.work v.2)

/-- In the whole loop, what is live is what the attached pointers own. -/
lemma loop_owns {guests : List ℕ} {s : LoopState} (h : s.Steady guests)
    (events : List LoopEvent) :
    Owns s.attached.owned (events.foldlM LoopState.dispatch s)
      (fun s' R => R = s'.attached.owned ∧ s'.Steady guests ∧
        s'.view = events.foldl LoopEvent.next s.view) E :=
  Owns.foldlM_view (I := LoopState.Steady guests) (V := LoopState.view) (N := LoopEvent.next)
    dispatch_owns events h

/-! ### The end of the process -/

/-- The kinds of what `create_container_configs` makes. -/
def configKinds : List Kind :=
  [.containers, .managerConfig, .guestArray, .guestConfig, .role, .roleName, .roleElem]

lemma Manager.configs_lacks {k : Kind} (h : k ∉ configKinds) (cs : Manager) :
    Lacks k cs.configs := by
  simp only [configKinds, List.mem_cons, List.not_mem_nil, or_false, not_or] at h
  simp [Manager.configs, guestConfigs, roles, Role.owned, elems, h]

/-- The kinds of what the state machine owns. -/
def mngsmKinds : List Kind :=
  [.mngsm, .procutil, .socketSource, .primaryFd, .secondaryFd, .timerSource, .extif,
    .serverSource, .serverFd, .sessionSource, .sessionFd]

lemma Mngsm.lacks {k : Kind} (h : k ∉ mngsmKinds) (cms : Mngsm) : Lacks k cms.owned := by
  simp only [mngsmKinds, List.mem_cons, List.not_mem_nil, or_false, not_or] at h
  simp [Mngsm.owned, Extif.owned, sourceOwned, h]

lemma Monitors.lacks {k : Kind} (h : k ≠ .pidfdSource) (h' : k ≠ .pidfd) (m : Monitors) :
    Lacks k m.owned := by
  simp [Monitors.owned, sources, h, h']

section Dangling

variable {P G : Resources} {Q : Unit → Resources → Prop}

lemma netifmonitorCleanup_dangling {ddm : DeviceManager} (h : ddm.Attached)
    (hG : Lacks .netlinkSource G) (hE : E .dangling) :
    Runs (ddm.nllist.elim 0 entries + G) (netifmonitorCleanup ddm) Q E := by
  obtain ⟨l, hl⟩ := Option.ne_none_iff_exists'.mp h.nllist
  obtain ⟨nfm, hnfm⟩ := Option.ne_none_iff_exists'.mp h.netifmon
  obtain ⟨id, hid⟩ : ∃ id, nfm.ifmonitorSource = some id := by
    simpa [hnfm, Option.ne_none_iff_exists'] using h.netlinkSource
  simp only [netifmonitorCleanup, hl, hnfm, hid, deref, pure_bind, Option.elim_some]
  apply (releaseEntries_owns l).run rfl fun _ he => he
  rintro _ _ rfl
  rw [zero_add]
  apply Runs.bind
  exact Runs.dangling (hG id) hE

lemma udevCleanup_dangling {ddm : DeviceManager} (h : ddm.Attached) (hP : Lacks .udevSource P)
    (hE : E .dangling) : Runs P (deviceControlDynamicUdevCleanup ddm) Q E := by
  obtain ⟨ddu, hddu⟩ := Option.ne_none_iff_exists'.mp h.ddu
  obtain ⟨id, hid⟩ : ∃ id, ddu.libudevSource = some id := by
    simpa [hddu, Option.ne_none_iff_exists'] using h.udevSource
  simp only [deviceControlDynamicUdevCleanup, hddu, hid, deref, pure_bind]
  apply Runs.bind
  exact Runs.dangling (hP id) hE

lemma commsocketCleanup_dangling {cms : Mngsm} (h : cms.socketSource ≠ none)
    (hP : Lacks .socketSource P) (hE : E .dangling) :
    Runs P (containerMngsmCommsocketCleanup cms) Q E := by
  obtain ⟨s, hs⟩ := Option.ne_none_iff_exists'.mp h
  simp only [containerMngsmCommsocketCleanup, hs, disableUnref]
  apply Runs.bind
  apply Runs.bind
  exact Runs.dangling (hP s.self) hE

end Dangling

/-- The source of the internal socket is released again. -/
lemma containerMngsmCleanup_dangling (cs : Manager) {cms : Mngsm} (hcms : cs.cms = some cms)
    (hsocket : cms.socketSource ≠ none) (event : ℕ) {Q : Unit → Resources → Prop}
    (hE : E .dangling) :
    Runs (one .controlInterface cs.cci + ((cms.detach true).owned +
      (cs.configs + (cs.monitors.owned + {(.event, event)})))) (containerMngsmCleanup cs) Q E := by
  have hsplit : (cms.detach true).owned +
        (cs.configs + (cs.monitors.owned + {(Kind.event, event)})) =
      cms.cmExtIf.elim 0 Extif.owned + (one .timerSource cms.timerSource +
        ({(Kind.mngsm, cms.self)} + one .procutil cms.prutl + one .secondaryFd cms.secondaryFd +
          (cs.configs + (cs.monitors.owned + {(Kind.event, event)})))) := by
    simp only [Mngsm.detach, if_true, Mngsm.owned, sourceOwned_none]
    abel
  rw [hsplit]
  apply (Owns.releaseOpt _ _).run rfl fun _ he => he
  rintro _ _ rfl
  rw [zero_add, hcms]
  apply Runs.bind
  apply (externalInterfaceCleanup_owns cms).run rfl fun _ he => he
  rintro _ _ rfl
  rw [zero_add]
  apply (Owns.releaseOpt _ _).run rfl fun _ he => he
  rintro _ _ rfl
  rw [zero_add]
  apply Runs.bind
  apply commsocketCleanup_dangling hsocket _ hE
  simp only [lacks_add, lacks_singleton, lacks_one]
  exact ⟨⟨⟨by decide, by simp⟩, by simp⟩, cs.configs_lacks (by decide),
    cs.monitors.lacks (by decide) (by decide), by decide⟩

/-- After a source was lost, the end of `main` releases it again. -/
lemma cleanupManager_lost {guests : List ℕ} {s : LoopState} (h : s.Steady guests)
    (hlost : s.view.1 = true) (event : ℕ) {Q : Unit → Resources → Prop} (hE : E .dangling) :
    Runs ({(.event, event)} + s.attached.owned) (cleanupManager (some s.cs)) Q E := by
  obtain ⟨ddm, hddm, hattached⟩ := h.devices
  have hddm : s.cs.ddm = some ddm := hddm
  obtain ⟨cms, hcms⟩ : ∃ cms, s.cs.cms = some cms := by
    have hsocket := h.socket
    cases hcms : s.cs.cms with
    | none => simp [hcms] at hsocket
    | some cms => exact ⟨cms, rfl⟩
  have hsocket : cms.socketSource ≠ none := by simpa [hcms] using h.socket
  obtain ⟨ddu, hddu⟩ := Option.ne_none_iff_exists'.mp hattached.ddu
  obtain ⟨nfm, hnfm⟩ := Option.ne_none_iff_exists'.mp hattached.netifmon
  have hlive : {(Kind.event, event)} + s.attached.owned =
      ddm.nllist.elim 0 entries + ((nfm.detach s.netlinkLost).owned +
        ((ddu.detach s.udevLost).owned + ({(Kind.deviceManager, ddm.self)} +
          (one .controlInterface s.cs.cci + ((cms.detach s.commsocketLost).owned +
            (s.cs.configs + (s.cs.monitors.owned + {(Kind.event, event)}))))))) := by
    simp only [LoopState.attached, Manager.owned, Manager.configs, DeviceManager.owned, hcms, hddm,
      hddu, hnfm, Option.map_some, Option.elim_some]
    abel
  rw [hlive]
  simp only [cleanupManager, devcDeviceManagerCleanup, hddm]
  apply Runs.bind
  cases hnetlink : s.netlinkLost with
  | true =>
    apply Runs.bind
    apply netifmonitorCleanup_dangling hattached _ hE
    simp only [lacks_add, lacks_singleton]
    refine ⟨?_, ?_, by decide, ?_, Mngsm.lacks (by decide) _, s.cs.configs_lacks (by decide),
      s.cs.monitors.lacks (by decide) (by decide), by decide⟩
    · simp [Netifmon.detach, Netifmon.owned]
    · simp [DynamicUdev.owned]
    · simp
  | false =>
    have hnetif : Owns (ddm.nllist.elim 0 entries + (nfm.detach false).owned)
        (netifmonitorCleanup ddm) (fun _ R => R = 0) E := by
      have hcleanup := netifmonitorCleanup_owns (E := E) ddm hattached.toComplete
      rwa [hnfm, Option.elim_some, add_comm] at hcleanup
    rw [← add_assoc]
    apply hnetif.run rfl fun _ he => he
    rintro _ _ rfl
    rw [zero_add]
    cases hudev : s.udevLost with
    | true =>
      apply Runs.bind
      apply udevCleanup_dangling hattached _ hE
      simp only [lacks_add, lacks_singleton]
      refine ⟨?_, by decide, ?_, Mngsm.lacks (by decide) _, s.cs.configs_lacks (by decide),
        s.cs.monitors.lacks (by decide) (by decide), by decide⟩
      · simp [DynamicUdev.detach, DynamicUdev.owned]
      · simp
    | false =>
      have hcommsocket : s.commsocketLost = true := by
        simpa [LoopState.view, hnetlink, hudev] using hlost
      have hudevOwns : Owns (ddu.detach false).owned (deviceControlDynamicUdevCleanup ddm)
          (fun _ R => R = 0) E := by
        have hcleanup := udevCleanup_owns (E := E) ddm hattached.ddu
        rwa [hddu, Option.elim_some] at hcleanup
      apply hudevOwns.run rfl fun _ he => he
      rintro _ _ rfl
      rw [zero_add]
      apply (Owns.release_last _ _).run rfl fun _ he => he
      rintro _ _ rfl
      rw [zero_add]
      apply Runs.pure
      rw [hcommsocket]
      exact containerMngsmCleanup_dangling _ hcms hsocket event hE

/-- What a cleanup of the manager leaves. -/
lemma cleanupManager_owns (cs : Manager) (h : ∀ ddm ∈ cs.ddm, ddm.Complete) :
    Owns cs.owned (cleanupManager (some cs)) (fun _ R => R = cs.left) E := by
  have howned : cs.owned = cs.ddm.elim 0 DeviceManager.owned +
      { cs with ddm := none }.owned := by
    simp only [Manager.owned, Manager.configs, Option.elim_none]
    abel
  apply Owns.call (deviceManagerCleanup_owns cs h) howned fun _ he => he
  rintro _ _ ⟨rfl, rfl⟩
  rw [zero_add]
  exact containerMngsmCleanup_owns _ rfl

/-! ### The process -/

namespace MainSys

variable (sys : MainSys)

/-- `main` comes to the setup of the device manager. -/
def Prepares : Prop := sys.eventDefault ∧ sys.setup.Ok ∧ sys.interface

instance : Decidable sys.Prepares := inferInstanceAs (Decidable (_ ∧ _))

/-- A text of the configs is null, or the device manager was allocated, and a later step of its
setup fails. -/
def ReadsNull : Prop :=
  sys.eventDefault ∧ sys.setup.configs.ReadsNull ∨
    sys.Prepares ∧ sys.devices.malloc ∧ ¬ sys.devices.Ok

/-- `main` comes to the start of the guests. -/
def Starts : Prop :=
  sys.Prepares ∧ sys.devices.Ok ∧ sys.earlyDevice ∧ sys.signal ∧ sys.watchdog

instance : Decidable sys.Starts := inferInstanceAs (Decidable (_ ∧ _))

/-- `main` comes to the event loop. -/
def Loops : Prop := sys.Starts ∧ sys.start ∧ sys.delayed

/-- In the event loop, a handler unreferences its own source. -/
def LosesSource : Prop := sys.Loops ∧ ∃ e ∈ sys.events, e.losesSource = true

/-- The guests when their start ended. -/
def startedGuests : GuestState where
  workqueue :=
    sys.started.foldl (fun f w => Function.update f w.1 w.2) sys.setup.configs.workqueues
  watches := sys.monitored.foldl Watches.start {}

/-- The guests when `main` ends. -/
def guestState : GuestState :=
  if ¬ sys.Starts then ⟨sys.setup.configs.workqueues, {}⟩
  else if ¬ (sys.start ∧ sys.delayed) then sys.startedGuests
  else sys.events.foldl (fun g e => e.work g) sys.startedGuests

/-- The number of guests whose worker runs when `main` ends. -/
def running : ℕ :=
  (List.range sys.setup.configs.guestCount).countP fun i =>
    (sys.guestState.workqueue i).status = .started

/-- What is never released, when the path of the config directory is empty. -/
def leaked : Multiset Kind := if sys.eventDefault then sys.setup.configs.leaked else 0

end MainSys

/-- The kinds of what the monitors have. -/
def Watches.kinds (w : Watches) : Multiset Kind :=
  Multiset.replicate (w.guests.length + w.overwritten) .pidfdSource +
    Multiset.replicate w.pidfds .pidfd

/-- The guests from the position on whose worker runs. -/
lemma running_count (f : ℕ → Workqueue) (l : List ℕ) (k : ℕ) :
    ((l.zipIdx k).map fun g : ℕ × ℕ =>
      if (f g.2).status = .started then {(Kind.guestConfig, g.1)} else (0 : Resources)).sum.map
        Prod.fst =
      Multiset.replicate ((List.range' k l.length).countP fun i => (f i).status = .started)
        Kind.guestConfig := by
  induction l generalizing k with
  | nil => rfl
  | cons cc l ih =>
    rw [List.zipIdx_cons, List.map_cons, List.sum_cons, Multiset.map_add, ih, List.length_cons,
      List.range'_succ, List.countP_cons]
    by_cases h : (f k).status = .started
    · simp [h, Multiset.replicate_succ]
    · simp [h]

lemma running_kinds (cs : Manager) :
    cs.running.map Prod.fst = Multiset.replicate
      ((List.range cs.guests.length).countP fun i => (cs.workqueue i).status = .started)
      Kind.guestConfig := by
  rw [List.range_eq_range']
  exact running_count cs.workqueue cs.guests 0

lemma sources_kinds (l : List ℕ) :
    (sources l).map Prod.fst = Multiset.replicate l.length Kind.pidfdSource := by
  induction l with
  | nil => rfl
  | cons source l ih =>
    rw [sources_cons, Multiset.map_add, ih, List.length_cons, Multiset.replicate_succ]
    rfl

lemma pidfds_kinds (l : List ℕ) :
    (l.map fun pidfd => ({(Kind.pidfd, pidfd)} : Resources)).sum.map Prod.fst =
      Multiset.replicate l.length Kind.pidfd := by
  induction l with
  | nil => rfl
  | cons pidfd l ih => simp [ih, Multiset.replicate_succ]

lemma monitors_kinds (m : Monitors) : m.owned.map Prod.fst = m.watches.kinds := by
  simp only [Monitors.owned, Monitors.watches, Watches.kinds, Multiset.map_add, sources_kinds,
    pidfds_kinds, List.length_map, Multiset.replicate_add]

lemma foldl_work (ws : List (ℕ × Workqueue)) (cs : Manager) :
    ws.foldl Manager.work cs =
      { cs with workqueue := ws.foldl (fun f w => Function.update f w.1 w.2) cs.workqueue } := by
  induction ws generalizing cs with
  | nil => rfl
  | cons w ws ih => rw [List.foldl_cons, ih]; rfl

lemma foldl_view (events : List LoopEvent) (v : Bool × GuestState) :
    events.foldl LoopEvent.next v =
      (v.1 || events.any LoopEvent.losesSource, events.foldl (fun g e => e.work g) v.2) := by
  induction events generalizing v with
  | nil => simp
  | cons e events ih =>
    rw [List.foldl_cons, ih, List.any_cons, List.foldl_cons, LoopEvent.next, Bool.or_assoc]

/-- The end of `main`: what is left. -/
def MainSys.Leaves (sys : MainSys) (R : Resources) : Prop :=
  ¬ sys.ReadsNull ∧ ¬ sys.LosesSource ∧
    R.map Prod.fst = sys.leaked + Multiset.replicate sys.running Kind.guestConfig +
      sys.guestState.watches.kinds

/-- The end of `main` by a fault. -/
def MainSys.FaultsWith (sys : MainSys) (f : Fault) : Prop :=
  f = .null ∧ sys.ReadsNull ∨ f = .dangling ∧ sys.LosesSource

section Ends

variable {sys : MainSys}

/-- Before the start of the guests, no worker runs. -/
lemma running_zero (h : ¬ sys.Starts) : sys.running = 0 := by
  simp [MainSys.running, MainSys.guestState, h, workqueues_idle]

/-- Before the start of the guests, there are no monitors. -/
lemma watches_zero (h : ¬ sys.Starts) : sys.guestState.watches.kinds = 0 := by
  simp [MainSys.guestState, h, Watches.kinds]

lemma leaked_zero (h : sys.setup.Ok) : sys.leaked = 0 := by
  simp [MainSys.leaked, h.1.leaked]

lemma starts_not_readsNull (h : sys.Starts) : ¬ sys.ReadsNull := by
  rintro (⟨-, hnull⟩ | ⟨-, -, hno⟩)
  · exact h.1.2.1.1.not_readsNull hnull
  · exact hno h.2.1

/-- What is left are the monitors, and configs of guests whose worker runs. -/
lemma leaves_left (hnull : ¬ sys.ReadsNull) (hlost : ¬ sys.LosesSource) (hsetup : sys.setup.Ok)
    {cs : Manager} (hguests : cs.guests.length = sys.setup.configs.guestCount)
    (hstate : cs.guestState = sys.guestState) : sys.Leaves cs.left := by
  refine ⟨hnull, hlost, ?_⟩
  have hwork : cs.workqueue = sys.guestState.workqueue := by rw [← hstate]; rfl
  have hwatches : cs.monitors.watches = sys.guestState.watches := by rw [← hstate]; rfl
  rw [Manager.left, Multiset.map_add, running_kinds, monitors_kinds, hguests, hwork, hwatches,
    leaked_zero hsetup, zero_add]
  rfl

/-- The end of `main` when no source was lost. -/
lemma finish_owns (event : ℕ) (cs : Manager) (h : ∀ ddm ∈ cs.ddm, ddm.Complete) (result : ℤ) :
    Owns ({(.event, event)} + cs.owned) (finish event (some cs) result)
      (fun _ R => R = cs.left) E := by
  apply Owns.call (cleanupManager_owns cs h) (add_comm _ _) fun _ he => he
  rintro _ _ rfl
  apply Owns.release (add_comm _ _)
  exact Owns.pure rfl

/-- The starts of the guests change the monitors only. -/
lemma monitored_owns (starts : List (ℕ × MonitorSys)) (cs : Manager) :
    Owns cs.owned (starts.foldlM containerMonitorAddguest cs)
      (fun cs' R => R = cs'.owned ∧ cs' = { cs with monitors := cs'.monitors } ∧
        cs'.monitors.watches = starts.foldl Watches.start cs.monitors.watches) E := by
  apply Owns.foldlM_view (I := fun cs' : Manager => cs' = { cs with monitors := cs'.monitors })
    (V := fun cs' => cs'.monitors.watches) _ starts rfl
  intro s start hs
  have howned (m : Monitors) : { s with monitors := m }.owned =
      m.owned + { s with monitors := {} }.owned := by
    simp only [Manager.owned, Manager.configs, Monitors.owned_empty]
    abel
  apply (monitorAddguest_owns s start).last (howned s.monitors) fun _ he => he
  rintro s' _ ⟨rfl, hs', hwatches⟩
  refine ⟨?_, ?_, hwatches⟩
  · rw [← howned s'.monitors, ← hs']
  · rw [hs', hs]

/-- The end of `main` after the guests were started. -/
lemma startAndLoop_runs (hstarts : sys.Starts) (event : ℕ) {cs : Manager}
    (hguests : cs.guests.length = sys.setup.configs.guestCount)
    (hstate : cs.guestState = ⟨sys.setup.configs.workqueues, {}⟩)
    (hsocket : cs.cms.bind Mngsm.socketSource ≠ none) (hddm : ∃ ddm ∈ cs.ddm, ddm.Attached) :
    Runs ({(.event, event)} + cs.owned) (startAndLoop sys event cs) (fun _ R => sys.Leaves R)
      sys.FaultsWith := by
  have hnull : ¬ sys.ReadsNull := starts_not_readsNull hstarts
  have hsetup : sys.setup.Ok := hstarts.1.2.1
  have hcomplete {cs : Manager} (h : ∃ ddm ∈ cs.ddm, ddm.Attached) :
      ∀ ddm ∈ cs.ddm, ddm.Complete := by
    obtain ⟨d, hd, hattached⟩ := h
    intro ddm hddm
    obtain rfl : d = ddm := Option.mem_unique hd hddm
    exact hattached.toComplete
  have hwork : cs.workqueue = sys.setup.configs.workqueues := congrArg GuestState.workqueue hstate
  have hwatches : cs.monitors.watches = {} := congrArg GuestState.watches hstate
  have howned : cs.owned = (sys.started.foldl Manager.work cs).owned := by
    rw [foldl_work]
    rfl
  rw [howned]
  apply (monitored_owns sys.monitored _).run (add_comm _ _) fun _ he => he
  rintro cs' _ ⟨rfl, hcs', hmonitors⟩
  rw [foldl_work] at hcs' hmonitors
  replace hguests : cs'.guests.length = sys.setup.configs.guestCount := by rwa [hcs']
  replace hstate : cs'.guestState = sys.startedGuests := by
    rw [Manager.guestState, hmonitors, hwatches, hcs', hwork]
    rfl
  replace hsocket : cs'.cms.bind Mngsm.socketSource ≠ none := by rwa [hcs']
  replace hddm : ∃ ddm ∈ cs'.ddm, ddm.Attached := by rwa [hcs']
  clear hcs' hmonitors
  apply Runs.ite
  · intro hno
    rw [add_comm]
    apply (finish_owns event cs' (hcomplete hddm) (-1)).runs.mono _ fun _ he => he
    rintro _ _ rfl
    apply leaves_left hnull (fun h => hno h.1.2) hsetup hguests
    rw [hstate, MainSys.guestState, if_neg (not_not.mpr hstarts), if_pos hno]
  intro hyes
  have hloops : sys.Loops := ⟨hstarts, not_not.mp hyes⟩
  have hsteady : LoopState.Steady cs'.guests { cs := cs' } := ⟨hsocket, hddm, rfl⟩
  have hloop := loop_owns (E := sys.FaultsWith) hsteady sys.events
  rw [attached_eq rfl rfl rfl] at hloop
  apply hloop.run rfl fun _ he => he
  rintro s' _ ⟨rfl, hs', hview⟩
  rw [foldl_view] at hview
  have hlost : s'.view.1 = sys.events.any LoopEvent.losesSource := by rw [hview]; rfl
  rw [add_comm]
  cases hany : s'.view.1 with
  | true =>
    have hloses : sys.LosesSource := by
      refine ⟨hloops, List.any_eq_true.mp ?_⟩
      rw [← hlost, hany]
    apply Runs.bind
    exact cleanupManager_lost hs' hany event (Or.inr ⟨rfl, hloses⟩)
  | false =>
    have hkeeps : ¬ sys.LosesSource := by
      intro h
      rw [hany, List.any_eq_true.mpr h.2] at hlost
      exact Bool.false_ne_true hlost
    simp only [LoopState.view, Bool.or_eq_false_iff] at hany
    rw [attached_eq hany.1.1 hany.1.2 hany.2]
    apply (finish_owns event s'.cs (hcomplete hs'.devices) _).runs.mono _ fun _ he => he
    rintro _ _ rfl
    apply leaves_left hnull hkeeps hsetup (by rw [hs'.guests, hguests])
    have hend : s'.cs.guestState = sys.events.foldl (fun g e => e.work g) cs'.guestState :=
      congrArg Prod.snd hview
    rw [hend, hstate, MainSys.guestState, if_neg (not_not.mpr hstarts), if_neg hyes]

/-- `main` ends early, before the start of the guests. -/
lemma finish_early (hnull : ¬ sys.ReadsNull) (hstarts : ¬ sys.Starts) (hsetup : sys.setup.Ok)
    (event : ℕ) {cs : Manager} (hwork : cs.workqueue = sys.setup.configs.workqueues)
    (hmonitors : cs.monitors = {}) (hddm : ∀ ddm ∈ cs.ddm, ddm.Complete) :
    Runs ({(.event, event)} + cs.owned) (finish event (some cs) (-1)) (fun _ R => sys.Leaves R)
      sys.FaultsWith := by
  apply (finish_owns event cs hddm (-1)).runs.mono _ fun _ he => he
  rintro _ _ rfl
  refine ⟨hnull, fun h => hstarts h.1.1, ?_⟩
  rw [Manager.left, running_idle hwork, hmonitors, running_zero hstarts, watches_zero hstarts,
    leaked_zero hsetup]
  rfl

lemma interfaceGet_owns (malloc : Bool) (cs : Manager) (h : cs.cci = none) :
    Owns cs.owned (containerMngsmInterfaceGet malloc cs)
      (fun r R => R = r.1.owned ∧ (∃ p, r.1 = { cs with cci := p }) ∧
        (r.2 < 0 ∧ malloc = false ∨ r.2 = 0 ∧ malloc = true)) E := by
  apply Owns.ite
  · intro hno
    exact Owns.pure ⟨rfl, ⟨none, by rw [← h]⟩, Or.inl ⟨by simp, by simpa using hno⟩⟩
  intro hmalloc
  apply Owns.acquire
  intro cci
  apply Owns.pure
  refine ⟨?_, ⟨_, rfl⟩, Or.inr ⟨rfl, not_not.mp hmalloc⟩⟩
  simp only [Manager.owned, Manager.configs, h, one_none, one_some]
  abel

lemma main_runs (sys : MainSys) :
    Runs 0 (main sys) (fun _ R => sys.Leaves R) sys.FaultsWith := by
  apply Runs.ite
  · intro hno
    have hstarts : ¬ sys.Starts := fun h => hno h.1.1
    apply Runs.pure
    refine ⟨?_, fun h => hstarts h.1.1, ?_⟩
    · rintro (⟨h, -⟩ | ⟨h, -⟩)
      · exact hno h
      · exact hno h.1
    · simp [MainSys.leaked, hno, running_zero hstarts, watches_zero hstarts]
  intro hevent
  have hevent : sys.eventDefault = true := not_not.mp hevent
  apply Runs.acquire
  intro event
  apply (containerMngsmSetup_owns sys.setup).run (zero_add _).symm
  · rintro f ⟨rfl, hnull⟩
    exact Or.inl ⟨rfl, Or.inl ⟨hevent, hnull⟩⟩
  rintro r R (⟨rfl, hno, hnull, hleaked⟩ | ⟨cs, rfl, hok, rfl, hprepared⟩)
  · -- the setup of the state machine failed
    have hstarts : ¬ sys.Starts := fun h => hno h.1.2.1
    apply Runs.bind
    apply Runs.pure
    rw [add_comm, add_zero]
    apply (Owns.release_last _ _).run rfl fun _ he => he
    rintro _ _ rfl
    apply Runs.pure
    refine ⟨?_, fun h => hstarts h.1.1, ?_⟩
    · rintro (⟨-, h⟩ | ⟨h, -⟩)
      · exact hnull h
      · exact hno h.2.1
    · rw [zero_add, hleaked, running_zero hstarts, watches_zero hstarts, MainSys.leaked,
        if_pos hevent, Multiset.replicate_zero, add_zero, add_zero]
  rw [add_zero]
  -- only the setup of the device manager can read a null pointer now
  have hnull (h : ¬ (sys.Prepares ∧ sys.devices.malloc ∧ ¬ sys.devices.Ok)) : ¬ sys.ReadsNull :=
    fun hnull => hnull.elim (fun h => hok.1.not_readsNull h.2) h
  apply (interfaceGet_owns sys.interface cs hprepared.cci).run rfl fun _ he => he
  rintro r _ ⟨rfl, ⟨p, hr⟩, ⟨hneg, hno⟩ | ⟨hzero, hinterface⟩⟩
  · rw [if_pos hneg, add_comm]
    have hprepares : ¬ sys.Prepares := fun h => by simp [h.2.2] at hno
    apply finish_early (hnull fun h => hprepares h.1) (fun h => hprepares h.1) hok event
    · rw [hr, hprepared.workqueue]
    · rw [hr, hprepared.monitors]
    · simp [hr, hprepared.ddm]
  rw [if_neg (not_lt.mpr hzero.ge)]
  have hprepares : sys.Prepares := ⟨hevent, hok, hinterface⟩
  have hddm : r.1.ddm = none := by rw [hr, hprepared.ddm]
  apply (deviceManagerSetup_owns sys.devices r.1 hddm).run rfl
  · rintro f ⟨rfl, hmalloc, hno⟩
    exact Or.inl ⟨rfl, Or.inr ⟨hprepares, hmalloc, hno⟩⟩
  rintro q _ ⟨rfl, ⟨hneg, hno, hq⟩ | ⟨hzero, hdevices, ddm, hattached, hq⟩⟩
  · rw [if_pos (Or.inl hneg), add_comm]
    apply finish_early (hnull fun h => hno h.2.1) (fun h => hno h.2.1.1) hok event
    · rw [hq, hr, hprepared.workqueue]
    · rw [hq, hr, hprepared.monitors]
    · simp [hq, hddm]
  rw [add_comm]
  apply Runs.ite
  · intro hearly
    have hstarts : ¬ sys.Starts := by
      intro h
      exact hearly.elim (fun hneg => absurd hneg (not_lt.mpr hzero.ge)) fun hno => hno h.2.2
    apply finish_early (hnull fun h => h.2.2 hdevices) hstarts hok event
    · rw [hq, hr, hprepared.workqueue]
    · rw [hq, hr, hprepared.monitors]
    · rw [hq]
      rintro d hd
      obtain rfl : ddm = d := Option.some.inj hd
      exact hattached.toComplete
  intro hearly
  have hstarts : sys.Starts := ⟨hprepares, hdevices, not_not.mp (not_or.mp hearly).2⟩
  apply startAndLoop_runs hstarts event
  · rw [hq, hr, hprepared.guests]
  · rw [Manager.guestState, hq, hr, hprepared.workqueue, hprepared.monitors]
    rfl
  · obtain ⟨cms, hcms, hsocket⟩ := hprepared.socket
    rw [hq, hr, Option.mem_def.mp hcms]
    exact hsocket
  · exact ⟨ddm, by rw [hq]; rfl, hattached⟩

end Ends

/-- The configs of a single guest. -/
def clusterConfigs : ConfigsSys where
  config := {
    manager := some (.object [("configdir", .string "/opt/container/guests")])
    entries := some [.ofString "cluster.json"]
    files _ := some pathlessJson
    mutexInit _ := 0
    qsort := id
    malloc := true }
  configdir := true
  containers := true
  guestArray := true
  bind _ := ⟨true, fun _ => true, true, true, true, true⟩

/-- A session is served, an interface comes and another one goes. The guest exits and is started
again, and at the end its worker runs. -/
def clusterProcess : MainSys where
  eventDefault := true
  setup := ⟨clusterConfigs, true, ⟨true, true⟩, ⟨true, true, true⟩, ⟨true, true⟩,
    ⟨true, true, true, true, true, true⟩⟩
  interface := true
  devices := ⟨true, ⟨true, true, true, true, true, true⟩, ⟨true, true, true, true,
    ⟨true, true, true, [(⟨.newlink, 2, some "eth0"⟩, true)], true⟩⟩⟩
  earlyDevice := true
  signal := true
  watchdog := true
  start := true
  started := []
  monitored := [(0, ⟨7, 0⟩)]
  delayed := true
  events := [.incoming ⟨false, true, true, true⟩, .session, .link ⟨.newlink, 3, some "usb0"⟩ true,
    .link ⟨.dellink, 2, some "eth0"⟩ true, .pidfd 0 true, .start 0 ⟨8, 0⟩,
    .worker 0 { status := .started }]
  loop := 0

end ContainerManager.Startup

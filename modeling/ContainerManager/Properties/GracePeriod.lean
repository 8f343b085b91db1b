import ContainerManager.Parser.ContainerProperties
import ContainerManager.Properties.Consistency

/-!
# The grace period

A guest that accepted a stop is force-killed by the first cyclic event after its grace period, and
by none before. The grace period is the configured one when the parser gets as far as the lifecycle
section, the section is an object and its number survives the reading as an `int`. Without the
section it is zero.
-/

namespace ContainerManager

open Containers

variable {n : ℕ} {R : Prop} {v w : GuestView}

/-! ### The configured grace period -/

/-- The documented grace period of a lifecycle section: `timeout` when it is a positive number, else
10000. -/
def lifecyclePeriod (lifecycle : Option CJson) : ℚ :=
  ((lifecycle.bind fun lifecycle => lifecycle.getValue "timeout").filter fun q => 0 < q).getD 10000

/-- The documented grace period of a config, in milliseconds. -/
def gracePeriod (json : CJson) : ℚ :=
  lifecyclePeriod ((json.getObject "base").bind fun base => base.getObject "lifecycle")

/-- A positive `timeout` is at least 1, and in the bounds of an `int` without its fraction. -/
def TimeoutReadable (lifecycle : CJson) : Prop :=
  ∀ q ∈ lifecycle.getValue "timeout", 0 < q → 1 ≤ q ∧ q < 2147483648

/-- The parser gets to the lifecycle section of the config, and the section is an object whose
`timeout` it can read. A section that it does not get to may ask for less than a millisecond. -/
def LifecycleGiven (json : CJson) : Prop :=
  ∃ base, json.getObject "base" = some base ∧
    ((BaseComplete base ∧ ∃ lifecycle, base.getObject "lifecycle" = some lifecycle ∧
        TimeoutReadable lifecycle) ∨
      (¬ BaseComplete base ∧ lifecyclePeriod (base.getObject "lifecycle") < 1))

lemma lifecyclePeriod_pos (lifecycle : Option CJson) : 0 < lifecyclePeriod lifecycle := by
  rw [lifecyclePeriod]
  cases h : (lifecycle.bind fun lifecycle => lifecycle.getValue "timeout").filter
      fun q => 0 < q with
  | none => norm_num
  | some q => simpa using (Option.filter_eq_some_iff.mp h).2

/-- What the parser reads is the documented grace period in whole milliseconds exactly when it can
read the number. -/
lemma timeout_eq_lifecyclePeriod (lifecycle : CJson) :
    ((lifecycle.getNumber "timeout").filter fun timeout => 0 < timeout).getD 10000 =
      ⌊lifecyclePeriod (some lifecycle)⌋ ↔ TimeoutReadable lifecycle := by
  rw [CJson.getNumber, lifecyclePeriod, TimeoutReadable, Option.bind_some]
  cases lifecycle.getValue "timeout" with
  | none => simp [Int.floor_ofNat]
  | some q =>
    simp only [Option.map_some, Option.mem_some_iff, forall_eq']
    by_cases hpos : 0 < q
    · have hfloor : 0 ≤ ⌊q⌋ := Int.floor_nonneg.mpr hpos.le
      have hone : 0 < ⌊q⌋ ↔ 1 ≤ q := by rw [Int.floor_pos]
      have hmax : ⌊q⌋ ≤ 2147483647 ↔ q < 2147483648 := by
        rw [Int.floor_le_iff]
        norm_num
      rw [CJson.valueint_of_nonneg hpos.le]
      simp only [Option.filter, decide_eq_true_eq, hpos, if_true, Option.getD_some, true_imp_iff,
        ← hone, ← hmax]
      split_ifs with hread
      · rw [Option.getD_some]
        omega
      · rw [Option.getD_none]
        omega
    · have hread : ¬ 0 < CJson.valueint q := by
        have hceil : ⌈q⌉ ≤ 0 := Int.ceil_le.mpr (by exact_mod_cast not_lt.mp hpos)
        rw [CJson.valueint_of_nonpos (not_lt.mp hpos)]
        omega
      simp [Option.filter, hpos, hread, Int.floor_ofNat]

/-- The parsed grace period is the documented one exactly when the lifecycle section is reached. -/
lemma timeout_eq_gracePeriod {json : CJson} {cc : ContainerConfig}
    (h : cmparserCreateFromFile json = (some cc, 0)) :
    cc.baseconfig.lifecycle.timeout = ⌊gracePeriod json⌋ ↔ LifecycleGiven json := by
  obtain ⟨base, hb, hcc, -, -⟩ := cmparserCreateFromFile_base h
  have hperiod : gracePeriod json = lifecyclePeriod (base.getObject "lifecycle") := by
    rw [gracePeriod, hb, Option.bind_some]
  have hzero : 0 = ⌊lifecyclePeriod (base.getObject "lifecycle")⌋ ↔
      lifecyclePeriod (base.getObject "lifecycle") < 1 := by
    rw [eq_comm, Int.floor_eq_zero_iff, Set.mem_Ico]
    exact and_iff_right (lifecyclePeriod_pos _).le
  rw [hcc, cmparserParseBase_timeout, hperiod, LifecycleGiven]
  simp only [hb, Option.some.injEq, exists_eq_left', ← cmparserParseBase_eq_zero {}]
  by_cases h0 : (cmparserParseBase {} base).2 = 0
  · rw [if_pos h0]
    cases hl : base.getObject "lifecycle" with
    | none => simp [h0, lifecyclePeriod, Int.floor_ofNat]
    | some lifecycle => simp [h0, timeout_eq_lifecyclePeriod]
  · rw [if_neg h0]
    simp [h0, hzero]

/-- A guest as `create_container_configs` makes it from a config file, on a side of the A/B boot. -/
def LoadedFrom (json : CJson) (cc : ContainerConfig) : Prop :=
  ∃ parsed mutexInit abboot, cmparserCreateFromFile json = (some parsed, 0) ∧
    cc = { parsed with
      baseconfig := { parsed.baseconfig with abboot := abboot }
      workqueue := (containerWorkqueueInitialize mutexInit).1 }

/-- A loaded guest is as the start of the guests expects it. -/
lemma LoadedFrom.fresh {json : CJson} {cc : ContainerConfig} (h : LoadedFrom json cc) :
    Fresh cc := by
  obtain ⟨parsed, mutexInit, abboot, hp, rfl⟩ := h
  obtain ⟨base, -, hbase, hstat, hhist⟩ := cmparserCreateFromFile_base hp
  have hempty : BaseConfig.Unmounted {} := ⟨rfl, by simp⟩
  have hu := cmparserParseBase_unmounted hempty base
  rw [← hbase] at hu
  exact ⟨by simp [hstat], by simp [hstat], by simp [hstat], ⟨mutexInit, rfl⟩,
    ⟨hu.rootfs, hu.extradisk⟩, hhist⟩

/-! ### Histories -/

/-- The time of the last stop that the guest accepted. The history has its newest event first. -/
def lastStop : List GuestEvent → Option ℤ
  | [] => none
  | .stop now :: _ => some now
  | _ :: history => lastStop history

/-- Every force kill came after the grace period of the last stop before it. -/
def KillsLate (timeout : ℤ) : List GuestEvent → Prop
  | [] => True
  | .forcekill now :: history =>
    (∃ stop, lastStop history = some stop ∧ (0 ≤ stop → stop + timeout < now)) ∧
      KillsLate timeout history
  | _ :: history => KillsLate timeout history

lemma KillsLate.of_append {timeout : ℤ} {newer history : List GuestEvent}
    (h : KillsLate timeout (newer ++ history)) : KillsLate timeout history := by
  induction newer with
  | nil => exact h
  | cons e newer ih =>
    cases e with
    | forcekill now => exact ih h.2
    | _ => exact ih h

/-! ### The guest's machine -/

/-- The guest is going down. -/
def ContainerStatus.Leaving (status : ContainerStatus) : Prop :=
  status = .shutdown ∨ status = .reboot

/-- A guest that is going down has the deadline of its last stop. -/
structure GuestView.Graced (timeout : ℤ) (v : GuestView) : Prop where
  configured : v.base.lifecycle.timeout = timeout
  deadline : v.status.Leaving →
    ∃ stop, lastStop v.history = some stop ∧ v.timeout = (if stop < 0 then 0 else stop) + timeout
  kills : KillsLate timeout v.history

namespace GuestView

variable {T : ℤ}

/-- A move that neither stops nor kills the guest. -/
lemma Graced.of_history (h : v.Graced T) (hb : w.base.lifecycle = v.base.lifecycle)
    (hs : w.status.Leaving → v.status.Leaving ∧ w.timeout = v.timeout)
    (hl : lastStop w.history = lastStop v.history)
    (hk : KillsLate T v.history → KillsLate T w.history) : w.Graced T where
  configured := by rw [hb, h.configured]
  deadline hu := by
    obtain ⟨hv, ht⟩ := hs hu
    rw [hl, ht]
    exact h.deadline hv
  kills := hk h.kills

/-- A kill of an overdue guest comes after its grace period. -/
lemma Graced.kill (h : v.Graced T) {now : ℤ} (ho : v.Overdue now) :
    KillsLate T (.forcekill now :: v.history) := by
  obtain ⟨stop, hstop, ht⟩ := h.deadline ho.1
  refine ⟨⟨stop, hstop, fun hpos => ?_⟩, h.kills⟩
  have hlt := ho.2
  rw [ht, if_neg (not_lt.mpr hpos)] at hlt
  exact hlt

lemma Graced.request {kind : RequestKind} {s : SystemState} (h : v.Graced T)
    (he : RequestEffect kind s v w) : w.Graced T := by
  cases he with
  | idle hst =>
    refine h.of_history rfl (fun hu => ⟨?_, rfl⟩) rfl id
    cases hv : v.status <;> cases kind <;> cases s <;>
      simp_all [RequestKind.idleStatus, ContainerStatus.Leaving]
  | failed hst =>
    refine h.of_history rfl (fun hu => ?_) rfl id
    cases kind <;> cases s <;> simp [RequestKind.failedStatus, ContainerStatus.Leaving] at hu
  | accepted now hst hl =>
    exact ⟨h.configured, fun _ => ⟨now, rfl, by rw [GuestView.deadline, h.configured]⟩, h.kills⟩
  | worker now hst hs =>
    exact h.of_history rfl (fun hu => by simp [hst, ContainerStatus.Leaving] at hu) rfl id

end GuestView

lemma statusAfterExecute_not_leaving (after : ℤ) : ¬ (statusAfterExecute after).Leaving := by
  rcases statusAfterExecute_cases after with ⟨h, -⟩ | ⟨h, -⟩ <;> simp [h, ContainerStatus.Leaving]

lemma LifeStep.graced {T : ℤ} (hm : LifeStep R v w) (h : v.Graced T) : w.Graced T := by
  have hb := hm.lifecycle
  have no : ∀ {status : ContainerStatus} {P : Prop}, ¬ status.Leaving → status.Leaving → P :=
    fun hn hu => absurd hu hn
  cases hm with
  | disable =>
    exact h.of_history hb (no (by simp [GuestView.disabled, ContainerStatus.Leaving])) rfl id
  | enable =>
    exact h.of_history hb (no (by simp [GuestView.enabled, ContainerStatus.Leaving])) rfl id
  | move hm =>
    cases hm with
    | idle => exact h
    | mountFailed => exact h.of_history hb (fun hu => ⟨hu, rfl⟩) rfl id
    | launchFailed => exact h.of_history hb (no (by simp [ContainerStatus.Leaving])) rfl id
    | launched => exact h.of_history hb (no (by simp [ContainerStatus.Leaving])) rfl id
    | cleaned => exact h.of_history hb (fun hu => ⟨hu, rfl⟩) rfl id
    | workerStarted => exact h.of_history hb (no (by simp [ContainerStatus.Leaving])) rfl id
    | workerRemoved => exact h.of_history hb (no (statusAfterExecute_not_leaving _)) rfl id
    | workerCompleted => exact h.of_history hb (fun hu => ⟨hu, rfl⟩) rfl id
    | workerFinished => exact h.of_history hb (no (statusAfterExecute_not_leaving _)) rfl id
    | workerExited => exact h.of_history hb (no (by simp [ContainerStatus.Leaving])) rfl id
    | workerTimeout => exact h.of_history hb (no (by simp [ContainerStatus.Leaving])) rfl id
    | killed now hs ho =>
      refine h.of_history hb (no ?_) rfl fun _ => h.kill ho
      split_ifs <;> simp [ContainerStatus.Leaving]
    | killedAtShutdown now hs ho =>
      exact h.of_history hb (no (by simp [ContainerStatus.Leaving])) rfl fun _ => h.kill ho
    | exited =>
      refine h.of_history hb (no ?_) rfl id
      cases v.sys <;> cases v.status <;> simp [exitedStatus, ContainerStatus.Leaving]
    | requestShutdown s hs w he ret =>
      have hw := h.request he
      exact ⟨hw.configured, hw.deadline, hw.kills⟩
    | requestReboot w he => exact h.request he
    | scheduled => exact h.of_history hb (fun hu => ⟨hu, rfl⟩) rfl id

/-! ### One cyclic event -/

/-- A cyclic event at the time `now` meets a guest that is going down: it kills an overdue guest,
and leaves another one alone. -/
def ChecksDeadline (now : ℤ) (cc cc' : ContainerConfig) : Prop :=
  if cc.runtimeStat.timeout < now then
    cc'.history = .forcekill now :: cc.history ∧ cc'.runtimeStat.lxc = none ∧
      ¬ cc'.runtimeStat.status.Leaving
  else cc'.history = cc.history ∧ cc'.runtimeStat.status = cc.runtimeStat.status

lemma execRunTimeoutGuest_checks (initPid now : ℤ) {cc : ContainerConfig}
    (h : cc.runtimeStat.status.Leaving) :
    ChecksDeadline now cc (execRunTimeoutGuest initPid now cc) := by
  simp only [ChecksDeadline]
  split_ifs with ht
  · have hto : timedOut now cc := ⟨h, ht⟩
    have hv := timeoutKill_view .run initPid now cc
      (if cc.runtimeStat.status = .reboot then .dead else .notStarted)
    rw [execRunTimeoutGuest, if_pos hto]
    refine ⟨congrArg GuestView.history hv, congrArg GuestView.lxc hv, ?_⟩
    show ¬ (if cc.runtimeStat.status = .reboot then ContainerStatus.dead else .notStarted).Leaving
    split_ifs <;> simp [ContainerStatus.Leaving]
  · have hto : ¬ timedOut now cc := fun h => ht h.2
    rw [execRunTimeoutGuest, if_neg hto]
    exact ⟨rfl, rfl⟩

lemma execShutdownTimeoutGuest_checks (initPid now : ℤ) {cc : ContainerConfig}
    (h : cc.runtimeStat.status.Leaving) :
    ChecksDeadline now cc (execShutdownTimeoutGuest initPid now cc) := by
  simp only [ChecksDeadline]
  split_ifs with ht
  · have hto : timedOut now cc := ⟨h, ht⟩
    have hv := timeoutKill_view .shutdown initPid now cc .exit
    rw [execShutdownTimeoutGuest, if_pos hto]
    refine ⟨congrArg GuestView.history hv, congrArg GuestView.lxc hv, ?_⟩
    show ¬ ContainerStatus.exit.Leaving
    simp [ContainerStatus.Leaving]
  · have hto : ¬ timedOut now cc := fun h => ht h.2
    rw [execShutdownTimeoutGuest, if_neg hto, if_neg fun h => ht h.2]
    exact ⟨rfl, rfl⟩

/-- The cyclic event checks the deadline of every guest that is going down. -/
lemma containerExecInternalEvent_checks (sys : ExecSys n) {cs : Containers n}
    (hex : RoleExclusion cs) {i : Fin n} (h : (cs.containers i).runtimeStat.status.Leaving) :
    ChecksDeadline sys.now (cs.containers i)
      ((containerExecInternalEvent sys cs).containers i) := by
  have hnrun : (cs.containers i).runtimeStat.status ≠ .runWorker := by
    rcases h with h | h <;> simp [h]
  simp only [containerExecInternalEvent]
  split
  · rename_i hs
    have hen : (cs.containers i).Enabled := by
      rcases h with h | h <;> simp [ContainerConfig.Enabled, h]
    have hv : (execRunVisits sys.visit cs).containers i = cs.containers i := by
      refine execRunVisits_at sys.visit hex hs hen (Q := fun cc => cc = cs.containers i)
        (fun cc hcc => hcc ▸ hen) fun s _ _ hi => ?_
      rcases h with h | h <;> simp [execRunVisit, hi, h]
    have hc := execRunTimeoutGuest_checks (sys.initPid i) sys.now h
    have hns : (execRunTimeoutGuest (sys.initPid i) sys.now (cs.containers i)).runtimeStat.status ≠
        .started := by
      simp only [execRunTimeoutGuest, timeoutKill]
      rw [lxcutilContainerForcekill_frame]
      split_ifs
      · simp [ContainerConfig.record, ContainerConfig.setStatus]
      · simp [ContainerConfig.record, ContainerConfig.setStatus]
      · rcases h with h | h <;> simp [h]
    rw [execInternalEventRun_containers, hv, containerDoDelayedOperation, if_pos hns]
    exact hc
  · have hall : ¬ cs.AllExited := by
      intro hall
      have hi := hall i
      rcases h with h | h <;> simp [execShutdownCounted, h] at hi
    have hcheck : execShutdownCheckGuest (sys.delete i) (cs.containers i) = cs.containers i := by
      simp [execShutdownCheckGuest, hnrun]
    simp only [execInternalEventShutdown, hall, if_false, forEachGuest_containers, hcheck]
    exact execShutdownTimeoutGuest_checks (sys.initPid i) sys.now h

/-! ### Runs -/

/-- The grace period `timeout` of the guest is honoured: every force kill so far came after the
grace period of the last stop before it, and the next cyclic event kills a guest that is still going
down exactly when its grace period is over. -/
structure GraceHonoured (timeout : ℚ) (cs : Containers n) (i : Fin n) : Prop where
  notBefore : ∀ newer (now : ℤ) older,
    (cs.containers i).history = newer ++ .forcekill now :: older →
      ∃ stop : ℤ, lastStop older = some stop ∧ (0 ≤ stop → stop + timeout < now)
  after : ∀ stop : ℤ, lastStop (cs.containers i).history = some stop → 0 ≤ stop →
    (cs.containers i).runtimeStat.status.Leaving → ∀ sys : ExecSys n,
      if stop + timeout < sys.now then
        ((containerExecInternalEvent sys cs).containers i).history =
            .forcekill sys.now :: (cs.containers i).history ∧
          ((containerExecInternalEvent sys cs).containers i).runtimeStat.lxc = none ∧
          ¬ ((containerExecInternalEvent sys cs).containers i).runtimeStat.status.Leaving
      else
        ((containerExecInternalEvent sys cs).containers i).history = (cs.containers i).history ∧
          ((containerExecInternalEvent sys cs).containers i).runtimeStat.status =
            (cs.containers i).runtimeStat.status

/-- On a clock of whole milliseconds the fraction of a grace period does not matter. -/
lemma add_lt_iff_floor (stop now : ℤ) (T : ℚ) : (stop : ℚ) + T < now ↔ stop + ⌊T⌋ < now := by
  have hfloor : ⌊T⌋ < now - stop ↔ T < ((now - stop : ℤ) : ℚ) := Int.floor_lt
  rw [← lt_sub_iff_add_lt', ← Int.cast_sub, ← hfloor]
  exact lt_sub_iff_add_lt'

lemma graceHonoured_of_graced {cs : Containers n} (hex : RoleExclusion cs) {i : Fin n} {T : ℚ}
    (h : (cs.views i).Graced ⌊T⌋) : GraceHonoured T cs i where
  notBefore newer now older hh := by
    have hk : KillsLate ⌊T⌋ (cs.containers i).history := h.kills
    rw [hh] at hk
    obtain ⟨stop, hstop, hlate⟩ := hk.of_append.1
    exact ⟨stop, hstop, fun hpos => (add_lt_iff_floor _ _ _).mpr (hlate hpos)⟩
  after stop hstop hpos hl sys := by
    obtain ⟨stop', hstop', ht⟩ := h.deadline hl
    obtain rfl : stop = stop' := Option.some.inj (hstop.symm.trans hstop')
    have hto : (cs.containers i).runtimeStat.timeout = stop + ⌊T⌋ := by
      rw [if_neg (not_lt.mpr hpos)] at ht
      exact ht
    have hc := containerExecInternalEvent_checks sys hex hl
    simp only [ChecksDeadline] at hc
    rw [hto] at hc
    simpa only [add_lt_iff_floor] using hc

theorem grace_period_honoured {json : CJson} {cs₀ cs : Containers n} (h₀ : Initial cs₀)
    {i : Fin n} (hi : LoadedFrom json (cs₀.containers i)) (hgiven : LifecycleGiven json)
    (h : ReachableFrom cs₀ cs) : GraceHonoured (gracePeriod json) cs i := by
  obtain ⟨parsed, mutexInit, abboot, hparsed, hcc⟩ := hi
  have hT : (cs₀.containers i).baseconfig.lifecycle.timeout = ⌊gracePeriod json⌋ := by
    rw [hcc]
    exact (timeout_eq_gracePeriod hparsed).mpr hgiven
  have hfresh := h₀.guests i
  have hgraced : (cs₀.views i).Graced ⌊gracePeriod json⌋ := by
    refine ⟨hT, ?_, ?_⟩
    · intro hl
      simp [ContainerStatus.Leaving, hfresh.status] at hl
    · have e : (cs₀.views i).history = [] := hfresh.history
      rw [e]
      trivial
  exact graceHonoured_of_graced (Reachable.roleExclusion ⟨cs₀, h₀, h⟩)
    (h.guest_invariant (fun _ _ hm => hm.graced) h₀ hgraced)

/-- A config with these members of its base section besides the root file system. -/
def clusterJson (base : List (String × CJson)) : CJson :=
  .object [
    ("name", .string "cluster"),
    ("base", .object ([
      ("autoboot", .bool true),
      ("rootfs", .object [
        ("path", .string "/opt/container/guests/rootfs"),
        ("filesystem", .string "ext4"),
        ("blockdev", .array [.string "/dev/mmcblk1p5"])])] ++ base)),
    ("fs", .object []),
    ("device", .object [])]

/-- The guest of such a config that gets this grace period. -/
def clusterLoaded (timeout : ℤ) (_ : Fin 1) : ContainerConfig :=
  freshGuest "cluster" "cluster" {
    autoboot := true
    bootpriority := 1000
    rootfs := {
      path := some "/opt/container/guests/rootfs"
      filesystem := some "ext4"
      rootfsDev := (some "/dev/mmcblk1p5", none) }
    lifecycle := ⟨some "SIGTERM", some "SIGTERM", timeout⟩
    tty := ⟨1, 1⟩ }

/-- The guest is started and asked to shut down at the time 100; its grace period is checked at
101. -/
def clusterStopped (timeout : ℤ) : Containers 1 :=
  Transition.run step
    (containerMngsmStart (fun _ => visitOk) true (setupManager (clusterLoaded timeout) []))
    [.command { size := 136, command := 0x2000, subcommand := 1, guestName := "cluster" }
        (commandOk 100),
      .message .timerTick (messageOk 101)]

lemma clusterStopped_reachable (timeout : ℤ) :
    ReachableFrom (setupManager (clusterLoaded timeout) []) (clusterStopped timeout) :=
  Transition.Reachable.run (.init ⟨_, _, .started⟩) _

lemma clusterLoaded_initial (timeout : ℤ) : Initial (setupManager (clusterLoaded timeout) []) :=
  setupManager_initial (fun _ => freshGuest_fresh _ _ ⟨rfl, by simp⟩) ⟨by simp, by simp, rfl, rfl⟩

/-- A configured grace period of five seconds. -/
def gracefulJson : CJson := clusterJson [("lifecycle", .object [("timeout", .number 5000)])]

theorem grace_period_honoured_graceful :
    GraceHonoured (gracePeriod gracefulJson) (clusterStopped 5000) 0 := by
  have hl : LoadedFrom gracefulJson (clusterLoaded 5000 0) := ⟨_, 0, 0, rfl, rfl⟩
  have hread : TimeoutReadable (.object [("timeout", .number 5000)]) := by
    rintro q ⟨⟩ -
    norm_num
  have hg : LifecycleGiven gracefulJson :=
    ⟨_, rfl, .inl ⟨⟨⟨_, rfl, rfl, .inl ⟨_, rfl, rfl, rfl⟩⟩, fun _ h => nomatch h⟩, _, rfl, hread⟩⟩
  exact grace_period_honoured (clusterLoaded_initial 5000) hl hg (clusterStopped_reachable 5000)

/-- Without a lifecycle object the guest has no grace period at all: it is killed after a
millisecond. -/
theorem grace_period_lost :
    LoadedFrom (clusterJson []) ((setupManager (clusterLoaded 0) []).containers 0) ∧
      Initial (setupManager (clusterLoaded 0) []) ∧
      ReachableFrom (setupManager (clusterLoaded 0) []) (clusterStopped 0) ∧
      ¬ GraceHonoured (gracePeriod (clusterJson [])) (clusterStopped 0) 0 := by
  refine ⟨⟨_, 0, 0, rfl, rfl⟩, clusterLoaded_initial 0, clusterStopped_reachable 0, ?_⟩
  intro h
  obtain ⟨stop, hstop, hlate⟩ := h.notBefore [] 101
    [.shutdownRequest .run .started .inactive 0, .stop 100, .start .notStarted 0, .enabled]
    (by decide)
  obtain rfl : 100 = stop := Option.some.inj hstop
  have hT : gracePeriod (clusterJson []) = 10000 := rfl
  rw [hT] at hlate
  exact absurd (hlate (by omega)) (by norm_num)

end ContainerManager

import ContainerManager.System

/-!
# The life of a guest

An abstract machine for a single guest: its status, its instance, its deadline, its workqueue, its
disks and its history, together with the system state. `LifeMove` are its moves but for the two
halves of a role switch, which `LifeStep` adds. The machine says in one place what can happen to a
guest; that the code refines it is proved elsewhere.
-/

namespace ContainerManager

/-- What the abstract machine sees of a guest. -/
structure GuestView where
  name : String
  role : String
  sys : SystemState
  status : ContainerStatus
  lxc : Option LxcContainer
  timeout : ℤ
  worker : WorkerStatus
  thread : Bool
  after : ℤ
  base : BaseConfig
  history : List GuestEvent

/-- The view of a guest in a system state. -/
def ContainerConfig.view (sys : SystemState) (cc : ContainerConfig) : GuestView where
  name := cc.name
  role := cc.role
  sys := sys
  status := cc.runtimeStat.status
  lxc := cc.runtimeStat.lxc
  timeout := cc.runtimeStat.timeout
  worker := cc.workqueue.status
  thread := cc.workqueue.thread
  after := cc.workqueue.stateAfterExecute
  base := cc.baseconfig
  history := cc.history

namespace GuestView

/-- `container_start` is called: the guest is dead, or was enabled just before. -/
def Startable (v : GuestView) : Prop :=
  v.sys = .run ∧
    (v.status = .dead ∨ v.status = .notStarted ∧ v.history.head? = some .enabled)

/-- The deadline set at the time `now`. -/
def deadline (v : GuestView) (now : ℤ) : ℤ :=
  (if now < 0 then 0 else now) + v.base.lifecycle.timeout

/-- The grace period of a guest that is going down is over. -/
def Overdue (v : GuestView) (now : ℤ) : Prop :=
  (v.status = .shutdown ∨ v.status = .reboot) ∧ v.timeout < now

/-- The guest after a role start or a role switch enabled it, whatever it was before. -/
def enabled (v : GuestView) : GuestView :=
  { v with status := .notStarted, history := .enabled :: v.history }

/-- The guest after a role switch disabled it and left these disks. -/
def disabled (v : GuestView) (base : BaseConfig) : GuestView :=
  { v with status := .disable, lxc := none, base := base, history := .disabled :: v.history }

end GuestView

/-! ### Requests -/

/-- The two requests to a guest. -/
inductive RequestKind where
  | shutdown
  | reboot
deriving DecidableEq, Repr

namespace RequestKind

/-- The status a request leaves to a guest that is not started. -/
def idleStatus : RequestKind → SystemState → ContainerStatus → ContainerStatus
  | .shutdown, .run, .dead => .notStarted
  | .shutdown, .shutdown, .reboot => .shutdown
  | _, .shutdown, .notStarted => .exit
  | _, .shutdown, .dead => .exit
  | _, _, status => status

/-- The status of a started guest that was killed because the request failed. -/
def failedStatus : RequestKind → SystemState → ContainerStatus
  | .shutdown, .run => .notStarted
  | .reboot, .run => .dead
  | _, .shutdown => .exit

/-- The status of a started guest that accepted the request. -/
def acceptedStatus : RequestKind → SystemState → ContainerStatus
  | .reboot, .run => .reboot
  | _, _ => .shutdown

end RequestKind

/-- What a request in the system state `s` does to a guest. -/
inductive RequestEffect (kind : RequestKind) (s : SystemState) (v : GuestView) :
    GuestView → Prop where
  | idle (h : v.status ≠ .started) :
      RequestEffect kind s v { v with sys := s, status := kind.idleStatus s v.status }
  | failed (h : v.status = .started) :
      RequestEffect kind s v { v with sys := s, status := kind.failedStatus s, lxc := none }
  | accepted (now : ℤ) (h : v.status = .started) (hl : v.lxc ≠ none) :
      RequestEffect kind s v { v with
        sys := s
        status := kind.acceptedStatus s
        timeout := v.deadline now
        history := .stop now :: v.history }
  /-- the worker is given a deadline -/
  | worker (now : ℤ) (h : v.status = .runWorker) (hs : s = .shutdown) :
      RequestEffect kind s v { v with sys := s, timeout := v.deadline now }

/-! ### Moves -/

/-- The moves of a guest but for a role switch. `R` says that every failed mount of a guest that was
just enabled leaves a worker scheduled. -/
inductive LifeMove (R : Prop) (v : GuestView) : GuestView → Prop where
  | idle : LifeMove R v v
  /-- a start whose mandatory disks could not be mounted; a recovery may have been queued -/
  | mountFailed (h : v.Startable) (base : BaseConfig) (worker : WorkerStatus) (after : ℤ)
      (hb : base.lifecycle = v.base.lifecycle)
      (hw : worker = v.worker ∧ after = v.after ∨
        v.worker = .inactive ∧ worker = .scheduled ∧ after = 1)
      (hR : R → v.status = .notStarted → worker = .scheduled) :
      LifeMove R v { v with
        base := base
        worker := worker
        after := after
        history := .start v.status (-1) :: v.history }
  | launchFailed (h : v.Startable) (base : BaseConfig) (hb : base.lifecycle = v.base.lifecycle) :
      LifeMove R v { v with
        status := .dead
        lxc := none
        base := base
        history := .start v.status (-1) :: v.history }
  | launched (h : v.Startable) (base : BaseConfig) (lxc : LxcContainer)
      (hb : base.lifecycle = v.base.lifecycle) (hm : base.MandatoryMounted) :
      LifeMove R v { v with
        status := .started
        lxc := some lxc
        base := base
        history := .start v.status 0 :: v.history }
  /-- the active guest is cleaned up, there is no worker to run -/
  | cleaned (hs : v.sys = .run) (h : v.status = .notStarted) (hw : v.worker ≠ .scheduled)
      (base : BaseConfig) (hb : base.lifecycle = v.base.lifecycle) (hu : base.Unmounted) :
      LifeMove R v { v with lxc := none, base := base }
  /-- the active guest is cleaned up and its worker is run -/
  | workerStarted (hs : v.sys = .run) (h : v.status = .notStarted) (hw : v.worker = .scheduled)
      (base : BaseConfig) (hb : base.lifecycle = v.base.lifecycle) (hu : base.Unmounted)
      (thread : Bool) :
      LifeMove R v { v with
        status := .runWorker, lxc := none, base := base, worker := .started, thread := thread }
  /-- the active guest is cleaned up, its worker could not be run -/
  | workerRemoved (hs : v.sys = .run) (h : v.status = .notStarted) (hw : v.worker = .scheduled)
      (base : BaseConfig) (hb : base.lifecycle = v.base.lifecycle) (hu : base.Unmounted) :
      LifeMove R v { v with
        status := statusAfterExecute v.after
        lxc := none
        base := base
        worker := .inactive
        after := 0 }
  /-- the worker's thread ended -/
  | workerCompleted (ht : v.thread = true) :
      LifeMove R v { v with worker := .completed, thread := false }
  | workerFinished (hs : v.sys = .run) (h : v.status = .runWorker) (hw : v.worker = .completed) :
      LifeMove R v { v with
        status := statusAfterExecute (if v.after = 1 then 1 else 0)
        worker := .inactive
        after := 0 }
  | workerExited (hs : v.sys = .shutdown) (h : v.status = .runWorker)
      (hw : v.worker = .completed) :
      LifeMove R v { v with status := .exit, worker := .inactive, after := 0 }
  | workerTimeout (now : ℤ) (hs : v.sys = .shutdown) (h : v.status = .runWorker)
      (ht : v.timeout < now) : LifeMove R v { v with status := .exit }
  | killed (now : ℤ) (hs : v.sys = .run) (h : v.Overdue now) :
      LifeMove R v { v with
        status := if v.status = .reboot then .dead else .notStarted
        lxc := none
        history := .forcekill now :: v.history }
  | killedAtShutdown (now : ℤ) (hs : v.sys = .shutdown) (h : v.Overdue now) :
      LifeMove R v { v with
        status := .exit, lxc := none, history := .forcekill now :: v.history }
  | exited : LifeMove R v { v with status := (exitedStatus v.sys v.status).1, lxc := none }
  /-- a shutdown request, in the system state or together with the system shutdown -/
  | requestShutdown (s : SystemState) (hs : s = v.sys ∨ s = .shutdown) (w : GuestView)
      (h : RequestEffect .shutdown s v w) (ret : ℤ) :
      LifeMove R v { w with
        history := .shutdownRequest s v.status v.worker ret :: w.history }
  | requestReboot (w : GuestView) (h : RequestEffect .reboot v.sys v w) : LifeMove R v w
  /-- the test command queued a worker -/
  | scheduled (hw : v.worker = .inactive) :
      LifeMove R v { v with
        worker := .scheduled, after := 1, history := .scheduled :: v.history }

/-- The moves of a guest. -/
inductive LifeStep (R : Prop) (v : GuestView) : GuestView → Prop where
  | move {w : GuestView} (h : LifeMove R v w) : LifeStep R v w
  /-- a role switch disables the guest -/
  | disable (hs : v.sys = .run) (h : v.status = .notStarted) (base : BaseConfig)
      (hb : base.lifecycle = v.base.lifecycle) (hu : base.Unmounted) :
      LifeStep R v (v.disabled base)
  /-- a role start or switch enables the guest -/
  | enable (hs : v.sys = .run) (h : v.status = .disable) : LifeStep R v v.enabled

/-! ### What the moves keep -/

section Keeps

variable {R : Prop} {v w : GuestView}

lemma RequestEffect.role {kind : RequestKind} {s : SystemState} (h : RequestEffect kind s v w) :
    w.role = v.role := by
  cases h <;> rfl

lemma RequestEffect.lifecycle {kind : RequestKind} {s : SystemState}
    (h : RequestEffect kind s v w) : w.base.lifecycle = v.base.lifecycle := by
  cases h <;> rfl

lemma RequestEffect.status_disable {kind : RequestKind} {s : SystemState}
    (h : RequestEffect kind s v w) : w.status = .disable ↔ v.status = .disable := by
  cases h with
  | idle h => cases kind <;> cases s <;> cases hv : v.status <;> simp [RequestKind.idleStatus]
  | failed h => cases kind <;> cases s <;> simp [RequestKind.failedStatus, h]
  | accepted now h hl => cases kind <;> cases s <;> simp [RequestKind.acceptedStatus, h]
  | worker now h hs => rfl

lemma LifeMove.role (h : LifeMove R v w) : w.role = v.role := by
  cases h with
  | requestShutdown s hs w h ret => exact h.role
  | requestReboot w h => exact h.role
  | _ => rfl

lemma LifeMove.lifecycle (h : LifeMove R v w) : w.base.lifecycle = v.base.lifecycle := by
  cases h with
  | requestShutdown s hs w h ret => exact h.lifecycle
  | requestReboot w h => exact h.lifecycle
  | mountFailed h base worker after hb hw hR => exact hb
  | launchFailed h base hb => exact hb
  | launched h base lxc hb hm => exact hb
  | cleaned hs h hw base hb hu => exact hb
  | workerStarted hs h hw base hb hu thread => exact hb
  | workerRemoved hs h hw base hb hu => exact hb
  | _ => rfl

lemma statusAfterExecute_cases (after : ℤ) :
    statusAfterExecute after = .dead ∧ after = 1 ∨
      statusAfterExecute after = .notStarted ∧ after ≠ 1 := by
  by_cases h : after = 1 <;> simp [statusAfterExecute, h]

/-- A guest is enabled or disabled by a role switch only. -/
lemma LifeMove.status_disable (h : LifeMove R v w) :
    w.status = .disable ↔ v.status = .disable := by
  cases h with
  | idle => rfl
  | mountFailed h base worker after hb hw hR => rfl
  | launchFailed h base hb => rcases h with ⟨-, h | ⟨h, -⟩⟩ <;> simp [h]
  | launched h base lxc hb hm => rcases h with ⟨-, h | ⟨h, -⟩⟩ <;> simp [h]
  | cleaned hs h hw base hb hu => rfl
  | workerStarted hs h hw base hb hu thread => simp [h]
  | workerRemoved hs h hw base hb hu =>
    rcases statusAfterExecute_cases v.after with ⟨e, -⟩ | ⟨e, -⟩ <;> simp [h, e]
  | workerCompleted ht => rfl
  | workerFinished hs h hw =>
    rcases statusAfterExecute_cases (if v.after = 1 then 1 else 0) with ⟨e, -⟩ | ⟨e, -⟩ <;>
      simp [h, e]
  | workerExited hs h hw => simp [h]
  | workerTimeout now hs h ht => simp [h]
  | killed now hs h => rcases h with ⟨h | h, -⟩ <;> simp [h]
  | killedAtShutdown now hs h => rcases h with ⟨h | h, -⟩ <;> simp [h]
  | exited => cases v.sys <;> cases hv : v.status <;> simp [exitedStatus]
  | requestShutdown s hs w h ret => exact h.status_disable
  | requestReboot w h => exact h.status_disable
  | scheduled hw => rfl

lemma LifeStep.lifecycle (h : LifeStep R v w) : w.base.lifecycle = v.base.lifecycle := by
  cases h with
  | move h => exact h.lifecycle
  | disable hs h base hb hu => exact hb
  | enable => rfl

end Keeps

end ContainerManager

import ContainerManager.External
import ContainerManager.Lib.Transition

/-!
# Runs of the manager

A run starts with the start of the guests and the dispatch of the launch worker, as `main` does, and
goes on with any events in any order. An action carries everything the environment answers.
-/

namespace ContainerManager

variable {n : ℕ}

/-- One event. The handlers of the timer, of `SIGTERM`, of the netlink socket and of a pidfd only
write to the internal socket; `sent` tells whether the write succeeds. -/
inductive Action (n : ℕ) where
  /-- the state machine handles a message -/
  | message (m : Message) (sys : MessageSys n)
  /-- the state machine handles the oldest message of the internal socket -/
  | receive (sys : MessageSys n)
  | timer (sent : Bool)
  | sigterm (sent : Bool)
  | netlink (m : LinkMessage) (sent : Bool)
  /-- the pidfd of the registered source with this number is readable -/
  | pidfd (id : ℕ) (sent : Bool)
  /-- a session of the external interface sends a packet -/
  | command (p : ExtifPacket) (sys : CommandSys n)
  /-- the worker thread of a guest ends; its plugin returned `exec` -/
  | guestWorker (i : Fin n) (exec : ℤ)
  /-- a worker thread of the manager takes its next action -/
  | managerWorker (k : ℕ)

/-- The end of the worker thread of a guest, when there is one. -/
def guestWorkerDone (exec : ℤ) (cc : ContainerConfig) : ContainerConfig :=
  if cc.workqueue.thread then { cc with workqueue := containerWorkqueueThread exec cc.workqueue }
  else cc

/-- A worker thread of the manager takes its next action. -/
def Containers.managerWorker (cs : Containers n) (k : ℕ) : Containers n :=
  let r := managerWorkerStep k cs.operation
  let cs := { cs with operation := r.1 }
  match r.2 with
  | none => cs
  | some (kind, action) => cs.writeLog (.worker kind action)

/-- The state after one event. -/
def step (cs : Containers n) : Action n → Containers n
  | .message m sys => containerMngsmStateMachine sys cs m
  | .receive sys => containerMngsmCommsocketHandler sys cs
  | .timer sent => cs.send .timerTick sent
  | .sigterm sent => cs.send .systemShutdown sent
  | .netlink m sent =>
    let r := dataCb m cs.nllist
    { cs with nllist := r.1 }.send .netifUpdated (r.2 ∧ sent)
  | .pidfd id sent =>
    match cs.event.sources.find? fun s => s.id = id with
    | none => cs
    | some source => containerMonitorPidfdHandler sent source cs
  | .command p sys => (containerExternalInterfaceExec sys cs p).1
  | .guestWorker i exec => cs.setGuest i (guestWorkerDone exec (cs.containers i))
  | .managerWorker k => cs.managerWorker k

/-- A guest as the parser and `create_container_configs` leave it. -/
structure Fresh (cc : ContainerConfig) : Prop where
  status : cc.runtimeStat.status = .disable
  lxc : cc.runtimeStat.lxc = none
  pidfdSource : cc.runtimeStat.pidfdSource = none
  workqueue : ∃ mutexInit, cc.workqueue = (containerWorkqueueInitialize mutexInit).1
  unmounted : cc.baseconfig.Unmounted
  history : cc.history = []

/-- The manager's disks as the parser leaves them. -/
structure FreshOperation (cmo : ManagerOperation) : Prop where
  nodup : (cmo.mountList.map MountElem.index).Nodup
  elems : ∀ e ∈ cmo.mountList, ¬ e.isMounted ∧ ¬ e.isDispatched ∧ e.state = .nop
  storage : cmo.storage = none
  threads : cmo.threads = []

/-- The manager after its setup: any guests, with the role list built from them. -/
structure Initial (cs : Containers n) : Prop where
  guests : ∀ i, Fresh (cs.containers i)
  roleList : cs.roleList = bindContainerToRoleList cs.containers
  sysState : cs.sysState = .run
  operation : FreshOperation cs.operation
  comm : cs.comm = []
  event : cs.event = {}
  log : cs.log = []

/-- The manager after its setup with these guests and these disks of its own. -/
def setupManager (guests : Fin n → ContainerConfig) (mountList : List MountElem) :
    Containers n where
  containers := guests
  roleList := bindContainerToRoleList guests
  operation := { mountList := mountList }

lemma setupManager_initial {guests : Fin n → ContainerConfig} {mountList : List MountElem}
    (hg : ∀ i, Fresh (guests i)) (ho : FreshOperation { mountList := mountList }) :
    Initial (setupManager guests mountList) :=
  ⟨hg, rfl, rfl, ho, rfl, rfl, rfl⟩

/-- A guest of the role without history, with these settings. -/
def freshGuest (name role : String) (baseconfig : BaseConfig) : ContainerConfig where
  name := name
  role := role
  baseconfig := baseconfig
  workqueue := (containerWorkqueueInitialize 0).1

lemma freshGuest_fresh (name role : String) {baseconfig : BaseConfig}
    (h : baseconfig.Unmounted) : Fresh (freshGuest name role baseconfig) :=
  ⟨rfl, rfl, rfl, ⟨0, rfl⟩, h, rfl⟩

/-- A root file system on a block device. -/
def blockRootfs : RootFs where
  path := some "/opt/container/guests/rootfs"
  filesystem := some "ext4"
  rootfsDev := (some "/dev/mmcblk1p5", some "/dev/mmcblk1p6")

/-- The states `main` passes before the event loop: the guests were started, with these outcomes,
and the launch worker was dispatched. -/
inductive Booted (sys : ℕ → VisitSys) (notify : Bool) (cs₀ : Containers n) :
    Containers n → Prop where
  | started : Booted sys notify cs₀ (containerMngsmStart sys notify cs₀)
  | launched (dispatch : DispatchSys) :
      Booted sys notify cs₀ (containerMngsmExecDelayedOperation dispatch
        (containerMngsmStart sys notify cs₀) 0).1

/-- The states reachable after the start of the guests of `cs₀`. -/
def ReachableFrom (cs₀ : Containers n) : Containers n → Prop :=
  Transition.Reachable step fun cs => ∃ sys notify, Booted sys notify cs₀ cs

/-- The states reachable after the start of any guests. -/
def Reachable (cs : Containers n) : Prop := ∃ cs₀, Initial cs₀ ∧ ReachableFrom cs₀ cs

lemma setupManager_reachable {guests : Fin n → ContainerConfig} {mountList : List MountElem}
    (hg : ∀ i, Fresh (guests i)) (ho : FreshOperation { mountList := mountList })
    (sys : ℕ → VisitSys) (notify : Bool) :
    Reachable (containerMngsmStart sys notify (setupManager guests mountList)) :=
  ⟨_, setupManager_initial hg ho, .init ⟨sys, notify, .started⟩⟩

lemma Reachable.step {cs : Containers n} (h : Reachable cs) (a : Action n) :
    Reachable (ContainerManager.step cs a) := by
  obtain ⟨cs₀, h₀, h⟩ := h
  exact ⟨cs₀, h₀, Transition.Reachable.step h a⟩

lemma Reachable.run {cs : Containers n} (h : Reachable cs) (as : List (Action n)) :
    Reachable (Transition.run ContainerManager.step cs as) := by
  obtain ⟨cs₀, h₀, h⟩ := h
  exact ⟨cs₀, h₀, Transition.Reachable.run h as⟩

/-! ### An environment in which every call succeeds -/

def mountOk : MountSys := ⟨.ok, .ok, .ok⟩

def unmountOk : UnmountSys := ⟨fun _ => .ok, fun _ => 0, .ok⟩

def cleanupOk : CleanupSys := ⟨0, fun _ => unmountOk, unmountOk⟩

def startOk : StartSys := ⟨⟨mountOk, fun _ _ => mountOk⟩, fun _ => ⟨true, 0⟩, true, true⟩

def visitOk : VisitSys where
  start := startOk
  monitor := ⟨0, 0⟩
  notify := true
  disable := cleanupOk
  worker := ⟨cleanupOk, 0, 0, 0⟩
  finish := 0

/-- The worker thread of the manager when every call succeeds and the child exits. -/
def workerOk : WorkerSys where
  first _ _ := mountOk
  retake _ _ := mountOk
  unmount _ := unmountOk
  now _ := 0
  fork _ := true
  poll _ := [.childExit]

def dispatchOk : DispatchSys := ⟨true, true, true, fun _ => true, 0, workerOk⟩

def execOk (now : ℤ) : ExecSys n where
  now := now
  visit _ := visitOk
  initPid _ := 1
  delayed _ := ⟨fun _ => true, fun _ => true⟩
  delete _ := 0
  dispatch := dispatchOk
  read := .normal

def messageOk (now : ℤ) : MessageSys n where
  attach _ _ _ := true
  request _ := ⟨true, 1, now, 0⟩
  exec := execOk now

def commandOk (now : ℤ) : CommandSys n := ⟨fun _ => ⟨true, 1, now, 0⟩, ⟨true, 0⟩, true, true⟩

/-! ### Two managers -/

/-- Two guests of one role, the first of them booting automatically. -/
def iviGuests (i : Fin 2) : ContainerConfig :=
  if i = 0 then freshGuest "ivi-a" "ivi" { autoboot := true, rootfs := blockRootfs }
  else freshGuest "ivi-b" "ivi" { rootfs := blockRootfs }

lemma iviGuests_fresh (i : Fin 2) : Fresh (iviGuests i) := by
  simp only [iviGuests]
  split_ifs <;> exact freshGuest_fresh _ _ ⟨rfl, by simp⟩

/-- The two guests after the start of their role. -/
def iviBooted : Containers 2 :=
  containerMngsmStart (fun _ => visitOk) true (setupManager iviGuests [])

lemma iviBooted_reachable : Reachable iviBooted :=
  setupManager_reachable iviGuests_fresh ⟨by simp, by simp, rfl, rfl⟩ _ _

/-- A disk that is checked when it cannot be mounted. -/
def fsckDisk : ExtraDisk where
  mountFrom := "/opt/container/cluster/data"
  mountTo := "data"
  filesystem := some "ext4"
  redundancy := .fsck
  blockdev := ("/dev/mmcblk1p9", none)

/-- A single guest with such a disk. -/
def clusterGuest (_ : Fin 1) : ContainerConfig :=
  freshGuest "cluster" "cluster"
    { autoboot := true, rootfs := blockRootfs, extradiskList := [fsckDisk] }

lemma clusterGuest_fresh (i : Fin 1) : Fresh (clusterGuest i) :=
  freshGuest_fresh _ _ ⟨rfl, by decide⟩

lemma setup_clusterGuest_initial : Initial (setupManager clusterGuest []) :=
  setupManager_initial clusterGuest_fresh ⟨by simp, by simp, rfl, rfl⟩

/-- A visit whose start can mount no extra disk. -/
def visitDiskFails : VisitSys :=
  { visitOk with start := { startOk with mount := ⟨mountOk, fun _ _ => ⟨.error, .ok, .ok⟩⟩ } }

/-- The guest after a start that could not mount its disk. -/
def clusterBooted : Containers 1 :=
  containerMngsmStart (fun _ => visitDiskFails) true (setupManager clusterGuest [])

lemma clusterBooted_reachable : Reachable clusterBooted :=
  setupManager_reachable clusterGuest_fresh ⟨by simp, by simp, rfl, rfl⟩ _ _

end ContainerManager

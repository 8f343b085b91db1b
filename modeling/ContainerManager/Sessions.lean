import ContainerManager.Cmcontrol
import ContainerManager.Lib.Transition

/-!
# Sessions of the external interface

The socket handlers of `container-external-interface.c`, and the clients of `cmcontrol.c` at the
other end. Any number of clients and the manager take their steps in any order. The sockets are part
of the state: what was written and not yet read, and which ends are closed.
-/

namespace ContainerManager

variable {n : ℕ} {κ : Type} [DecidableEq κ]

/-! ### Clients and sockets -/

/-- How a client ended. -/
inductive CmOutcome where
  /-- "Container manager is busy." -/
  | busy
  /-- "Container manager is confuse." -/
  | confused
  /-- "Container manager communication is un available." -/
  | unavailable
  | printed (text : Option (List Char))
  /-- there was nothing to ask for, or `SIGPIPE` ended the client -/
  | nothing
deriving DecidableEq, Repr

/-- Where a client is. -/
inductive CmPhase where
  | start
  | connected
  | written
  /-- `poll` returned an event -/
  | ready
  | done (outcome : CmOutcome)
deriving DecidableEq, Repr

/-- A client, and its connection. -/
structure CmClient where
  request : CmRequest
  phase : CmPhase := .start
  /-- a packet that the manager did not read yet -/
  toManager : Option ExtifPacket := none
  /-- a response that the client did not read yet -/
  toClient : Option ExtifResponse := none
  /-- the end of the manager is closed -/
  hungUp : Bool := false
  /-- history: how often the connection was accepted, and the descriptor closed. -/
  accepted : ℕ := 0
  closed : ℕ := 0
deriving DecidableEq, Repr

/-- The end of the client is closed. -/
def CmClient.Closed (client : CmClient) : Prop := ∃ outcome, client.phase = .done outcome

instance (client : CmClient) : Decidable client.Closed :=
  match h : client.phase with
  | .done outcome => isTrue ⟨outcome, h⟩
  | .start | .connected | .written | .ready => isFalse (by rintro ⟨o, ho⟩; simp [h] at ho)

/-- A call of `container_external_interface_exec`. -/
structure Execution (n : ℕ) (κ : Type) where
  client : κ
  sys : CommandSys n
  cs : Containers n
  packet : ExtifPacket

/-- The responses it wrote. -/
def Execution.responses (e : Execution n κ) : List ExtifResponse :=
  (containerExternalInterfaceExec e.sys e.cs e.packet).2.2

/-- `cm_external_interface_t` with the clients and the listening socket. -/
structure ExtifWorld (n : ℕ) (κ : Type) where
  cs : Containers n
  /-- the process of the manager runs -/
  alive : Bool := true
  /-- `SIGPIPE` is ignored since before the manager was started -/
  ignoresSigpipe : Bool := false
  /-- `interface_evsource` is set -/
  interfaceEvsource : Bool := true
  /-- `interface_session_evsource`, by its client -/
  interfaceSessionEvsource : Option κ := none
  /-- the connections that wait to be accepted -/
  backlog : List κ := []
  clients : κ → CmClient
  /-- history: the executed commands, oldest first. -/
  executions : List (Execution n κ) := []

namespace ExtifWorld

variable (w : ExtifWorld n κ) (k : κ)

def setClient (client : CmClient) : ExtifWorld n κ :=
  { w with clients := Function.update w.clients k client }

/-- The client goes on to this phase. -/
def goto (phase : CmPhase) : ExtifWorld n κ := w.setClient k { w.clients k with phase := phase }

/-- The manager closes its end. -/
def close : ExtifWorld n κ :=
  let client := w.clients k
  w.setClient k { client with hungUp := true, closed := client.closed + 1 }

/-- The session source is unreferenced, which closes the descriptor it owns. -/
def dropSession : ExtifWorld n κ :=
  match w.interfaceSessionEvsource with
  | none => w
  | some k => { w.close k with interfaceSessionEvsource := none }

/-- The listening socket is closed, and with it what waits there. -/
def dropListening : ExtifWorld n κ :=
  { w with
    interfaceEvsource := false
    backlog := []
    clients := fun k =>
      if k ∈ w.backlog then { w.clients k with hungUp := true } else w.clients k }

/-! ### The manager -/

/-- What the handler of the listening socket meets. -/
structure IncomingSys where
  /-- `EPOLLHUP` or `EPOLLERR` -/
  error : Bool
  accept : Bool
  addIo : Bool
  setOwn : Bool

/-- A new connection that was taken off the queue: the second half of
`container_external_interface_incoming_handler`. -/
def openSession (sys : IncomingSys) : ExtifWorld n κ :=
  let client := w.clients k
  let w := w.setClient k { client with accepted := client.accepted + 1 }
  -- external interface is one session only
  if w.interfaceSessionEvsource.isSome then w.close k
  else if ¬ sys.addIo then w.close k
  else if ¬ sys.setOwn then w.close k
  else { w with interfaceSessionEvsource := some k }

/-- `container_external_interface_incoming_handler`. -/
def containerExternalInterfaceIncomingHandler (sys : IncomingSys) : ExtifWorld n κ :=
  if sys.error then w.dropListening
  else
    match w.backlog with
    | [] => w
    | k :: rest => if ¬ sys.accept then w else { w with backlog := rest }.openSession k sys

/-- The response to a packet goes to a socket that the client has closed. It raises `SIGPIPE`, which
ends the manager unless it is ignored. -/
def RaisesSigpipe (sys : CommandSys n) (p : ExtifPacket) : Prop :=
  (containerExternalInterfaceExec sys w.cs p).2.2 ≠ [] ∧ (w.clients k).Closed ∧
    w.ignoresSigpipe = false

instance (sys : CommandSys n) (p : ExtifPacket) : Decidable (w.RaisesSigpipe k sys p) :=
  inferInstanceAs (Decidable (_ ∧ _))

/-- `container_external_interface_exec` for a packet that was read. -/
def execCommand (sys : CommandSys n) (p : ExtifPacket) : ExtifWorld n κ :=
  let e : Execution n κ := ⟨k, sys, w.cs, p⟩
  let client := w.clients k
  let response := if sys.write ∧ ¬ client.Closed then e.responses.head? else none
  { w.setClient k { client with
      toManager := none
      toClient := if response.isSome then response else client.toClient } with
    cs := (containerExternalInterfaceExec sys w.cs p).1
    executions := w.executions ++ [e]
    alive := w.alive ∧ ¬ w.RaisesSigpipe k sys p }

/-- `container_external_interface_sessions_handler`. -/
def containerExternalInterfaceSessionsHandler (hup pollin : Bool) (sys : CommandSys n) :
    ExtifWorld n κ :=
  if hup then w.dropSession
  else if pollin then
    match (w.clients k).toManager with
    | none => w.dropSession
    | some p =>
      let w := (w.execCommand k sys p).dropSession
      -- the kernel closes what a process had open
      if w.alive then w else w.dropListening
  else w

/-- `container_external_interface_cleanup`. -/
def containerExternalInterfaceCleanup : ExtifWorld n κ := w.dropSession.dropListening

/-! ### The clients -/

/-- `cm_socket_setup`, after what a request needs before. -/
def cmSocketSetup (ok : Bool) : ExtifWorld n κ :=
  if ¬ (w.clients k).request.Connects then w.goto k (.done .nothing)
  else if ok ∧ w.alive ∧ w.interfaceEvsource then
    { w.goto k .connected with backlog := w.backlog ++ [k] }
  else w.goto k (.done .busy)

/-- The packet is written. -/
def cmWrite (ok : Bool) : ExtifWorld n κ :=
  match (w.clients k).request.packet with
  | none => w.goto k (.done .nothing)
  | some p =>
    if (w.clients k).hungUp then w.goto k (.done .nothing)
    else if ok then
      w.setClient k { w.clients k with phase := .written, toManager := some p }
    else w.goto k (.done .confused)

/-- `cm_socket_wait_response`: it finds an event, or it times out. -/
def cmSocketWaitResponse (ok : Bool) : ExtifWorld n κ :=
  if ok ∧ ((w.clients k).toClient.isSome ∨ (w.clients k).hungUp) then w.goto k .ready
  else w.goto k (.done .unavailable)

/-- The response is read, and printed. -/
def cmRead (ok : Bool) : ExtifWorld n κ :=
  let client := w.clients k
  match client.toClient with
  | none => w.goto k (.done .confused)
  | some r =>
    if ok ∧ client.request.responseSize ≤ r.size then
      w.goto k (.done (.printed (client.request.print r)))
    else w.goto k (.done .confused)

end ExtifWorld

/-! ### Steps -/

/-- A step of a client or of the manager. -/
inductive ExtifAction (n : ℕ) (κ : Type) where
  | connect (k : κ) (ok : Bool)
  | write (k : κ) (ok : Bool)
  | wait (k : κ) (ok : Bool)
  | read (k : κ) (ok : Bool)
  | incoming (sys : ExtifWorld.IncomingSys)
  /-- the events were found before; the client may have closed its end since -/
  | session (hup pollin : Bool) (sys : CommandSys n)
  | cleanup
  /-- anything else changes the guests -/
  | other (cs : Containers n)

/-- The world after a step; one that cannot be taken changes nothing. -/
def ExtifWorld.step (w : ExtifWorld n κ) : ExtifAction n κ → ExtifWorld n κ
  | .connect k ok => if (w.clients k).phase = .start then w.cmSocketSetup k ok else w
  | .write k ok => if (w.clients k).phase = .connected then w.cmWrite k ok else w
  | .wait k ok => if (w.clients k).phase = .written then w.cmSocketWaitResponse k ok else w
  | .read k ok => if (w.clients k).phase = .ready then w.cmRead k ok else w
  | .incoming sys =>
    if w.alive ∧ w.interfaceEvsource then w.containerExternalInterfaceIncomingHandler sys else w
  | .session hup pollin sys =>
    match w.interfaceSessionEvsource with
    | none => w
    | some k =>
      if w.alive ∧ (hup = true → (w.clients k).Closed) then
        w.containerExternalInterfaceSessionsHandler k hup pollin sys
      else w
  | .cleanup => if w.alive then w.containerExternalInterfaceCleanup else w
  | .other cs => if w.alive then { w with cs := cs } else w

/-- At the start, the interface is set up and no client did anything. -/
structure ExtifWorld.Initial (w : ExtifWorld n κ) : Prop where
  noSession : w.interfaceSessionEvsource = none
  noBacklog : w.backlog = []
  noExecution : w.executions = []
  clients : ∀ k, ∃ request, w.clients k = { request := request }

end ContainerManager

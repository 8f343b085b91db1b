import ContainerManager.Properties.Responses
import ContainerManager.Sessions

/-!
# What a session of the external interface guarantees

For one client, every step of the system is one of a few moves of its own connection. From the moves
it follows that the manager closes each descriptor it accepted, executes the packet of a client at
most once, and that whatever a client prints is the answer to its own packet.
-/

namespace ContainerManager

open Relation

variable {n : ℕ} {κ : Type} [DecidableEq κ]

/-! ### The view of one client -/

/-- What concerns one client: its own state, how often it waits to be accepted, whether it has the
session, and the executions of its packets. -/
structure SessionView (n : ℕ) (κ : Type) where
  client : CmClient
  waiting : ℕ
  current : Prop
  executions : List (Execution n κ)

/-- The executions for a client. -/
def executionsOf (k : κ) (executions : List (Execution n κ)) : List (Execution n κ) :=
  executions.filter fun e => e.client = k

/-- The view of a client. -/
def ExtifWorld.view (w : ExtifWorld n κ) (k : κ) : SessionView n κ where
  client := w.clients k
  waiting := w.backlog.count k
  current := w.interfaceSessionEvsource = some k
  executions := executionsOf k w.executions

/-- The moves of one connection. -/
inductive SessionMove : SessionView n κ → SessionView n κ → Prop where
  /-- the client connects -/
  | connect (v : SessionView n κ) (h : v.client.phase = .start) : SessionMove v
      { v with client := { v.client with phase := .connected }, waiting := v.waiting + 1 }
  /-- the client ends without an answer -/
  | stop (v : SessionView n κ) (outcome : CmOutcome) (h : ∀ text, outcome ≠ .printed text) :
      SessionMove v { v with client := { v.client with phase := .done outcome } }
  | write (v : SessionView n κ) (p : ExtifPacket) (h : v.client.phase = .connected)
      (hp : v.client.request.packet = some p) : SessionMove v
      { v with client := { v.client with phase := .written, toManager := some p } }
  | wait (v : SessionView n κ) (h : v.client.phase = .written) :
      SessionMove v { v with client := { v.client with phase := .ready } }
  | print (v : SessionView n κ) (r : ExtifResponse) (h : v.client.phase = .ready)
      (hr : v.client.toClient = some r) : SessionMove v
      { v with client := { v.client with phase := .done (.printed (v.client.request.print r)) } }
  /-- the manager accepts the connection and closes it at once -/
  | refuse (v : SessionView n κ) (h : 0 < v.waiting) : SessionMove v { v with
      client := { v.client with
        hungUp := true, accepted := v.client.accepted + 1, closed := v.client.closed + 1 }
      waiting := v.waiting - 1 }
  /-- the connection becomes the session -/
  | accept (v : SessionView n κ) (h : 0 < v.waiting) (hcur : ¬ v.current) :
      SessionMove v { v with
        client := { v.client with accepted := v.client.accepted + 1 }
        waiting := v.waiting - 1
        current := True }
  /-- the session is over -/
  | close (v : SessionView n κ) (h : v.current) : SessionMove v { v with
      client := { v.client with hungUp := true, closed := v.client.closed + 1 }
      current := False }
  /-- the packet is executed, and the session is over -/
  | serve (v : SessionView n κ) (e : Execution n κ) (response : Option ExtifResponse)
      (h : v.current) (hp : v.client.toManager = some e.packet)
      (hr : ∀ r ∈ response, r ∈ e.responses ∨ v.client.toClient = some r) : SessionMove v { v with
        client := { v.client with
          toManager := none, toClient := response, hungUp := true, closed := v.client.closed + 1 }
        current := False
        executions := v.executions ++ [e] }
  /-- the listening socket is closed -/
  | drop (v : SessionView n κ) : SessionMove v
      { v with client := { v.client with hungUp := true }, waiting := 0 }

/-! ### What a step does to a view -/

section Views

variable (w : ExtifWorld n κ) (k j : κ)

lemma view_setClient (client : CmClient) : (w.setClient k client).view j =
    if j = k then { w.view k with client := client } else w.view j := by
  by_cases h : j = k
  · subst h
    simp [ExtifWorld.view, ExtifWorld.setClient]
  · simp [ExtifWorld.view, ExtifWorld.setClient, h]

lemma view_goto (phase : CmPhase) : (w.goto k phase).view j =
    if j = k then { w.view k with client := { w.clients k with phase := phase } }
    else w.view j := view_setClient w k j _

omit [DecidableEq κ] in
lemma moves_of_eq {v v' : SessionView n κ} (h : v' = v) : ReflTransGen SessionMove v v' := by
  rw [h]

/-- Moves of one client, while the views of the others stay as they are. -/
lemma moves_of_goto {phase : CmPhase}
    (h : SessionMove (w.view k)
      { w.view k with client := { w.clients k with phase := phase } }) :
    ReflTransGen SessionMove (w.view j) ((w.goto k phase).view j) := by
  rw [view_goto]
  split_ifs with hj
  · subst hj
    exact .single h
  · exact .refl

/-- Giving up is a move of the client. -/
lemma moves_of_stop {outcome : CmOutcome} (h : ∀ text, outcome ≠ .printed text) :
    ReflTransGen SessionMove (w.view j) ((w.goto k (.done outcome)).view j) :=
  moves_of_goto w k j (.stop (w.view k) outcome h)

lemma cmSocketSetup_moves (h : (w.clients k).phase = .start) (ok : Bool) :
    ReflTransGen SessionMove (w.view j) ((w.cmSocketSetup k ok).view j) := by
  simp only [ExtifWorld.cmSocketSetup]
  by_cases hc : (w.clients k).request.Connects
  · rw [if_neg (not_not.mpr hc)]
    split_ifs
    · by_cases hj : j = k
      · subst hj
        refine .single ?_
        convert SessionMove.connect (w.view j) h using 1
        simp [ExtifWorld.view, ExtifWorld.goto, ExtifWorld.setClient]
      · apply moves_of_eq
        simp [ExtifWorld.view, ExtifWorld.goto, ExtifWorld.setClient, hj, Ne.symm hj]
    · exact moves_of_stop w k j (by simp)
  · rw [if_pos hc]
    exact moves_of_stop w k j (by simp)

lemma cmWrite_moves (h : (w.clients k).phase = .connected) (ok : Bool) :
    ReflTransGen SessionMove (w.view j) ((w.cmWrite k ok).view j) := by
  simp only [ExtifWorld.cmWrite]
  cases hp : (w.clients k).request.packet with
  | none => exact moves_of_stop w k j (by simp)
  | some p =>
    dsimp only
    split_ifs
    · exact moves_of_stop w k j (by simp)
    · rw [view_setClient]
      split_ifs with hj
      · subst hj
        exact .single (.write (w.view j) p h hp)
      · exact .refl
    · exact moves_of_stop w k j (by simp)

lemma cmSocketWaitResponse_moves (h : (w.clients k).phase = .written) (ok : Bool) :
    ReflTransGen SessionMove (w.view j) ((w.cmSocketWaitResponse k ok).view j) := by
  simp only [ExtifWorld.cmSocketWaitResponse]
  split_ifs
  · exact moves_of_goto w k j (.wait (w.view k) h)
  · exact moves_of_stop w k j (by simp)

lemma cmRead_moves (h : (w.clients k).phase = .ready) (ok : Bool) :
    ReflTransGen SessionMove (w.view j) ((w.cmRead k ok).view j) := by
  simp only [ExtifWorld.cmRead]
  cases hr : (w.clients k).toClient with
  | none => exact moves_of_stop w k j (by simp)
  | some r =>
    dsimp only
    split_ifs
    · exact moves_of_goto w k j (.print (w.view k) r h hr)
    · exact moves_of_stop w k j (by simp)

lemma dropSession_moves : ReflTransGen SessionMove (w.view j) (w.dropSession.view j) := by
  simp only [ExtifWorld.dropSession]
  cases hs : w.interfaceSessionEvsource with
  | none => exact .refl
  | some k =>
    dsimp only
    by_cases hj : j = k
    · subst hj
      refine .single ?_
      convert SessionMove.close (w.view j) hs using 1
      simp [ExtifWorld.view, ExtifWorld.close, ExtifWorld.setClient]
    · apply moves_of_eq
      simp [ExtifWorld.view, ExtifWorld.close, ExtifWorld.setClient, hj, hs, Ne.symm hj]

lemma dropListening_moves : ReflTransGen SessionMove (w.view j) (w.dropListening.view j) := by
  by_cases hj : j ∈ w.backlog
  · refine .single ?_
    convert SessionMove.drop (w.view j) using 1
    simp [ExtifWorld.view, ExtifWorld.dropListening, hj]
  · apply moves_of_eq
    simp [ExtifWorld.view, ExtifWorld.dropListening, hj, List.count_eq_zero_of_not_mem hj]

lemma openSession_moves {rest : List κ} (hb : w.backlog = k :: rest)
    (sys : ExtifWorld.IncomingSys) : ReflTransGen SessionMove (w.view j)
      ((ExtifWorld.openSession { w with backlog := rest } k sys).view j) := by
  simp only [ExtifWorld.openSession]
  by_cases hj : j = k
  · subst hj
    have hwait : 0 < (w.view j).waiting := by simp [ExtifWorld.view, hb]
    split_ifs with hbusy hadd hown
    · refine .single ?_
      convert SessionMove.refuse (w.view j) hwait using 1
      simp [ExtifWorld.view, ExtifWorld.close, ExtifWorld.setClient, hb]
    · have hcur : ¬ (w.view j).current := by
        intro hcur
        simp only [ExtifWorld.view] at hcur
        simp [ExtifWorld.setClient, hcur] at hbusy
      refine .single ?_
      convert SessionMove.accept (w.view j) hwait hcur using 1
      simp [ExtifWorld.view, ExtifWorld.setClient, hb]
    all_goals
      refine .single ?_
      convert SessionMove.refuse (w.view j) hwait using 1
      simp [ExtifWorld.view, ExtifWorld.close, ExtifWorld.setClient, hb]
  · apply moves_of_eq
    split_ifs with hbusy
    · simp [ExtifWorld.view, ExtifWorld.close, ExtifWorld.setClient, hb, hj, Ne.symm hj]
    · have hnone : w.interfaceSessionEvsource = none := by simpa [ExtifWorld.setClient] using hbusy
      simp [ExtifWorld.view, ExtifWorld.setClient, hb, hj, Ne.symm hj, hnone]
    all_goals
      simp [ExtifWorld.view, ExtifWorld.close, ExtifWorld.setClient, hb, hj, Ne.symm hj]

lemma incomingHandler_moves (sys : ExtifWorld.IncomingSys) : ReflTransGen SessionMove (w.view j)
    ((w.containerExternalInterfaceIncomingHandler sys).view j) := by
  simp only [ExtifWorld.containerExternalInterfaceIncomingHandler]
  by_cases herror : sys.error = true
  · rw [if_pos herror]
    exact dropListening_moves w j
  · rw [if_neg herror]
    cases hb : w.backlog with
    | nil => exact .refl
    | cons k rest =>
      dsimp only
      split_ifs
      · exact openSession_moves w k j hb sys
      · exact .refl

/-- A packet that is read is executed, and then the session is over. -/
lemma execCommand_moves (hs : w.interfaceSessionEvsource = some k) {p : ExtifPacket}
    (hp : (w.clients k).toManager = some p) (sys : CommandSys n) :
    ReflTransGen SessionMove (w.view j) ((w.execCommand k sys p).dropSession.view j) := by
  have hkept : (w.execCommand k sys p).interfaceSessionEvsource = some k := hs
  simp only [ExtifWorld.dropSession, hkept]
  by_cases hj : j = k
  · subst hj
    set e : Execution n κ := ⟨j, sys, w.cs, p⟩ with he
    set response := if sys.write ∧ ¬ (w.clients j).Closed then e.responses.head? else none
      with hresponse
    have hr : ∀ r ∈ (if response.isSome then response else (w.clients j).toClient),
        r ∈ e.responses ∨ (w.clients j).toClient = some r := by
      intro r hr
      split_ifs at hr with hsome
      · left
        rw [hresponse] at hr
        split_ifs at hr
        · exact List.mem_of_mem_head? hr
        · simp at hr
      · exact Or.inr hr
    refine .single ?_
    convert SessionMove.serve (w.view j) e _ hs hp hr using 1
    simp [ExtifWorld.view, ExtifWorld.close, ExtifWorld.execCommand, ExtifWorld.setClient,
      executionsOf, he, hresponse]
  · apply moves_of_eq
    simp [ExtifWorld.view, ExtifWorld.close, ExtifWorld.execCommand, ExtifWorld.setClient, hj,
      Ne.symm hj, hs, executionsOf]

lemma sessionsHandler_moves (hs : w.interfaceSessionEvsource = some k) (hup pollin : Bool)
    (sys : CommandSys n) : ReflTransGen SessionMove (w.view j)
      ((w.containerExternalInterfaceSessionsHandler k hup pollin sys).view j) := by
  simp only [ExtifWorld.containerExternalInterfaceSessionsHandler]
  split_ifs
  · exact dropSession_moves w j
  · cases hp : (w.clients k).toManager with
    | none => exact dropSession_moves w j
    | some p =>
      dsimp only
      have hexec := execCommand_moves w k j hs hp sys
      split_ifs
      · exact hexec
      · exact hexec.trans (dropListening_moves _ j)
  · exact .refl

end Views

/-- Every step moves the view of every client along. -/
lemma ExtifWorld.step_moves (w : ExtifWorld n κ) (a : ExtifAction n κ) (j : κ) :
    ReflTransGen SessionMove (w.view j) ((w.step a).view j) := by
  cases a with
  | connect k ok =>
    simp only [ExtifWorld.step]
    split_ifs with h
    · exact cmSocketSetup_moves w k j h ok
    · exact .refl
  | write k ok =>
    simp only [ExtifWorld.step]
    split_ifs with h
    · exact cmWrite_moves w k j h ok
    · exact .refl
  | wait k ok =>
    simp only [ExtifWorld.step]
    split_ifs with h
    · exact cmSocketWaitResponse_moves w k j h ok
    · exact .refl
  | read k ok =>
    simp only [ExtifWorld.step]
    split_ifs with h
    · exact cmRead_moves w k j h ok
    · exact .refl
  | incoming sys =>
    simp only [ExtifWorld.step]
    split_ifs
    · exact incomingHandler_moves w j sys
    · exact .refl
  | session hup pollin sys =>
    simp only [ExtifWorld.step]
    cases hs : w.interfaceSessionEvsource with
    | none => exact .refl
    | some k =>
      dsimp only
      split_ifs
      · exact sessionsHandler_moves w k j hs hup pollin sys
      · exact .refl
  | cleanup =>
    simp only [ExtifWorld.step]
    split_ifs
    · exact (dropSession_moves w j).trans (dropListening_moves _ j)
    · exact .refl
  | other cs =>
    simp only [ExtifWorld.step]
    split_ifs <;> exact .refl

/-! ### What holds of every connection -/

/-- What the moves of a connection keep. -/
structure SessionView.Sound (v : SessionView n κ) : Prop where
  /-- a descriptor that was accepted is that of the session, or it is closed -/
  current : v.current → v.client.accepted = v.client.closed + 1
  past : ¬ v.current → v.client.accepted = v.client.closed
  once : v.client.accepted + v.waiting ≤ 1
  fresh : v.client.phase = .start → v.client.accepted + v.waiting = 0
  queued : ∀ p ∈ v.client.toManager, v.client.request.packet = some p
  executed : v.executions.length ≤ v.client.closed
  packet : ∀ e ∈ v.executions, v.client.request.packet = some e.packet
  answered : ∀ r ∈ v.client.toClient, ∃ e ∈ v.executions, r ∈ e.responses
  printed : ∀ text, v.client.phase = .done (.printed text) →
    ∃ e ∈ v.executions, ∃ r ∈ e.responses, text = v.client.request.print r

omit [DecidableEq κ] in
lemma SessionMove.sound {v v' : SessionView n κ} (hmove : SessionMove v v') (h : v.Sound) :
    v'.Sound := by
  cases hmove with
  | connect hphase =>
    have hzero := h.fresh hphase
    exact { h with
      once := by simp only; omega
      fresh := by simp
      printed := by simp }
  | stop outcome hout =>
    exact { h with
      fresh := by simp
      printed := fun text htext => absurd (CmPhase.done.inj htext) (hout text) }
  | write p hphase hp =>
    exact { h with
      fresh := by simp
      queued := by simpa using hp
      printed := by simp }
  | wait hphase => exact { h with fresh := by simp, printed := by simp }
  | print r hphase hr =>
    obtain ⟨e, he, hmem⟩ := h.answered r hr
    refine { h with fresh := by simp, printed := ?_ }
    intro text htext
    simp only [CmPhase.done.injEq, CmOutcome.printed.injEq] at htext
    exact ⟨e, he, r, hmem, htext.symm⟩
  | refuse hwait =>
    have honce := h.once
    have hcur : ¬ v.current := by
      intro hcur
      have := h.current hcur
      omega
    have hpast := h.past hcur
    exact { h with
      current := fun hc => absurd hc hcur
      past := fun _ => by simp only; omega
      once := by simp only; omega
      fresh := fun hphase => by
        have := h.fresh hphase
        omega
      executed := h.executed.trans (Nat.le_succ _) }
  | accept hwait hcur =>
    have honce := h.once
    have hpast := h.past hcur
    exact { h with
      current := fun _ => by simp only; omega
      past := fun hc => absurd trivial hc
      once := by simp only; omega
      fresh := fun hphase => by
        have := h.fresh hphase
        omega }
  | close hcur =>
    have hacc := h.current hcur
    exact { h with
      current := fun hc => hc.elim
      past := fun _ => hacc
      executed := h.executed.trans (Nat.le_succ _) }
  | serve e response hcur hp hr =>
    have hacc := h.current hcur
    have honce := h.once
    have hexec := h.executed
    have hkept : ∀ e' ∈ v.executions, e' ∈ v.executions ++ [e] := fun e' he' =>
      List.mem_append_left _ he'
    refine { h with
      current := fun hc => hc.elim
      past := fun _ => hacc
      queued := by simp
      executed := by simp only [List.length_append, List.length_singleton]; omega
      packet := ?_
      answered := ?_
      printed := ?_ }
    · intro e' he'
      rcases List.mem_append.mp he' with hold | hnew
      · exact h.packet e' hold
      · obtain rfl := List.mem_singleton.mp hnew
        exact h.queued _ hp
    · intro r hmem
      rcases hr r hmem with hnew | hold
      · exact ⟨e, by simp, hnew⟩
      · obtain ⟨e', he', hresp⟩ := h.answered r hold
        exact ⟨e', hkept e' he', hresp⟩
    · intro text htext
      obtain ⟨e', he', hresp⟩ := h.printed text htext
      exact ⟨e', hkept e' he', hresp⟩
  | drop =>
    have honce := h.once
    exact { h with
      once := by simp only; omega
      fresh := fun hphase => by
        have := h.fresh hphase
        simp only
        omega }

/-- The connections are sound in every state of every run. -/
lemma run_sound {w : ExtifWorld n κ} (h0 : w.Initial) (as : List (ExtifAction n κ)) (k : κ) :
    ((Transition.run ExtifWorld.step w as).view k).Sound := by
  have hinit : (w.view k).Sound := by
    obtain ⟨request, hk⟩ := h0.clients k
    constructor <;> simp [ExtifWorld.view, hk, h0.noSession, h0.noBacklog, h0.noExecution,
      executionsOf]
  have hmoves (v v' : SessionView n κ) (hmove : SessionMove v v') (hv : v.Sound) : v'.Sound :=
    hmove.sound hv
  apply Transition.run_invariant (I := fun w : ExtifWorld n κ => (w.view k).Sound) _ hinit
  intro w a h
  exact Transition.reflTransGen_invariant hmoves (w.step_moves a k) h

/-- Whatever the clients and the manager do in whatever order: the connection of a client is
accepted at most once, its descriptor is closed exactly once unless it is the one of the session,
and at most one packet is executed for it, the one that it wrote. -/
theorem session_safe {w : ExtifWorld n κ} (h0 : w.Initial) (as : List (ExtifAction n κ)) (k : κ) :
    let w' := Transition.run ExtifWorld.step w as
    let client := w'.clients k
    (w'.interfaceSessionEvsource = some k → client.accepted = 1 ∧ client.closed = 0) ∧
    (w'.interfaceSessionEvsource ≠ some k →
      client.accepted = client.closed ∧ client.closed ≤ 1) ∧
    (executionsOf k w'.executions).length ≤ client.closed ∧
    ∀ e ∈ executionsOf k w'.executions, client.request.packet = some e.packet := by
  intro w' client
  have hsound := run_sound h0 as k
  have honce : client.accepted ≤ 1 := (Nat.le_add_right _ _).trans hsound.once
  refine ⟨fun hcur => ?_, fun hcur => ?_, hsound.executed, hsound.packet⟩
  · have hacc : client.accepted = client.closed + 1 := hsound.current hcur
    omega
  · have hacc : client.accepted = client.closed := hsound.past hcur
    omega

/-- Two clients: one shuts a guest down, the other one lists the guests. -/
def twoClients : ExtifWorld 2 Bool where
  cs := setupManager demoGuests []
  clients k := { request := if k then .lifecycle 20 "demo" else .getGuestList 0 }

lemma twoClients_initial : twoClients.Initial := ⟨rfl, rfl, rfl, fun _ => ⟨_, rfl⟩⟩

/-- The first client is served, and the second one is refused meanwhile. -/
def servedRun : List (ExtifAction 2 Bool) :=
  [.connect true true, .connect false true, .incoming ⟨false, true, true, true⟩, .write true true,
    .incoming ⟨false, true, true, true⟩, .session false true (commandOk 0), .wait true true,
    .read true true]

theorem servedRun_safe :
    let w' := Transition.run ExtifWorld.step twoClients servedRun
    let client := w'.clients false
    (w'.interfaceSessionEvsource = some false → client.accepted = 1 ∧ client.closed = 0) ∧
    (w'.interfaceSessionEvsource ≠ some false →
      client.accepted = client.closed ∧ client.closed ≤ 1) ∧
    (executionsOf false w'.executions).length ≤ client.closed ∧
    ∀ e ∈ executionsOf false w'.executions, client.request.packet = some e.packet :=
  session_safe twoClients_initial servedRun false

omit [DecidableEq κ] in
lemma SessionView.Sound.closed_le {v : SessionView n κ} (h : v.Sound) : v.client.closed ≤ 1 := by
  have honce := h.once
  by_cases hcur : v.current
  · have hacc := h.current hcur
    omega
  · have hacc := h.past hcur
    omega

omit [DecidableEq κ] in
/-- What a client prints answers its own packet, which was executed exactly once. -/
lemma SessionView.Sound.printed_once {v : SessionView n κ} (h : v.Sound)
    {text : Option (List Char)} (hdone : v.client.phase = .done (.printed text)) :
    ∃ e, v.executions = [e] ∧ v.client.request.packet = some e.packet ∧
      ∃ r ∈ e.responses, text = v.client.request.print r := by
  obtain ⟨e, he, r, hr, htext⟩ := h.printed text hdone
  have hlen : v.executions.length ≤ 1 := h.executed.trans h.closed_le
  have hone : v.executions = [e] := by
    obtain ⟨e', he'⟩ := List.length_eq_one_iff.mp
      (le_antisymm hlen (List.length_pos_of_mem he))
    rw [he', List.mem_singleton] at he
    rw [he', he]
  exact ⟨e, hone, h.packet e he, r, hr, htext⟩

/-! ### What a client prints -/

omit [DecidableEq κ] in
/-- The response to a lifecycle packet: only one that was accepted is answered. -/
lemma lifecycle_responses {e : Execution n κ} {code : ℕ} {name : String}
    (hp : (CmRequest.lifecycle code name).packet = some e.packet) {r : ExtifResponse}
    (hr : r ∈ e.responses) : ∃ role, LifecycleTaken e.cs e.packet role ∧
      e.packet.command = (if role then 0x2001 else 0x2000) ∧ r = ⟨0xa2000, .response 0⟩ := by
  simp only [CmRequest.packet, Option.map_eq_some_iff] at hp
  obtain ⟨⟨command, subcommand⟩, hcodes, hpacket⟩ := hp
  have hcommand : command = 0x2000 ∨ command = 0x2001 := by
    simp only [lifecycleCodes] at hcodes
    split_ifs at hcodes <;> simp_all
  have hsize : 136 ≤ e.packet.size := by rw [← hpacket]
  have hname : e.packet.command = command := by rw [← hpacket]
  have hexec (role : Bool) (hc : e.packet.command = if role then 0x2001 else 0x2000) :
      e.responses = if (lifecycleCommand e.sys e.cs e.packet role).2 = 0
        then [⟨0xa2000, .response 0⟩] else [] := by
    rw [← containerExternalInterfaceCommandLifecycle_responses e.sys e.cs hsize role]
    have hmin : ¬ e.packet.size < 4 := by omega
    cases role <;> simp at hc <;>
      simp [Execution.responses, containerExternalInterfaceExec, hmin, hc]
  obtain ⟨role, hrole⟩ : ∃ role : Bool, e.packet.command = if role then 0x2001 else 0x2000 := by
    rcases hcommand with h | h
    · exact ⟨false, hname.trans h⟩
    · exact ⟨true, hname.trans h⟩
  rw [hexec role hrole] at hr
  split_ifs at hr with hret
  · exact ⟨role, (lifecycleCommand_accepts e.sys e.cs e.packet role).mp hret, hrole,
      List.mem_singleton.mp hr⟩
  · simp at hr

/-- In every run, when a client that asked to shut down or reboot guests has printed a text, then
the manager executed its packet exactly once and a guest that it addresses took the request, and the
text is the one for success. A refusal is never printed: a refused request has no answer. -/
theorem lifecycle_printed {w : ExtifWorld n κ} (h0 : w.Initial) (as : List (ExtifAction n κ))
    {k : κ} {code : ℕ} {name : String} {text : Option (List Char)} :
    let w' := Transition.run ExtifWorld.step w as
    (w'.clients k).request = .lifecycle code name →
    (w'.clients k).phase = .done (.printed text) →
    ∃ e role message, executionsOf k w'.executions = [e] ∧
      (CmRequest.lifecycle code name).packet = some e.packet ∧
      e.packet.command = (if role then 0x2001 else 0x2000) ∧ LifecycleTaken e.cs e.packet role ∧
      cmControlLifecycleMessages[code - 20]? = some message ∧
      text = some (message.toList ++ name.toList ++ "\n".toList) := by
  intro w' hreq hdone
  have hsound : (w'.view k).Sound := run_sound h0 as k
  obtain ⟨e, hone, hpacket, r, hr, htext⟩ := hsound.printed_once hdone
  have hview : (w'.view k).client.request = .lifecycle code name := hreq
  rw [hview] at hpacket htext
  obtain ⟨role, htaken, hcommand, rfl⟩ := lifecycle_responses hpacket hr
  have hcode : code - 20 < cmControlLifecycleMessages.length := by
    simp only [CmRequest.packet, Option.map_eq_some_iff] at hpacket
    obtain ⟨codes, hcodes, -⟩ := hpacket
    simp only [lifecycleCodes] at hcodes
    simp only [cmControlLifecycleMessages, List.length_cons, List.length_nil]
    split_ifs at hcodes <;> omega
  refine ⟨e, role, cmControlLifecycleMessages[code - 20], hone, hpacket, hcommand, htaken,
    List.getElem?_eq_getElem hcode, ?_⟩
  rw [htext]
  simp only [CmRequest.print, cmGetGuestLifecycle, if_true, List.getElem?_eq_getElem hcode,
    Option.map_some]

theorem servedRun_printed :
    ∃ e role message, executionsOf true
        (Transition.run ExtifWorld.step twoClients servedRun).executions = [e] ∧
      (CmRequest.lifecycle 20 "demo").packet = some e.packet ∧
      e.packet.command = (if role then 0x2001 else 0x2000) ∧ LifecycleTaken e.cs e.packet role ∧
      cmControlLifecycleMessages[20 - 20]? = some message ∧
      some "Success to shutdown guest: name = demo\n".toList =
        some (message.toList ++ "demo".toList ++ "\n".toList) :=
  lifecycle_printed twoClients_initial servedRun (by decide +kernel) (by decide +kernel)

/-! ### The end of the manager -/

/-- The handler answers a packet whose client closed its end after the events were found, and
`SIGPIPE` is not ignored. -/
def ExtifWorld.BrokenPipe (w : ExtifWorld n κ) (a : ExtifAction n κ) : Prop :=
  ∃ sys k p, a = .session false true sys ∧ w.alive ∧ w.interfaceSessionEvsource = some k ∧
    (w.clients k).toManager = some p ∧ w.RaisesSigpipe k sys p

lemma dropSession_alive (w : ExtifWorld n κ) : w.dropSession.alive = w.alive := by
  simp only [ExtifWorld.dropSession]
  cases w.interfaceSessionEvsource <;> rfl

lemma incomingHandler_alive (w : ExtifWorld n κ) (sys : ExtifWorld.IncomingSys) :
    (w.containerExternalInterfaceIncomingHandler sys).alive = w.alive := by
  simp only [ExtifWorld.containerExternalInterfaceIncomingHandler]
  by_cases herror : sys.error = true
  · rw [if_pos herror]
    rfl
  · rw [if_neg herror]
    cases w.backlog with
    | nil => rfl
    | cons k rest =>
      simp only [ExtifWorld.openSession]
      split_ifs <;> rfl

/-- A step of a client leaves the manager as it is. -/
lemma client_alive (w : ExtifWorld n κ) (k : κ) (ok : Bool) :
    (w.cmSocketSetup k ok).alive = w.alive ∧ (w.cmWrite k ok).alive = w.alive ∧
    (w.cmSocketWaitResponse k ok).alive = w.alive ∧ (w.cmRead k ok).alive = w.alive := by
  refine ⟨?_, ?_, ?_, ?_⟩
  · simp only [ExtifWorld.cmSocketSetup]
    split_ifs <;> rfl
  · simp only [ExtifWorld.cmWrite]
    cases (w.clients k).request.packet with
    | none => rfl
    | some p => dsimp only; split_ifs <;> rfl
  · simp only [ExtifWorld.cmSocketWaitResponse]
    split_ifs <;> rfl
  · simp only [ExtifWorld.cmRead]
    cases (w.clients k).toClient with
    | none => rfl
    | some r => dsimp only; split_ifs <;> rfl

lemma sessionsHandler_alive (w : ExtifWorld n κ) (k : κ) (hup pollin : Bool) (sys : CommandSys n) :
    (w.containerExternalInterfaceSessionsHandler k hup pollin sys).alive = true ↔
      w.alive = true ∧ ¬ (hup = false ∧ pollin = true ∧
        ∃ p, (w.clients k).toManager = some p ∧ w.RaisesSigpipe k sys p) := by
  simp only [ExtifWorld.containerExternalInterfaceSessionsHandler]
  cases hup with
  | true => simp [dropSession_alive]
  | false =>
    cases pollin with
    | false => simp
    | true =>
      cases hp : (w.clients k).toManager with
      | none => simp [dropSession_alive]
      | some p =>
        have halive : (w.execCommand k sys p).dropSession.alive = true ↔
            w.alive = true ∧ ¬ w.RaisesSigpipe k sys p := by
          rw [dropSession_alive]
          exact decide_eq_true_iff
        have hend : (if (w.execCommand k sys p).dropSession.alive = true then
              (w.execCommand k sys p).dropSession
            else (w.execCommand k sys p).dropSession.dropListening).alive =
            (w.execCommand k sys p).dropSession.alive := by
          split_ifs <;> rfl
        simp only [Bool.false_eq_true, if_false, if_true]
        rw [hend, halive]
        simp

lemma step_alive (w : ExtifWorld n κ) (a : ExtifAction n κ) :
    (w.step a).alive = true ↔ w.alive = true ∧ ¬ w.BrokenPipe a := by
  cases a with
  | session hup pollin sys =>
    simp only [ExtifWorld.step, ExtifWorld.BrokenPipe, ExtifAction.session.injEq]
    cases hs : w.interfaceSessionEvsource with
    | none => simp
    | some k =>
      dsimp only
      by_cases hcan : w.alive = true ∧ (hup = true → (w.clients k).Closed)
      · rw [if_pos hcan, sessionsHandler_alive]
        apply and_congr_right
        intro halive
        apply not_congr
        constructor
        · rintro ⟨rfl, rfl, p, hp, hraises⟩
          exact ⟨sys, k, p, ⟨rfl, rfl, rfl⟩, halive, rfl, hp, hraises⟩
        · rintro ⟨sys', k', p, ⟨rfl, rfl, rfl⟩, -, hk, hp, hraises⟩
          obtain rfl := Option.some.inj hk
          exact ⟨rfl, rfl, p, hp, hraises⟩
      · rw [if_neg hcan, iff_self_and]
        rintro halive ⟨sys', k', p, ⟨rfl, -, -⟩, -⟩
        exact hcan ⟨halive, by simp⟩
  | connect k ok =>
    have hno : ¬ w.BrokenPipe (.connect k ok) := by simp [ExtifWorld.BrokenPipe]
    simp only [ExtifWorld.step, hno, not_false_eq_true, and_true]
    split_ifs
    · rw [(client_alive w k ok).1]
    · rfl
  | write k ok =>
    have hno : ¬ w.BrokenPipe (.write k ok) := by simp [ExtifWorld.BrokenPipe]
    simp only [ExtifWorld.step, hno, not_false_eq_true, and_true]
    split_ifs
    · rw [(client_alive w k ok).2.1]
    · rfl
  | wait k ok =>
    have hno : ¬ w.BrokenPipe (.wait k ok) := by simp [ExtifWorld.BrokenPipe]
    simp only [ExtifWorld.step, hno, not_false_eq_true, and_true]
    split_ifs
    · rw [(client_alive w k ok).2.2.1]
    · rfl
  | read k ok =>
    have hno : ¬ w.BrokenPipe (.read k ok) := by simp [ExtifWorld.BrokenPipe]
    simp only [ExtifWorld.step, hno, not_false_eq_true, and_true]
    split_ifs
    · rw [(client_alive w k ok).2.2.2]
    · rfl
  | incoming sys =>
    have hno : ¬ w.BrokenPipe (.incoming sys) := by simp [ExtifWorld.BrokenPipe]
    simp only [ExtifWorld.step, hno, not_false_eq_true, and_true]
    split_ifs
    · rw [incomingHandler_alive]
    · rfl
  | cleanup =>
    have hno : ¬ w.BrokenPipe .cleanup := by simp [ExtifWorld.BrokenPipe]
    simp only [ExtifWorld.step, hno, not_false_eq_true, and_true]
    split_ifs
    · exact iff_of_eq (congrArg (· = true) (dropSession_alive w))
    · rfl
  | other cs =>
    have hno : ¬ w.BrokenPipe (.other cs) := by simp [ExtifWorld.BrokenPipe]
    simp only [ExtifWorld.step, hno, not_false_eq_true, and_true]
    split_ifs <;> rfl

/-- The client gives up after the events of its session were found. -/
def brokenRun : List (ExtifAction 2 Bool) :=
  [.connect true true, .incoming ⟨false, true, true, true⟩, .write true true, .wait true true,
    .session false true (commandOk 0)]

end ContainerManager

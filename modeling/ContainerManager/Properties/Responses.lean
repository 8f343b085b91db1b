import ContainerManager.Properties.Addressing

/-!
# Responses to requests

A lifecycle command that is not accepted is not answered, although its response was computed, and
the response of the test command has no command in its header. All other requests are answered once.
-/

namespace ContainerManager

variable {n : ℕ}

/-! ### Correct answers -/

/-- A known command of at least its size: get guests, lifecycle by name and by role, change active
guest, test trigger. -/
inductive ExtifPacket.WellFormed (p : ExtifPacket) : Prop where
  | get (hc : p.command = 0x1000) (hs : 4 ≤ p.size)
  | lifecycleName (hc : p.command = 0x2000) (hs : 136 ≤ p.size)
  | lifecycleRole (hc : p.command = 0x2001) (hs : 136 ≤ p.size)
  | change (hc : p.command = 0x3000) (hs : 132 ≤ p.size)
  | test (hc : p.command = 0xf000) (hs : 8 ≤ p.size)

/-- `CONTAINER_EXTIF_COMMAND_RESPONSE_*`, by the command of the request. -/
def responseCommand (command : ℕ) : ℕ :=
  if command = 0x1000 then 0xa1000
  else if command = 0x2000 ∨ command = 0x2001 then 0xa2000
  else if command = 0x3000 then 0xa3000
  else 0xaf000

/-- The change command is accepted: it moves the guest it names to the top of its role. -/
def ChangeAccepted (cs : Containers n) (name : String) : Prop :=
  ∃ i, (List.finRange n).find? (fun i => (cs.containers i).name = name) = some i ∧
    (changeRoleList cs.containers name (cs.containers i).role cs.roleList).2 = true

/-- A guest has this name. -/
def NameKnown (cs : Containers n) (name : String) : Prop := ∃ i, (cs.containers i).name = name

/-- The response carries the code of its request, and for lifecycle and change tells whether the
operation was accepted; otherwise it carries the code that was computed. That of a change is no name
when no guest has the name, and error when the guest cannot be moved. -/
structure CorrectResponse (sys : CommandSys n) (cs : Containers n) (p : ExtifPacket)
    (r : ExtifResponse) : Prop where
  command : r.command = responseCommand p.command
  lifecycle : ∀ role, p.command = (if role then 0x2001 else 0x2000) →
    let ret := (lifecycleCommand sys cs p role).2
    ∃ response, r.payload = .response response ∧ (response = 0 ↔ ret = 0) ∧
      response = lifecycleResponse p.subcommand ret
  change : p.command = 0x3000 →
    ∃ response, r.payload = .response response ∧ (response = 0 ↔ ChangeAccepted cs p.guestName) ∧
      (response = -1 ↔ ¬ NameKnown cs p.guestName) ∧
      (response = -100 ↔ NameKnown cs p.guestName ∧ ¬ ChangeAccepted cs p.guestName)

/-- Exactly one response is written, the correct one. -/
def AnsweredOnce (sys : CommandSys n) (cs : Containers n) (p : ExtifPacket) : Prop :=
  ∃ r, (containerExternalInterfaceExec sys cs p).2.2 = [r] ∧ CorrectResponse sys cs p r

/-- A guest that the command selects takes the request: every guest takes a force reboot, and in the
run state all but the exited ones take a reboot or a shutdown. -/
def LifecycleTaken (cs : Containers n) (p : ExtifPacket) (role : Bool) : Prop :=
  ∃ i, lifecycleSelects role p.guestName (cs.containers i) ∧
    (p.subcommand = 3 ∨ (p.subcommand = 2 ∨ p.subcommand = 1) ∧
      ¬ (cs.sysState = .run ∧ (cs.containers i).runtimeStat.status = .exit))

/-- The requests that are answered. -/
def Answerable (cs : Containers n) (p : ExtifPacket) : Prop :=
  p.command = 0x1000 ∨ p.command = 0x3000 ∨
    ∃ role, p.command = (if role then 0x2001 else 0x2000) ∧ LifecycleTaken cs p role

/-! ### Lifecycle -/

lemma containerRequestShutdown_accepts (sys : RequestSys) (cc : ContainerConfig)
    (s : SystemState) : (containerRequestShutdown sys cc s).2 = 0 ↔
      ¬ (s = .run ∧ cc.runtimeStat.status = .exit) := by
  simp only [containerRequestShutdown, containerRequestShutdownBody]
  cases s <;> cases h : cc.runtimeStat.status <;> simp

lemma containerRequestReboot_accepts (sys : RequestSys) (cc : ContainerConfig)
    (s : SystemState) : (containerRequestReboot sys cc s).2 = 0 ↔
      ¬ (s = .run ∧ cc.runtimeStat.status = .exit) := by
  simp only [containerRequestReboot]
  cases s <;> cases h : cc.runtimeStat.status <;> simp

/-- A lifecycle command is accepted exactly when a guest takes it. -/
lemma lifecycleCommand_accepts (sys : CommandSys n) (cs : Containers n) (p : ExtifPacket)
    (role : Bool) : (lifecycleCommand sys cs p role).2 = 0 ↔ LifecycleTaken cs p role := by
  unfold lifecycleCommand LifecycleTaken containerExternalInterfaceForceRebootGuest
    containerExternalInterfaceRebootGuest containerExternalInterfaceShutdownGuest
  split_ifs with h3 h2 h1
  · rw [lifecycleGuests_eq]
    simp [h3]
  · rw [lifecycleGuests_eq]
    simp [h2, containerRequestReboot_accepts]
  · rw [lifecycleGuests_eq]
    simp [h1, containerRequestShutdown_accepts]
  · simp [h3, h2, h1]

/-- A lifecycle command of sufficient size is answered when it is accepted. -/
lemma containerExternalInterfaceCommandLifecycle_responses (sys : CommandSys n)
    (cs : Containers n) {p : ExtifPacket} (hs : 136 ≤ p.size) (role : Bool) :
    (containerExternalInterfaceCommandLifecycle sys cs p role).2.2 =
      if (lifecycleCommand sys cs p role).2 = 0 then [⟨0xa2000, .response 0⟩] else [] := by
  simp only [containerExternalInterfaceCommandLifecycle]
  rw [if_pos hs]
  split_ifs <;> rfl

/-- The command of a request tells whether it names a guest or a role. -/
lemma role_of_command {p : ExtifPacket} {role role' : Bool}
    (h : p.command = if role then 0x2001 else 0x2000)
    (h' : p.command = if role' then 0x2001 else 0x2000) : role' = role := by
  rw [h] at h'
  cases role <;> cases role' <;> simp_all

lemma lifecycle_answeredOnce_iff (sys : CommandSys n) (cs : Containers n) {p : ExtifPacket}
    (role : Bool) (hc : p.command = if role then 0x2001 else 0x2000) (hs : 136 ≤ p.size) :
    AnsweredOnce sys cs p ↔ Answerable cs p := by
  have hexec : containerExternalInterfaceExec sys cs p =
      containerExternalInterfaceCommandLifecycle sys cs p role := by
    simp only [containerExternalInterfaceExec]
    rw [if_neg (by omega)]
    cases role <;> simp [hc]
  have hanswerable : Answerable cs p ↔ (lifecycleCommand sys cs p role).2 = 0 := by
    rw [lifecycleCommand_accepts]
    constructor
    · rintro (h | h | ⟨role', h, ht⟩)
      · cases role <;> simp [hc] at h
      · cases role <;> simp [hc] at h
      · rwa [role_of_command hc h] at ht
    · exact fun ht => Or.inr (Or.inr ⟨role, hc, ht⟩)
  rw [hanswerable]
  simp only [AnsweredOnce]
  rw [hexec, containerExternalInterfaceCommandLifecycle_responses sys cs hs role]
  constructor
  · rintro ⟨r, hr, -⟩
    by_contra hret
    simp [hret] at hr
  · intro hret
    obtain ⟨i, -, htaken⟩ := (lifecycleCommand_accepts sys cs p role).mp hret
    have hsub : p.subcommand = 3 ∨ p.subcommand = 2 ∨ p.subcommand = 1 := htaken.imp id And.left
    rw [if_pos hret]
    refine ⟨_, rfl, ?_, ?_, ?_⟩
    · cases role <;> simp [hc, responseCommand]
    · intro role' h
      rw [role_of_command hc h]
      exact ⟨0, rfl, by simp [hret], by simp [lifecycleResponse, hret, hsub]⟩
    · intro h
      cases role <;> simp [hc] at h

/-! ### The other commands -/

lemma get_answeredOnce (sys : CommandSys n) (cs : Containers n) {p : ExtifPacket}
    (hc : p.command = 0x1000) (hs : 4 ≤ p.size) : AnsweredOnce sys cs p := by
  simp only [AnsweredOnce, containerExternalInterfaceExec, containerExternalInterfaceCommandGet]
  rw [if_neg (by omega), if_pos hc, if_pos hs]
  have hcommand : responseCommand p.command = 0xa1000 := by simp [responseCommand, hc]
  refine ⟨_, rfl, hcommand.symm, ?_, ?_⟩
  · intro role h
    cases role <;> simp [hc] at h
  · intro h
    simp [hc] at h

lemma change_answeredOnce (sys : CommandSys n) (cs : Containers n) {p : ExtifPacket}
    (hc : p.command = 0x3000) (hs : 132 ≤ p.size) : AnsweredOnce sys cs p := by
  have hcommand : responseCommand p.command = 0xa3000 := by simp [responseCommand, hc]
  have hlife : ∀ role : Bool, p.command ≠ if role then 0x2001 else 0x2000 := by
    intro role
    cases role <;> simp [hc]
  simp only [AnsweredOnce, containerExternalInterfaceExec, containerExternalInterfaceCommandChange]
  rw [if_neg (by omega), if_neg (by simp [hc]), if_neg (by simp [hc]), if_neg (by simp [hc]),
    if_pos hc, if_pos hs]
  split
  · rename_i i hi
    refine ⟨_, rfl, hcommand.symm, fun role h => absurd h (hlife role), fun _ => ⟨_, rfl, ?_⟩⟩
    have hknown : NameKnown cs p.guestName := ⟨i, by simpa using List.find?_some hi⟩
    have haccepted : ChangeAccepted cs p.guestName ↔
        (changeRoleList cs.containers p.guestName (cs.containers i).role cs.roleList).2 = true := by
      constructor
      · rintro ⟨j, hj, ha⟩
        obtain rfl := Option.some.inj (hi.symm.trans hj)
        exact ha
      · exact fun ha => ⟨i, hi, ha⟩
    rw [haccepted]
    split_ifs with ha <;> simp [ha, hknown]
  · rename_i hi
    refine ⟨_, rfl, hcommand.symm, fun role h => absurd h (hlife role), fun _ => ⟨_, rfl, ?_⟩⟩
    have hunknown : ¬ NameKnown cs p.guestName := by
      rintro ⟨i, h⟩
      simpa [h] using List.find?_eq_none.mp hi i (List.mem_finRange i)
    have hnot : ¬ ChangeAccepted cs p.guestName := by
      rintro ⟨j, hj, -⟩
      simp [hi] at hj
    simp [hnot, hunknown]

/-- The response of the test command has a zero header, if there is one. -/
lemma containerExternalInterfaceCommandTest_responses (sys : CommandSys n) (cs : Containers n)
    (p : ExtifPacket) :
    ∀ r ∈ (containerExternalInterfaceCommandTest sys cs p).2.2, r.command = 0 := by
  rw [containerExternalInterfaceCommandTest]
  split
  · dsimp only
    generalize (if p.code = 0 then _ else _ : Containers n × ℤ × ℤ) = r
    split <;> simp
  · simp

lemma test_not_answeredOnce (sys : CommandSys n) (cs : Containers n) {p : ExtifPacket}
    (hc : p.command = 0xf000) (hs : 8 ≤ p.size) : ¬ AnsweredOnce sys cs p := by
  rintro ⟨r, hr, hcorrect⟩
  have hexec : containerExternalInterfaceExec sys cs p =
      containerExternalInterfaceCommandTest sys cs p := by
    simp only [containerExternalInterfaceExec]
    rw [if_neg (by omega)]
    simp [hc]
  have hcommand := hcorrect.command
  rw [containerExternalInterfaceCommandTest_responses sys cs p r (by simp [← hexec, hr]), hc]
    at hcommand
  simp [responseCommand] at hcommand

/-- A well formed request is answered once and correctly exactly when it asks for the guests or for
a change, or is a lifecycle command that a guest takes. -/
theorem answered_correctly_iff (sys : CommandSys n) (cs : Containers n) {p : ExtifPacket}
    (hp : p.WellFormed) : AnsweredOnce sys cs p ↔ Answerable cs p := by
  cases hp with
  | get hc hs => exact iff_of_true (get_answeredOnce sys cs hc hs) (Or.inl hc)
  | lifecycleName hc hs => exact lifecycle_answeredOnce_iff sys cs false hc hs
  | lifecycleRole hc hs => exact lifecycle_answeredOnce_iff sys cs true hc hs
  | change hc hs => exact iff_of_true (change_answeredOnce sys cs hc hs) (Or.inr (Or.inl hc))
  | test hc hs =>
    apply iff_of_false (test_not_answeredOnce sys cs hc hs)
    rintro (h | h | ⟨role, h, -⟩)
    · simp [hc] at h
    · simp [hc] at h
    · cases role <;> simp [hc] at h

/-- A shutdown request by name. -/
def shutdownRequest (name : String) : ExtifPacket :=
  { size := 136, command := 0x2000, subcommand := 1, guestName := name }

theorem answered_correctly_iff_demo :
    AnsweredOnce (commandOk 0) (setupManager demoGuests []) (shutdownRequest "demo") := by
  refine (answered_correctly_iff _ _ (.lifecycleName rfl le_rfl)).mpr (.inr (.inr ⟨false, rfl, ?_⟩))
  exact ⟨0, by decide, .inr ⟨.inr rfl, by decide⟩⟩

/-- A request for an unknown guest is not answered at all. -/
theorem unknown_name_not_answered :
    (shutdownRequest "unknown").WellFormed ∧
      ¬ AnsweredOnce (commandOk 0) (setupManager demoGuests []) (shutdownRequest "unknown") := by
  refine ⟨.lifecycleName rfl le_rfl, ?_⟩
  rintro ⟨r, hr, -⟩
  have hnil : (containerExternalInterfaceExec (commandOk 0) (setupManager demoGuests [])
      (shutdownRequest "unknown")).2.2 = [] := by decide
  simp [hnil] at hr

end ContainerManager

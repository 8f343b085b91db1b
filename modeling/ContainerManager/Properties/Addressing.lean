import ContainerManager.System

/-!
# The guests a lifecycle command acts on

A lifecycle command acts on every guest whose name, or whose role when it is started, is a prefix of
the requested string. So it acts on the requested guests exactly when none of these is a proper
prefix.
-/

namespace ContainerManager

variable {n : ℕ}

/-! ### The loop -/

/-- The loop acts on each of its guests for itself. -/
lemma lifecycle_foldl (act : Fin n → ContainerConfig → ContainerConfig × ℤ)
    (selects : ContainerConfig → Bool) {l : List (Fin n)} (hl : l.Nodup) (cs : Containers n)
    (ret : ℤ) :
    l.foldl (fun (s : Containers n × ℤ) i =>
        let cc := s.1.containers i
        if selects cc then
          let r := act i cc
          (s.1.setGuest i r.1, if r.2 = 0 then 0 else s.2)
        else s) (cs, ret) =
      ({ cs with containers := fun i =>
          if i ∈ l ∧ selects (cs.containers i) then (act i (cs.containers i)).1
          else cs.containers i },
        if ∃ i ∈ l, selects (cs.containers i) ∧ (act i (cs.containers i)).2 = 0 then 0
        else ret) := by
  induction l generalizing cs ret with
  | nil => simp
  | cons j l ih =>
    obtain ⟨hj, hl⟩ := List.nodup_cons.mp hl
    rw [List.foldl_cons]
    dsimp only
    have hne : ∀ i ∈ l, i ≠ j := fun i hi e => hj (e ▸ hi)
    by_cases hs : selects (cs.containers j)
    · have hsame : ∀ i ∈ l, (cs.setGuest j (act j (cs.containers j)).1).containers i =
          cs.containers i := fun i hi => by simp [Containers.setGuest, hne i hi]
      have hret : (∃ i ∈ l, selects ((cs.setGuest j (act j (cs.containers j)).1).containers i) ∧
          (act i ((cs.setGuest j (act j (cs.containers j)).1).containers i)).2 = 0) ↔
            ∃ i ∈ l, selects (cs.containers i) ∧ (act i (cs.containers i)).2 = 0 := by
        refine exists_congr fun i => and_congr_right fun hi => ?_
        rw [hsame i hi]
      rw [if_pos hs, ih hl]
      apply Prod.ext
      · refine congrArg (fun g => { cs with containers := g }) (funext fun i => ?_)
        by_cases hij : i = j
        · subst hij
          simp [hj, hs, Containers.setGuest]
        · simp [hij, Containers.setGuest]
      · simp only [hret, List.exists_mem_cons_iff, hs, true_and]
        by_cases h0 : (act j (cs.containers j)).2 = 0
        · simp [h0]
        · simp [h0]
    · rw [if_neg hs, ih hl]
      apply Prod.ext
      · refine congrArg (fun g => { cs with containers := g }) (funext fun i => ?_)
        by_cases hij : i = j
        · subst hij
          simp [hs]
        · simp [hij]
      · simp [hs]

/-- What a lifecycle command leaves, and whether it is accepted. -/
lemma lifecycleGuests_eq (act : Fin n → ContainerConfig → ContainerConfig × ℤ) (name : String)
    (role : Bool) (cs : Containers n) :
    lifecycleGuests act name role cs =
      ({ cs with containers := fun i =>
          if lifecycleSelects role name (cs.containers i) then (act i (cs.containers i)).1
          else cs.containers i },
        if ∃ i, lifecycleSelects role name (cs.containers i) ∧ (act i (cs.containers i)).2 = 0
        then 0 else -1) := by
  have h := lifecycle_foldl act (lifecycleSelects role name) (List.nodup_finRange n) cs (-1)
  rw [lifecycleGuests, Loop.forEach, h]
  simp

/-! ### Addressed guests -/

/-- The guest is the one the command names, or is started and of the role it names. -/
def Addressed (role : Bool) (name : String) (cc : ContainerConfig) : Prop :=
  if role then cc.runtimeStat.status = .started ∧ cc.role = name else cc.name = name

instance (role : Bool) (name : String) (cc : ContainerConfig) :
    Decidable (Addressed role name cc) :=
  inferInstanceAs (Decidable (ite _ _ _))

/-- What a command that does `act` to the addressed guests leaves, and its acceptance: it was done
to one of them with the result 0. -/
def actOnAddressed (act : Fin n → ContainerConfig → ContainerConfig × ℤ) (role : Bool)
    (name : String) (cs : Containers n) : Containers n × ℤ :=
  ({ cs with containers := fun i =>
      if Addressed role name (cs.containers i) then (act i (cs.containers i)).1
      else cs.containers i },
    if ∃ i, Addressed role name (cs.containers i) ∧ (act i (cs.containers i)).2 = 0 then 0 else -1)

/-- Whatever the loop of the lifecycle commands does to a guest, it does to the addressed guests and
to no other, and so do the three commands. -/
structure ActsOnAddressed (role : Bool) (name : String) (cs : Containers n) : Prop where
  loop : ∀ act, lifecycleGuests act name role cs = actOnAddressed act role name cs
  forceReboot : ∀ sys : CommandSys n, containerExternalInterfaceForceRebootGuest sys name role cs =
    actOnAddressed (fun i cc => (lxcutilContainerForcekill (sys.request i).initPid cc, 0)) role
      name cs
  reboot : ∀ sys : CommandSys n, containerExternalInterfaceRebootGuest sys name role cs =
    actOnAddressed (fun i cc => containerRequestReboot (sys.request i) cc cs.sysState) role name cs
  shutdown : ∀ sys : CommandSys n, containerExternalInterfaceShutdownGuest sys name role cs =
    actOnAddressed (fun i cc => containerRequestShutdown (sys.request i) cc cs.sysState) role
      name cs

/-- The string the guest is compared by. -/
def ContainerConfig.own (role : Bool) (cc : ContainerConfig) : String :=
  if role then cc.role else cc.name

/-- No guest has a name, or a role if it is started, that is a proper prefix of the requested
string. -/
def NoProperPrefix (role : Bool) (name : String) (cs : Containers n) : Prop :=
  ∀ i, (role = true → (cs.containers i).runtimeStat.status = .started) →
    ((cs.containers i).own role).toList <+: name.toList → (cs.containers i).own role = name

lemma lifecycleSelects_iff {role : Bool} {name : String} {cc : ContainerConfig} :
    lifecycleSelects role name cc ↔
      (role = true → cc.runtimeStat.status = .started) ∧ (cc.own role).toList <+: name.toList := by
  cases role <;>
    simp [lifecycleSelects, nameMatches, ContainerConfig.own, List.isPrefixOf_iff_prefix]

lemma addressed_iff {role : Bool} {name : String} {cc : ContainerConfig} :
    Addressed role name cc ↔
      (role = true → cc.runtimeStat.status = .started) ∧ cc.own role = name := by
  cases role <;> simp [Addressed, ContainerConfig.own]

/-- The commands select the addressed guests exactly when no other guest's name is a prefix. -/
lemma selects_addressed_iff {role : Bool} {name : String} {cs : Containers n} :
    (∀ i, lifecycleSelects role name (cs.containers i) ↔ Addressed role name (cs.containers i)) ↔
      NoProperPrefix role name cs := by
  refine forall_congr' fun i => ?_
  rw [lifecycleSelects_iff, addressed_iff, and_congr_right_iff]
  refine ⟨fun h hs hp => (h hs).mp hp, fun h hs => ⟨h hs, fun e => ?_⟩⟩
  rw [e]

lemma ActsOnAddressed.selects {role : Bool} {name : String} {cs : Containers n}
    (h : ActsOnAddressed role name cs) (i : Fin n) :
    lifecycleSelects role name (cs.containers i) ↔ Addressed role name (cs.containers i) := by
  -- an action that every guest shows
  have hi := congrArg (fun r => (r.1.containers i).launches)
    (h.loop fun _ cc => ({ cc with launches := cc.launches + 1 }, 0))
  rw [lifecycleGuests_eq, actOnAddressed] at hi
  dsimp only at hi
  split_ifs at hi with hs ha ha <;> simp_all

/-- The commands act on the addressed guests, and no other, exactly when no name is a proper prefix
of the requested string. -/
theorem acts_on_addressed_iff (role : Bool) (name : String) (cs : Containers n) :
    ActsOnAddressed role name cs ↔ NoProperPrefix role name cs := by
  rw [← selects_addressed_iff]
  constructor
  · exact fun h => h.selects
  · intro h
    have hloop : ∀ act, lifecycleGuests act name role cs = actOnAddressed act role name cs := by
      intro act
      rw [lifecycleGuests_eq, actOnAddressed]
      simp only [h]
    exact ⟨hloop, fun _ => hloop _, fun _ => hloop _, fun _ => hloop _⟩

/-- The guests of two instances of one application. -/
def demoGuests (i : Fin 2) : ContainerConfig :=
  if i.val = 0 then freshGuest "demo" "demo" {} else freshGuest "demo2" "demo2" {}

/-- A request for the second guest also acts on the first one. -/
theorem prefix_acted_on : ¬ ActsOnAddressed false "demo2" (setupManager demoGuests []) := by
  intro h
  exact absurd ((h.selects 0).mp (by decide)) (by decide)

end ContainerManager

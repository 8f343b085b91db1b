import ContainerManager.Properties.ParserMemory.Config

/-!
# What the container config parser holds

The parser on a file: when it reads what was freed, what is left after its config is released, and
what is live when no allocation fails.
-/

namespace ContainerManager.Memory

open Ownership

variable {mem : ℕ → Bool} {E : Fault → Prop}

/-- The file is opened and read. -/
def ReadSys.Reads (sys : ReadSys) : Prop := sys.opened ∧ sys.fstat ∧ sys.regular ∧ sys.read

lemma cmparserReadJsonstring_owns (sys : ReadSys) :
    Owns 0 (cmparserReadJsonstring mem sys)
      (fun p R => R = one .jsonstring p ∧ (p.isSome = true → sys.Reads) ∧
        (NeverFails mem → sys.Reads → p.isSome = true)) E := by
  rw [cmparserReadJsonstring]
  cases hopened : sys.opened with
  | false =>
    apply Owns.pure
    simp [ReadSys.Reads, hopened]
  | true =>
    simp only [acquireIf, if_true, bind_map_left]
    apply Owns.acquire
    intro fd
    by_cases hstat : sys.fstat ∧ sys.regular
    · rw [if_neg (not_not_intro hstat)]
      apply malloc_bind
      intro strbuf hstrbuf
      cases strbuf with
      | none =>
        apply Owns.release (zero_add _)
        exact Owns.pure ⟨rfl, by simp, fun hfull => absurd rfl (hstrbuf hfull)⟩
      | some strbuf =>
        cases hread : sys.read with
        | false =>
          apply Owns.release rfl
          apply Owns.release rfl
          apply Owns.pure
          simp [ReadSys.Reads, hread]
        | true =>
          apply Owns.release (add_left_comm _ _ _)
          apply Owns.pure
          simp [ReadSys.Reads, hopened, hstat, hread]
    · rw [if_pos hstat]
      apply Owns.release rfl
      apply Owns.pure
      refine ⟨rfl, by simp, fun _ hreads => absurd ⟨hreads.2.1, hreads.2.2.1⟩ hstat⟩

/-- What the parser left of a file. -/
structure Created (mem : ℕ → Bool) (sys : ReadSys) (json : Option CJson) (n : ℕ)
    (r : Option ConfigMem × ℤ) (R : Blocks) (m : ℕ) : Prop where
  lost : ∃ L, LostItems mem n m L ∧ R = r.1.elim 0 ConfigMem.own + L ∧ (NeverFails mem → L = 0)
  exact : NeverFails mem → sys.Reads → ∀ doc ∈ json, ¬ RulelessDocument doc ∧
    r.2 = (cmparserCreateConfig doc).2 ∧
    R.map Prod.fst = (cmparserCreateConfig doc).1.elim 0 configKinds

/-- The parser gave up. -/
lemma Created.failed {sys : ReadSys} {json : Option CJson} {ret : ℤ}
    (h : NeverFails mem → sys.Reads → json = none) (n m : ℕ) :
    Created mem sys json n (none, ret) 0 m := by
  refine ⟨⟨0, lostItems_zero n m, rfl, fun _ => rfl⟩, fun hfull hreads doc hdoc => ?_⟩
  rw [h hfull hreads] at hdoc
  cases hdoc

lemma cmparserCreateFromFile_owns (sys : ReadSys) (json : Option CJson) (n : ℕ) :
    OwnsFrom 0 n (cmparserCreateFromFile mem sys json) (Created mem sys json n)
      (fun f => sys.Reads ∧ ∃ doc ∈ json, f = .dangling ∧ RulelessDocument doc ∨
        f = .null ∧ doc.getString "role" = none ∧ ¬ NeverFails mem) := by
  rw [cmparserCreateFromFile]
  apply ((cmparserReadJsonstring_owns sys).from_next n).call (zero_add _).symm fun _ he => he
  rintro jsonstring _ m hm ⟨rfl, hreads, hread⟩
  cases jsonstring with
  | none =>
    have hnone (hfull : NeverFails mem) (h : sys.Reads) : json = none :=
      absurd (hread hfull h) (by simp)
    exact OwnsFrom.pure (.failed hnone _ _)
  | some jsonstring =>
    cases json with
    | none =>
      apply ((Owns.release_last _ _).from_next m).call (add_zero _).symm fun _ he => he
      rintro _ _ k - rfl
      exact OwnsFrom.pure (.failed (fun _ _ => rfl) _ _)
    | some json =>
      apply (Owns.acquire_last.from_next m).call (zero_add _).symm fun _ he => he
      rintro tree _ k hk rfl
      replace hm := hm.trans hk
      apply OwnsFrom.tryAcquire
      · intro _
        apply (parseSections_owns k json (k + 1)).call rfl
          fun f hf => ⟨hreads rfl, json, rfl, hf⟩
        intro r R m hm' hr
        obtain ⟨L, hL, hR⟩ := hr.lost
        have hnone (hfull : NeverFails mem) : L = 0 := by
          rw [(hr.exact hfull).1] at hR
          exact (add_eq_left.mp hR.symm)
        apply ((Owns.release_last _ _).from_next m).call (add_left_comm _ _ _) fun _ he => he
        rintro _ _ m₁ hm₁ rfl
        rw [zero_add]
        apply ((Owns.release_last _ _).from_next m₁).call (add_left_comm _ _ _) fun _ he => he
        rintro _ _ m₂ hm₂ rfl
        rw [zero_add, add_zero]
        have hwide : LostItems mem n m₂ L := hL.widen (by omega) hm' (hm₁.trans hm₂)
        apply OwnsFrom.ite
        · intro hret
          refine OwnsFrom.pure ⟨⟨L, hwide, hR, hnone⟩, ?_⟩
          rintro hfull - doc ⟨⟩
          obtain ⟨-, hvalue, hruleless, hkinds⟩ := hr.exact hfull
          refine ⟨hruleless, by rw [← hvalue, hret], ?_⟩
          rw [hret, eq_comm, cmparserCreateConfig_ret] at hvalue
          obtain ⟨cc, hcc⟩ := Option.isSome_iff_exists.mp hvalue
          rw [hcc, Option.elim_some]
          exact hkinds cc hcc
        · intro hret
          apply ((cmparserReleaseConfig_owns r.1).from_next m₂).call hR fun _ he => he
          rintro _ _ m₃ hm₃ rfl
          rw [zero_add]
          have hwide' : LostItems mem n m₃ L := hwide.widen le_rfl (by omega) hm₃
          refine OwnsFrom.pure ⟨⟨L, hwide', (zero_add _).symm, hnone⟩, ?_⟩
          rintro hfull - doc ⟨⟩
          obtain ⟨-, hvalue, hruleless, -⟩ := hr.exact hfull
          refine ⟨hruleless, hvalue, ?_⟩
          rw [hvalue, cmparserCreateConfig_ret, Bool.not_eq_true, Option.isSome_eq_false_iff,
            Option.isNone_iff_eq_none] at hret
          rw [hnone hfull, hret]
          rfl
      · intro hfails
        apply ((Owns.release_last _ _).from_next (k + 1)).call rfl fun _ he => he
        rintro _ _ m₁ - rfl
        rw [zero_add]
        apply ((Owns.release_last _ _).from_next m₁).call (add_zero _).symm fun _ he => he
        rintro _ _ m₂ - rfl
        have hnone (hfull : NeverFails mem) (_ : sys.Reads) : some json = none := by
          simp [hfull k] at hfails
        exact OwnsFrom.pure (.failed hnone _ _)

/-- The program reads a released item exactly when an item of an accepted document has no rule. -/
theorem create_faults_iff (hmem : NeverFails mem) (sys : ReadSys) (json : Option CJson)
    (l : Ledger Block) (f : Fault) :
    cmparserCreateFromFile mem sys json l = .error f ↔
      f = .dangling ∧ sys.Reads ∧ ∃ doc ∈ json, RulelessDocument doc := by
  have hmeets := @cmparserCreateFromFile_owns mem sys json l.next l.live l (zero_add _).symm rfl
  constructor
  · intro h
    rw [h] at hmeets
    obtain ⟨hreads, doc, hdoc, ⟨hf, hruleless⟩ | ⟨-, -, hfails⟩⟩ := hmeets
    · exact ⟨hf, hreads, doc, hdoc, hruleless⟩
    · exact absurd hmem hfails
  · rintro ⟨rfl, hreads, doc, hdoc, hruleless⟩
    cases hr : cmparserCreateFromFile mem sys json l with
    | error f =>
      rw [hr] at hmeets
      obtain ⟨-, _, -, ⟨rfl, -⟩ | ⟨-, -, hfails⟩⟩ := hmeets
      · rfl
      · exact absurd hmem hfails
    | ok r =>
      rw [hr] at hmeets
      obtain ⟨-, R, hR, -⟩ := hmeets
      exact absurd hruleless (hR.exact hmem hreads doc hdoc).1

/-- A document with one item, which has these members. -/
def oneItemDocument (item : List (String × CJson)) : CJson :=
  .object [("name", .string "ivi"), ("role", .string "ivi"), ("base", .object []),
    ("fs", .object []), ("device", .object [("dynamic", .array [.object [
      ("devpath", .string "/devices"), ("items", .array [.object item])]])])]

lemma oneItemDocument_ruleless (item : List (String × CJson)) :
    RulelessDocument (oneItemDocument item) ↔ RulelessItem (.object item) := by
  have hname : (oneItemDocument item).getString "name" = some "ivi" := rfl
  obtain ⟨cc, hvalue, -⟩ := cmparserCreateConfig_accepted hname rfl rfl rfl
  constructor
  · rintro ⟨-, device, ⟨⟩, elem, helem, -, i, hi, hr⟩
    obtain rfl := List.mem_singleton.mp helem
    obtain rfl := List.mem_singleton.mp hi
    exact hr
  · intro h
    exact ⟨by rw [hvalue]; rfl, _, rfl, _, List.mem_singleton_self _, rfl, _,
      List.mem_singleton_self _, h⟩

theorem subsystemOnly_faults :
    cmparserCreateFromFile (fun _ => true) ⟨true, true, true, true⟩
      (some (oneItemDocument [("subsystem", .string "tty")])) {} = .error .dangling := by
  refine (create_faults_iff (fun _ => rfl) _ _ _ _).mpr ⟨rfl, by simp [ReadSys.Reads], _, rfl, ?_⟩
  exact (oneItemDocument_ruleless _).mpr ⟨rfl, rfl⟩

/-- A document whose item lists a device type. -/
def diskDocument : CJson :=
  oneItemDocument [("subsystem", .string "block"),
    ("rule", .object [("devtype", .array [.string "disk"])])]

lemma diskDocument_rules : ¬ RulelessDocument diskDocument := by
  intro h
  cases ((oneItemDocument_ruleless _).mp h).2

/-- A config that is created and released leaves what was lost. -/
lemma createRelease_owns (sys : ReadSys) (json : Option CJson)
    (hrole : NeverFails mem ∨ ∀ doc ∈ json, (doc.getString "role").isSome = true)
    (hrules : ∀ doc ∈ json, ¬ RulelessDocument doc) (n : ℕ) :
    OwnsFrom 0 n (cmparserCreateFromFile mem sys json >>= fun r =>
      r.1.elim (pure ()) cmparserReleaseConfig)
      (fun _ R m => LostItems mem n m R ∧ (NeverFails mem → R = 0)) (fun _ => False) := by
  apply (cmparserCreateFromFile_owns sys json n).call (zero_add _).symm
  · rintro f ⟨-, doc, hdoc, ⟨-, hruleless⟩ | ⟨-, hnone, hfails⟩⟩
    · exact hrules doc hdoc hruleless
    · rcases hrole with hmem | hrole
      · exact hfails hmem
      · simpa [hnone] using hrole doc hdoc
  · rintro ⟨cc, ret⟩ R m hm hR
    obtain ⟨L, hL, rfl, hnone⟩ := hR.lost
    rw [add_zero]
    cases cc with
    | none => exact OwnsFrom.pure ⟨by simpa using hL, by simpa using hnone⟩
    | some cc =>
      apply ((cmparserReleaseConfig_owns cc).from_next m).last rfl fun _ he => he
      rintro _ _ k hk rfl
      rw [zero_add]
      exact ⟨hL.widen le_rfl hm hk, hnone⟩

/-- Whatever allocations fail, a config that was created is released without a trace, apart from
the items whose parsing was broken off when a device type or an extra rule could not be allocated:
at most one for each number meanwhile for which the allocation fails. -/
theorem create_releases (sys : ReadSys) (json : Option CJson)
    (hrole : NeverFails mem ∨ ∀ doc ∈ json, (doc.getString "role").isSome = true)
    (hrules : ∀ doc ∈ json, ¬ RulelessDocument doc) (l : Ledger Block) :
    ∃ l' lost, (cmparserCreateFromFile mem sys json >>= fun r =>
        r.1.elim (pure ()) cmparserReleaseConfig) l = .ok ((), l') ∧
      l'.live = l.live + lost ∧ LostItems mem l.next l'.next lost ∧
      (NeverFails mem → lost = 0) := by
  have hmeets := createRelease_owns sys json hrole hrules l.next l.live l (zero_add _).symm rfl
  cases hr : (cmparserCreateFromFile mem sys json >>= fun r =>
      r.1.elim (pure ()) cmparserReleaseConfig) l with
  | error f =>
    rw [hr] at hmeets
    exact hmeets.elim
  | ok r =>
    rw [hr] at hmeets
    obtain ⟨-, lost, ⟨hlost, hnone⟩, hlive⟩ := hmeets
    exact ⟨r.2, lost, rfl, by rw [hlive, add_comm], hlost, hnone⟩

theorem diskDocument_releases :
    ∃ l' lost, (cmparserCreateFromFile (fun n => n < 10) ⟨true, true, true, true⟩
        (some diskDocument) >>= fun r => r.1.elim (pure ()) cmparserReleaseConfig) {} =
          .ok ((), l') ∧
      l'.live = 0 + lost ∧ LostItems (fun n => n < 10) 0 l'.next lost ∧
      (NeverFails (fun n => n < 10) → lost = 0) := by
  refine create_releases _ _ (.inr ?_) ?_ {}
  · rintro doc ⟨⟩
    rfl
  · rintro doc ⟨⟩
    exact diskDocument_rules

/-- When no allocation fails, what is live has the kinds of the config that was read: one record for
each element of its lists, and one string for each value. -/
theorem create_kinds (hmem : NeverFails mem) {sys : ReadSys} (hreads : sys.Reads) {doc : CJson}
    (hrules : ¬ RulelessDocument doc) (l : Ledger Block) :
    ∃ r l', cmparserCreateFromFile mem sys (some doc) l = .ok (r, l') ∧
      r.2 = (cmparserCreateConfig doc).2 ∧
      l'.live.map Prod.fst =
        l.live.map Prod.fst + (cmparserCreateConfig doc).1.elim 0 configKinds := by
  have hmeets := @cmparserCreateFromFile_owns mem sys (some doc) l.next l.live l
    (zero_add _).symm rfl
  cases hr : cmparserCreateFromFile mem sys (some doc) l with
  | error f =>
    obtain ⟨-, -, _, ⟨⟩, hruleless⟩ := (create_faults_iff hmem sys (some doc) l f).mp hr
    exact absurd hruleless hrules
  | ok r =>
    rw [hr] at hmeets
    obtain ⟨-, R, hR, hlive⟩ := hmeets
    obtain ⟨-, hret, hkinds⟩ := hR.exact hmem hreads doc rfl
    exact ⟨r.1, r.2, rfl, hret, by rw [hlive, Multiset.map_add, hkinds, add_comm]⟩

theorem diskDocument_kinds :
    ∃ r l', cmparserCreateFromFile (fun _ => true) ⟨true, true, true, true⟩
        (some diskDocument) {} = .ok (r, l') ∧
      r.2 = (cmparserCreateConfig diskDocument).2 ∧
      l'.live.map Prod.fst = 0 + (cmparserCreateConfig diskDocument).1.elim 0 configKinds :=
  create_kinds (fun _ => rfl) ⟨rfl, rfl, rfl, rfl⟩ diskDocument_rules {}

end ContainerManager.Memory

import Mathlib.Data.List.Nodup
import ContainerManager.Devices.Vxcan
import ContainerManager.Lib.Transition

/-!
# Names of virtual CAN pairs

A name is made from the low 32 bits of the clock, and an interface is removed by its name. So a call
may meet the interface of another element under the name it has just made, or under the one it made
before. While no call does, no call fails because of another element and a failing call only removes
what is its own.
-/

namespace ContainerManager

/-! ### Removal and creation -/

section Pairs

variable {ι : Type} {links : List (VxcanLink ι)}

/-- A removal by name only removes a pair of this name. -/
lemma mem_removeVxcanPeer {removed : Bool} {ifname : Option CString} {link : VxcanLink ι}
    (h : link ∈ links) (hne : ifname ≠ some link.name) :
    link ∈ (socketcanutilRemoveVxcanPeer removed ifname links).1 := by
  simp only [socketcanutilRemoveVxcanPeer]
  cases ifname with
  | none => exact h
  | some ifname =>
    dsimp only
    split_ifs
    · exact h
    · apply (List.mem_eraseP_of_neg _).mpr h
      simpa [eq_comm] using hne
    · exact h

lemma removeVxcanPeer_sublist (removed : Bool) (ifname : Option CString) :
    List.Sublist (socketcanutilRemoveVxcanPeer removed ifname links).1 links := by
  simp only [socketcanutilRemoveVxcanPeer]
  cases ifname with
  | none => exact List.Sublist.refl _
  | some ifname =>
    dsimp only
    split_ifs
    · exact List.Sublist.refl _
    · exact List.eraseP_sublist
    · exact List.Sublist.refl _

/-- A pair is created under a name that does not exist. -/
lemma createVxcanPeer_cases (links : List (VxcanLink ι)) (created : Bool) (ifname : CString)
    (owner : ι) :
    (∀ link ∈ links, link.name ≠ ifname) ∧
        socketcanutilCreateVxcanPeer created ifname owner links = (links ++ [⟨ifname, owner⟩], 0) ∨
      socketcanutilCreateVxcanPeer created ifname owner links = (links, -1) := by
  simp only [socketcanutilCreateVxcanPeer]
  split_ifs with h
  · left
    refine ⟨?_, rfl⟩
    simpa using h.2
  · exact Or.inr rfl

end Pairs

variable {ι : Type} [DecidableEq ι]

/-! ### The property -/

namespace VxcanState

/-- The element has recorded this name, and its interface of this name exists. -/
def LiveAs (s : VxcanState ι) (i : ι) (name : CString) : Prop :=
  (s.elems i).peerHost = some name ∧ ⟨name, i⟩ ∈ s.links

/-- The existing interfaces have distinct names. -/
def LinksDistinct (s : VxcanState ι) : Prop := (s.links.map VxcanLink.name).Nodup

/-- No two elements with an existing interface have recorded the same name. -/
def NamesDistinct (s : VxcanState ι) : Prop :=
  ∀ i j name, s.LiveAs i name → s.LiveAs j name → i = j

/-- The pairs left after the removal of the element's previous one. -/
def afterRemoval (s : VxcanState ι) (sys : VxcanSys) (i : ι) : List (VxcanLink ι) :=
  (socketcanutilRemoveVxcanPeer sys.removed (s.elems i).peerHost s.links).1

/-- A call does not fail because of a name that another live element chose, and when it fails it
removes no interface but its own previous one; what it creates itself did not exist before. -/
structure CallRespects (s : VxcanState ι) (sys : VxcanSys) (i : ι) : Prop where
  notBlocked : sys.malloc → sys.configType → sys.configName →
    ∀ j, s.LiveAs j (peerHostName sys.now) → j ≠ i →
      ⟨peerHostName sys.now, j⟩ ∉ s.afterRemoval sys i
  keeps : (lxcutilSetConfigStaticNetifVxcan sys s i).2 < 0 → ∀ link ∈ s.links,
    link ∉ (lxcutilSetConfigStaticNetifVxcan sys s i).1.links →
      (s.elems i).peerHost = some link.name ∧ link.owner = i

/-- Every call respects the other elements. -/
def StepRespects (s : VxcanState ι) : VxcanAction ι → Prop
  | .call i sys => s.CallRespects sys i
  | .vanish _ => True

/-- A call that gets its memory finds no interface of the name it makes but its own previous one,
and the name it made before is not that of another element's interface. -/
structure CallFree (s : VxcanState ι) (sys : VxcanSys) (i : ι) : Prop where
  fresh : sys.malloc → ∀ link ∈ s.links, link.name = peerHostName sys.now →
    link.owner = i ∧ (s.elems i).peerHost = some link.name
  previous : ∀ link ∈ s.links, (s.elems i).peerHost = some link.name → link.owner = i

def StepFree (s : VxcanState ι) : VxcanAction ι → Prop
  | .call i sys => s.CallFree sys i
  | .vanish _ => True

end VxcanState

/-! ### Names -/

lemma hexDigit_injective : ∀ d < 16, ∀ d' < 16, hexDigit d = hexDigit d' → d = d' := by decide

/-- The last digits of a number determine it up to their power. -/
lemma mod_pow_eq_of_digits {b v w : ℕ} (n : ℕ) (h : ∀ k < n, v / b ^ k % b = w / b ^ k % b) :
    v % b ^ n = w % b ^ n := by
  induction n with
  | zero => simp [Nat.mod_one]
  | succ n ih =>
    have hlow := ih fun k hk => h k (Nat.lt_succ_of_lt hk)
    rw [Nat.mod_pow_succ, Nat.mod_pow_succ, hlow, h n (Nat.lt_succ_self n)]

/-- Eight digits tell all 32-bit values apart. -/
lemma hex8_injective {v w : ℕ} (hv : v < 2 ^ 32) (hw : w < 2 ^ 32) (h : hex8 v = hex8 w) :
    v = w := by
  have hdigit : ∀ k ∈ [7, 6, 5, 4, 3, 2, 1, 0], v / 16 ^ k % 16 = w / 16 ^ k % 16 := by
    intro k hk
    have hbytes : List.map (fun k => hexDigit (v / 16 ^ k % 16)) [7, 6, 5, 4, 3, 2, 1, 0] =
        List.map (fun k => hexDigit (w / 16 ^ k % 16)) [7, 6, 5, 4, 3, 2, 1, 0] :=
      congrArg CString.bytes h
    have heq := List.map_inj_left.mp hbytes k hk
    exact hexDigit_injective _ (Nat.mod_lt _ (by decide)) _ (Nat.mod_lt _ (by decide)) heq
  have hmod : v % 16 ^ 8 = w % 16 ^ 8 := by
    apply mod_pow_eq_of_digits
    intro k hk
    apply hdigit
    simp only [List.mem_cons, List.not_mem_nil, or_false]
    omega
  rwa [Nat.mod_eq_of_lt (by omega), Nat.mod_eq_of_lt (by omega)] at hmod

/-- Two readings of the clock make the same name exactly when their low 32 bits are the same. -/
lemma peerHostName_eq_iff (a b : ℤ) :
    peerHostName a = peerHostName b ↔ a % 2 ^ 32 = b % 2 ^ 32 := by
  constructor
  · intro h
    have hwhole : ∀ v, (CString.ofString "vxcanh" ++ hex8 v).take 15 =
        CString.ofString "vxcanh" ++ hex8 v := by
      intro v
      apply CString.ext
      exact List.take_of_length_le (by simp [hex8]; decide)
    simp only [peerHostName, vxcanName, hwhole] at h
    have hbytes := List.append_cancel_left (congrArg CString.bytes h)
    have hval := hex8_injective (by omega) (by omega) (CString.ext hbytes)
    omega
  · intro h
    simp only [peerHostName, vxcanName, h]

/-- The condition on a call, told from the clock: no interface was named at a reading with the same
low 32 bits, but the one the element itself named before. -/
lemma VxcanState.callFree_iff {ι : Type} [DecidableEq ι] {s : VxcanState ι}
    {sys : VxcanSys} {i : ι} :
    s.CallFree sys i ↔
      (sys.malloc → ∀ link ∈ s.links, ∀ now, link.name = peerHostName now →
        now % 2 ^ 32 = sys.now % 2 ^ 32 →
          link.owner = i ∧ (s.elems i).peerHost = some link.name) ∧
      ∀ link ∈ s.links, (s.elems i).peerHost = some link.name → link.owner = i := by
  constructor
  · rintro ⟨hfresh, hprevious⟩
    refine ⟨fun hm link hlink now hname hlow => hfresh hm link hlink ?_, hprevious⟩
    rw [hname]
    exact (peerHostName_eq_iff now sys.now).mpr hlow
  · rintro ⟨hfresh, hprevious⟩
    exact ⟨fun hm link hlink hname => hfresh hm link hlink sys.now hname rfl, hprevious⟩

/-! ### A call -/

/-- The pairs after a call: those left after the removal, with the new one if it was created, and on
an error without the one of the new name. -/
lemma call_links (s : VxcanState ι) (sys : VxcanSys) (i : ι) :
    ¬ sys.malloc ∧
        (lxcutilSetConfigStaticNetifVxcan sys s i).1.links = s.afterRemoval sys i ∨
      sys.malloc ∧ ∃ links : List (VxcanLink ι),
        (links = s.afterRemoval sys i ∨
          links = s.afterRemoval sys i ++ [⟨peerHostName sys.now, i⟩] ∧
            ∀ link ∈ s.afterRemoval sys i, link.name ≠ peerHostName sys.now) ∧
        ((lxcutilSetConfigStaticNetifVxcan sys s i).1.links = links ∨
          (lxcutilSetConfigStaticNetifVxcan sys s i).1.links =
            (socketcanutilRemoveVxcanPeer sys.errRemoved (some (peerHostName sys.now))
              links).1) := by
  simp only [lxcutilSetConfigStaticNetifVxcan, VxcanState.afterRemoval]
  by_cases hm : sys.malloc
  · refine Or.inr ⟨hm, ?_⟩
    by_cases hconfig : sys.configType ∧ sys.configName
    · rcases createVxcanPeer_cases
          (socketcanutilRemoveVxcanPeer sys.removed (s.elems i).peerHost s.links).1
          sys.created (peerHostName sys.now) i with ⟨hfresh, hc⟩ | hc
      · refine ⟨_, Or.inr ⟨rfl, hfresh⟩, ?_⟩
        by_cases hflags : sys.configLink ∧ sys.configFlags
        · left
          simp [hm, hconfig, hc, hflags]
        · right
          simp only [hm, hconfig, hc, hflags, vxcanErrRet, not_true, if_false, not_false_iff,
            if_true, and_self, lt_irrefl, Function.update_self]
      · refine ⟨_, Or.inl rfl, Or.inr ?_⟩
        simp [hm, hconfig, hc, vxcanErrRet]
    · refine ⟨_, Or.inl rfl, Or.inr ?_⟩
      simp only [hm, hconfig, vxcanErrRet, not_true, if_false, not_false_iff, if_true,
        Function.update_self]
  · exact Or.inl ⟨hm, by simp [hm, vxcanErrRet, socketcanutilRemoveVxcanPeer]⟩

/-- A pair left after the removal is still there after the call, unless it has the name the call
makes. -/
lemma mem_call_links {s : VxcanState ι} {sys : VxcanSys} {i : ι} {link : VxcanLink ι}
    (h : link ∈ s.afterRemoval sys i) (hne : sys.malloc → link.name ≠ peerHostName sys.now) :
    link ∈ (lxcutilSetConfigStaticNetifVxcan sys s i).1.links := by
  rcases call_links s sys i with ⟨-, e⟩ | ⟨hm, links, hl, e⟩
  · rw [e]
    exact h
  · have hmem : link ∈ links := by
      rcases hl with rfl | ⟨rfl, -⟩
      · exact h
      · exact List.mem_append_left _ h
    rcases e with e | e
    · rw [e]
      exact hmem
    · rw [e]
      exact mem_removeVxcanPeer hmem (by simpa using (hne hm).symm)

lemma VxcanState.LinksDistinct.call {s : VxcanState ι} (h : s.LinksDistinct) (sys : VxcanSys)
    (i : ι) : (lxcutilSetConfigStaticNetifVxcan sys s i).1.LinksDistinct := by
  simp only [VxcanState.LinksDistinct]
  have hafter : ((s.afterRemoval sys i).map VxcanLink.name).Nodup :=
    List.Nodup.sublist ((removeVxcanPeer_sublist _ _).map _) h
  rcases call_links s sys i with ⟨-, e⟩ | ⟨hm, links, hl, e⟩
  · rw [e]
    exact hafter
  · have hnodup : (links.map VxcanLink.name).Nodup := by
      rcases hl with rfl | ⟨rfl, hfresh⟩
      · exact hafter
      · rw [List.map_append, List.nodup_append]
        refine ⟨hafter, by simp, ?_⟩
        intro a ha b hb
        obtain ⟨link, hlink, rfl⟩ := List.mem_map.mp ha
        obtain rfl : b = peerHostName sys.now := by simpa using hb
        exact hfresh link hlink
    rcases e with e | e
    · rw [e]
      exact hnodup
    · rw [e]
      exact hnodup.sublist ((removeVxcanPeer_sublist _ _).map _)

/-- A call that meets no foreign interface under its names respects the other elements. -/
lemma VxcanState.CallFree.respects {s : VxcanState ι} {sys : VxcanSys} {i : ι}
    (h : s.CallFree sys i) : s.CallRespects sys i := by
  constructor
  case notBlocked =>
    intro hm _ _ j _ hj hmem
    have hlink := (removeVxcanPeer_sublist _ _).subset hmem
    exact hj (h.fresh hm _ hlink rfl).1
  case keeps =>
    intro _ link hlink hgone
    by_cases hafter : link ∈ s.afterRemoval sys i
    · -- removed on the error exit
      have hname : sys.malloc ∧ link.name = peerHostName sys.now := by
        by_contra hno
        exact hgone (mem_call_links hafter fun hm hname => hno ⟨hm, hname⟩)
      exact (h.fresh hname.1 link hlink hname.2).symm
    · -- removed at the beginning
      have hname : (s.elems i).peerHost = some link.name := by
        by_contra hne
        exact hafter (mem_removeVxcanPeer hlink hne)
      exact ⟨hname, h.previous link hlink hname⟩

/-! ### Runs -/

/-- The names of the existing interfaces stay distinct. -/
lemma VxcanState.LinksDistinct.step {s : VxcanState ι} (h : s.LinksDistinct) (a : VxcanAction ι) :
    (vxcanStep s a).LinksDistinct := by
  cases a with
  | call i sys => exact h.call sys i
  | vanish name => exact List.Nodup.sublist (List.filter_sublist.map _) h

omit [DecidableEq ι] in
lemma VxcanState.LinksDistinct.namesDistinct {s : VxcanState ι} (h : s.LinksDistinct) :
    s.NamesDistinct := by
  intro i j name hi hj
  have heq := List.inj_on_of_nodup_map h hi.2 hj.2 rfl
  simpa using heq

/-- In a run whose calls meet no foreign interface under their names, the names of the elements with
an existing interface are distinct in the state reached, and every call respects the other
elements. -/
theorem peer_names_unique (as : List (VxcanAction ι))
    (h : Transition.Guarded vxcanStep VxcanState.StepFree VxcanState.initial as) :
    (Transition.run vxcanStep VxcanState.initial as).NamesDistinct ∧
      Transition.Guarded vxcanStep VxcanState.StepRespects VxcanState.initial as := by
  constructor
  · have hinit : (VxcanState.initial (ι := ι)).LinksDistinct := List.nodup_nil
    have hlinks := Transition.run_invariant (I := VxcanState.LinksDistinct)
      (fun s a hs => hs.step a) hinit as
    exact hlinks.namesDistinct
  · apply h.mono
    intro s a ha
    cases a with
    | call i sys => exact ha.respects
    | vanish name => trivial

/-! ### Two guests in one millisecond -/

/-- Everything the call asks for goes well. -/
def vxcanSucceeds (now : ℤ) : VxcanSys where
  removed := true
  now := now
  malloc := true
  configType := true
  configName := true
  created := true
  configLink := true
  configFlags := true
  errRemoved := true

theorem peer_names_unique_apart :
    let as := [.call false (vxcanSucceeds 1000), .call true (vxcanSucceeds 1001)]
    (Transition.run vxcanStep VxcanState.initial as).NamesDistinct ∧
      Transition.Guarded vxcanStep VxcanState.StepRespects VxcanState.initial as := by
  apply peer_names_unique
  refine ⟨⟨by decide, by decide⟩, ⟨by decide, by decide⟩, trivial⟩

/-- The second of two calls in the same millisecond fails, and removes the interface of the
first. -/
theorem same_reading_removes :
    let s := Transition.run vxcanStep VxcanState.initial [.call false (vxcanSucceeds 1000)]
    let r := lxcutilSetConfigStaticNetifVxcan (vxcanSucceeds 1000) s true
    s.links = [⟨peerHostName 1000, false⟩] ∧ r.2 = -3 ∧ r.1.links = [] ∧
      ¬ s.CallRespects (vxcanSucceeds 1000) true := by
  intro s r
  have hlinks : s.links = [⟨peerHostName 1000, false⟩] := by decide
  have hret : r.2 = -3 := by decide
  have hgone : r.1.links = [] := by decide
  refine ⟨hlinks, hret, hgone, ?_⟩
  intro h
  have hfails : r.2 < 0 := by
    rw [hret]
    decide
  have hlost : ⟨peerHostName 1000, false⟩ ∉ r.1.links := by simp [hgone]
  have hown := (h.keeps hfails _ (by simp [hlinks]) hlost).2
  cases hown

end ContainerManager

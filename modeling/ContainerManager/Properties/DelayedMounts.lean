import ContainerManager.Properties.GracePeriod
import ContainerManager.Refinement.DelayedLists

/-!
# Delayed mounts happen once per incarnation

While a guest runs, a delayed element is queued or was mounted in this incarnation, never both, and
no element is mounted twice. The queue is made anew for every incarnation.
-/

namespace ContainerManager

open Containers DlList

variable {n : ℕ} {cc cc' : ContainerConfig}

/-- The elements that these calls mounted in an incarnation, oldest first. -/
def mountedIn (incarnation : ℕ) (calls : List DelayedMountCall) : List DelayedMountElem :=
  (calls.filter fun c => c.incarnation = incarnation ∧ c.result).map DelayedMountCall.elem

/-- In this state of a guest, and in what the next start or the next pass makes of it, every
delayed element is mounted at most once in an incarnation. -/
structure MountedOnce (cc : ContainerConfig) : Prop where
  /-- the queue has distinct configured elements in their order -/
  distinct : cc.fsconfig.delayed.runtimeList.Nodup
  ordered : cc.fsconfig.delayed.runtimeList.Sublist cc.fsconfig.delayed.initialList
  /-- an element stays queued until it is mounted, and is mounted at most once -/
  once : ∀ incarnation, (mountedIn incarnation cc.fsconfig.delayed.mountCalls).Nodup
  queued : cc.runtimeStat.status = .started → ∀ e ∈ cc.fsconfig.delayed.initialList,
    e ∈ cc.fsconfig.delayed.runtimeList ↔ e ∉ mountedIn cc.launches cc.fsconfig.delayed.mountCalls
  /-- only a started guest gets mounts -/
  started : ∀ c ∈ cc.fsconfig.delayed.mountCalls, c.status = .started
  idle : cc.runtimeStat.status ≠ .started →
    ∀ sys, containerDoDelayedOperation sys cc = (cc, -2)
  /-- an incarnation begins when the guest is not started, with all elements queued -/
  starts : ∀ status ret, .start status ret ∈ cc.history → status ≠ .started
  requeued : ∀ sys, (containerStart sys cc).2 = 0 →
    (containerStart sys cc).1.runtimeStat.status = .started ∧
    (containerStart sys cc).1.launches = cc.launches + 1 ∧
    (containerStart sys cc).1.fsconfig.delayed.runtimeList = cc.fsconfig.delayed.initialList ∧
    mountedIn (cc.launches + 1) (containerStart sys cc).1.fsconfig.delayed.mountCalls = []

/-! ### The configured elements -/

/-- What the parser makes of the delayed mounts: the elements have different places in memory, none
is queued and none was mounted. -/
structure DelayedMount.Configured (d : DelayedMount) : Prop where
  nodes : d.initialList.map DelayedMountElem.node = List.range d.initialList.length
  type : ∀ e ∈ d.initialList, e.type = .delayed
  runtimeList : d.runtimeList = []
  mountCalls : d.mountCalls = []

lemma parseFsMount_configured {fc : FsConfig} (h : fc.delayed.Configured) (elem : CJson) :
    (parseFsMount fc elem).delayed.Configured := by
  simp only [parseFsMount]
  split
  · refine ⟨?_, ?_, h.runtimeList, h.mountCalls⟩
    · simp [h.nodes, List.range_succ]
    · simpa [or_imp, forall_and] using h.type
  · split
    · exact h
    · exact h
  · exact h

lemma cmparserParseFs_configured (fs : CJson) : (cmparserParseFs {} fs).1.delayed.Configured := by
  have hfold : ∀ (l : List CJson) (fc : FsConfig), fc.delayed.Configured →
      (l.foldl parseFsMount fc).delayed.Configured := by
    intro l
    induction l with
    | nil => exact fun _ h => h
    | cons elem l ih => exact fun fc h => ih _ (parseFsMount_configured h elem)
  exact hfold _ _ ⟨rfl, by simp, rfl, rfl⟩

lemma LoadedFrom.configured {json : CJson} (h : LoadedFrom json cc) :
    cc.fsconfig.delayed.Configured := by
  obtain ⟨parsed, mutexInit, abboot, hp, rfl⟩ := h
  obtain ⟨fs, -, hfs⟩ := cmparserCreateFromFile_fs hp
  show parsed.fsconfig.delayed.Configured
  rw [hfs]
  exact cmparserParseFs_configured fs

/-! ### One pass -/

lemma mountedIn_append (k : ℕ) (calls calls' : List DelayedMountCall) :
    mountedIn k (calls ++ calls') = mountedIn k calls ++ mountedIn k calls' := by
  simp [mountedIn]

lemma mountedIn_of_ne {k : ℕ} {calls : List DelayedMountCall}
    (h : ∀ c ∈ calls, c.incarnation ≠ k) : mountedIn k calls = [] := by
  rw [mountedIn, List.map_eq_nil_iff, List.filter_eq_nil_iff]
  intro c hc
  simp [h c hc]

section Pass

variable (cc) (sys : DelayedSys)

lemma delayedPassCalls_mem {l : List DelayedMountElem} {c : DelayedMountCall}
    (hc : c ∈ delayedPassCalls sys cc l) :
    c.incarnation = cc.launches ∧ c.status = cc.runtimeStat.status := by
  obtain ⟨e, -, he⟩ := List.mem_filterMap.mp hc
  simp only [delayedElemCall, Option.ite_none_right_eq_some] at he
  obtain rfl := Option.some.inj he.2
  exact ⟨rfl, rfl⟩

lemma mountedIn_delayedElemCall (k : ℕ) {e : DelayedMountElem} (ht : e.type = .delayed) :
    mountedIn cc.launches (delayedElemCall sys cc k e).toList =
      if delayedElemStays sys cc.runtimeStat.lxc k e then [] else [e] := by
  by_cases hc : sys.nodeCheck k
  · by_cases hm : cc.runtimeStat.lxc.isSome ∧ sys.mount k
    · simp [delayedElemCall, delayedElemStays, mountedIn, ht, hc, hm]
    · simp [delayedElemCall, delayedElemStays, mountedIn, ht, hc, hm]
  · simp [delayedElemCall, delayedElemStays, mountedIn, ht, hc]

/-- A pass mounts the elements that it takes out of the queue. -/
lemma delayedPass_perm {l : List DelayedMountElem} (hl : ∀ e ∈ l, e.type = .delayed) :
    (mountedIn cc.launches (delayedPassCalls sys cc l) ++
      delayedStays sys cc.runtimeStat.lxc l).Perm l := by
  induction l using List.reverseRecOn with
  | nil => exact .refl _
  | append_singleton l e ih =>
    have ih := ih fun e he => hl e (by simp [he])
    rw [delayedPassCalls_concat, delayedStays_concat, mountedIn_append,
      mountedIn_delayedElemCall cc sys l.length (hl e (by simp))]
    by_cases hs : delayedElemStays sys cc.runtimeStat.lxc l.length e
    · rw [if_pos hs, if_pos hs, List.append_nil, ← List.append_assoc]
      exact ih.append_right [e]
    · rw [if_neg hs, if_neg hs, List.append_nil, List.append_assoc]
      refine List.Perm.trans ?_ (ih.append_right [e])
      rw [List.append_assoc]
      exact List.perm_append_comm.append_left _

end Pass

/-! ### All moves -/

/-- What holds of a guest with these configured elements in every state. -/
structure DelayedInvariant (l : List DelayedMountElem) (cc : ContainerConfig) : Prop where
  initialList : cc.fsconfig.delayed.initialList = l
  ordered : cc.fsconfig.delayed.runtimeList.Sublist l
  calls : ∀ c ∈ cc.fsconfig.delayed.mountCalls,
    c.incarnation ≤ cc.launches ∧ c.status = .started
  once : ∀ incarnation, (mountedIn incarnation cc.fsconfig.delayed.mountCalls).Nodup
  queued : cc.runtimeStat.status = .started → ∀ e ∈ l,
    e ∈ cc.fsconfig.delayed.runtimeList ↔ e ∉ mountedIn cc.launches cc.fsconfig.delayed.mountCalls

namespace DelayedInvariant

variable {l : List DelayedMountElem}

/-- The queue is changed while the guest is not started. -/
lemma stopped (h : DelayedInvariant l cc) {queue : List DelayedMountElem} (hq : queue.Sublist l)
    (hd : cc'.fsconfig.delayed = { cc.fsconfig.delayed with runtimeList := queue })
    (hl : cc'.launches = cc.launches) (hs : cc'.runtimeStat.status ≠ .started) :
    DelayedInvariant l cc' := by
  refine ⟨?_, ?_, ?_, ?_, fun h => absurd h hs⟩
  · rw [hd]
    exact h.initialList
  · rwa [hd]
  · rw [hd, hl]
    exact h.calls
  · rw [hd]
    exact h.once

/-- No mount has been made for an incarnation to come. -/
lemma mountedIn_next (h : DelayedInvariant l cc) :
    mountedIn (cc.launches + 1) cc.fsconfig.delayed.mountCalls = [] := by
  apply mountedIn_of_ne
  intro c hc
  have hle := (h.calls c hc).1
  omega

lemma mounted (h : DelayedInvariant l cc) (hn : l.Nodup) (ht : ∀ e ∈ l, e.type = .delayed)
    (sys : DelayedSys) : DelayedInvariant l (containerDoDelayedOperation sys cc).1 := by
  by_cases hs : cc.runtimeStat.status = .started
  · have hd := containerDoDelayedOperation_started sys hs
    have hlaunches : (containerDoDelayedOperation sys cc).1.launches = cc.launches := by
      rw [containerDoDelayedOperation, if_neg (by simp [hs])]
    have hsub := h.ordered
    have hperm := delayedPass_perm cc sys (l := cc.fsconfig.delayed.runtimeList)
      fun e he => ht e (hsub.subset he)
    obtain ⟨hpass, hstays, hdisj⟩ := List.nodup_append.mp (hperm.nodup_iff.mpr (hsub.nodup hn))
    have hmem : ∀ e, e ∈ cc.fsconfig.delayed.runtimeList ↔
        e ∈ mountedIn cc.launches (delayedPassCalls sys cc cc.fsconfig.delayed.runtimeList) ∨
        e ∈ delayedStays sys cc.runtimeStat.lxc cc.fsconfig.delayed.runtimeList := by
      intro e
      rw [← hperm.mem_iff, List.mem_append]
    refine ⟨?_, ?_, ?_, ?_, ?_⟩
    · rw [hd]
      exact h.initialList
    · rw [hd]
      exact (delayedStays_sublist _ _ _).trans hsub
    · rw [hd, hlaunches]
      intro c hc
      rcases List.mem_append.mp hc with hc | hc
      · exact h.calls c hc
      · obtain ⟨hinc, hstatus⟩ := delayedPassCalls_mem cc sys hc
        exact ⟨hinc.le, hstatus.trans hs⟩
    · intro k
      rw [hd, mountedIn_append]
      by_cases hk : cc.launches = k
      · subst hk
        refine List.nodup_append.mpr ⟨h.once _, hpass, ?_⟩
        -- what is mounted now was queued, so it has not been mounted before
        rintro e he e' he' rfl
        have hq : e ∈ cc.fsconfig.delayed.runtimeList := (hmem e).mpr (.inl he')
        exact (h.queued hs e (hsub.subset hq)).mp hq he
      · rw [mountedIn_of_ne fun c hc e => hk ((delayedPassCalls_mem cc sys hc).1.symm.trans e),
          List.append_nil]
        exact h.once k
    · intro _ e he
      rw [hd, hlaunches, mountedIn_append, List.mem_append, not_or, ← h.queued hs e he, hmem e]
      constructor
      · intro hstay
        exact ⟨.inr hstay, fun hp => hdisj e hp e hstay rfl⟩
      · rintro ⟨hp | hstay, hnp⟩
        · exact absurd hp hnp
        · exact hstay
  · rw [containerDoDelayedOperation_idle sys hs]
    exact h

/-- Every move keeps it. -/
lemma move (h : DelayedInvariant l cc) (hn : l.Nodup) (ht : ∀ e ∈ l, e.type = .delayed)
    (hm : DelayedMove cc cc') : DelayedInvariant l cc' := by
  cases hm with
  | keep hk =>
    obtain ⟨hd, hl, hs⟩ := hk
    refine ⟨?_, ?_, ?_, ?_, ?_⟩
    · rw [hd]
      exact h.initialList
    · rw [hd]
      exact h.ordered
    · rw [hd, hl]
      exact h.calls
    · rw [hd]
      exact h.once
    · rw [hd, hl]
      exact fun hst => h.queued (hs hst)
  | launched hd hl hs =>
    refine ⟨?_, ?_, ?_, ?_, fun _ e he => ?_⟩
    · rw [hd]
      exact h.initialList
    · rw [hd]
      exact h.initialList ▸ List.Sublist.refl _
    · rw [hd, hl]
      exact fun c hc => ⟨(h.calls c hc).1.trans (Nat.le_succ _), (h.calls c hc).2⟩
    · rw [hd]
      exact h.once
    · rw [hd, hl]
      show e ∈ cc.fsconfig.delayed.initialList ↔ e ∉ mountedIn _ cc.fsconfig.delayed.mountCalls
      rw [h.mountedIn_next, h.initialList]
      simp [he]
  | launchFailed hd hl hs =>
    refine h.stopped ?_ hd hl (by simp [hs])
    exact h.initialList ▸ List.Sublist.refl _
  | cleaned hd hl hs => exact h.stopped (List.nil_sublist l) hd hl hs
  | mounted sys e => exact e ▸ h.mounted hn ht sys

end DelayedInvariant

/-- A guest with these configured elements, in every state of a run. -/
lemma delayedInvariant_of_moves {l : List DelayedMountElem} (hn : l.Nodup)
    (ht : ∀ e ∈ l, e.type = .delayed) (h : DelayedInvariant l cc)
    (hm : Relation.ReflTransGen DelayedMove cc cc') : DelayedInvariant l cc' := by
  induction hm with
  | refl => exact h
  | tail _ hmove ih => exact ih.move hn ht hmove

lemma DelayedMount.Configured.nodup (h : cc.fsconfig.delayed.Configured) :
    cc.fsconfig.delayed.initialList.Nodup :=
  List.Nodup.of_map DelayedMountElem.node (h.nodes ▸ List.nodup_range)

lemma Fresh.delayedInvariant (hf : Fresh cc) (h : cc.fsconfig.delayed.Configured) :
    DelayedInvariant cc.fsconfig.delayed.initialList cc := by
  refine ⟨rfl, ?_, ?_, ?_, ?_⟩
  · simp [h.runtimeList]
  · simp [h.mountCalls]
  · simp [h.mountCalls, mountedIn]
  · simp [hf.status]

/-! ### Starts -/

/-- No start was called on a started guest. -/
def GuestView.StartsStopped (v : GuestView) : Prop :=
  ∀ status ret, .start status ret ∈ v.history → status ≠ .started

section Starts

variable {R : Prop} {v w : GuestView}

lemma GuestView.Startable.status (h : v.Startable) : v.status ≠ .started := by
  rcases h.2 with hs | ⟨hs, -⟩ <;> simp [hs]

lemma RequestEffect.startsStopped {kind : RequestKind} {s : SystemState}
    (h : RequestEffect kind s v w) (hv : v.StartsStopped) : w.StartsStopped := by
  cases h with
  | accepted now h hl =>
    intro status ret hm
    exact hv status ret (by simpa using hm)
  | _ => exact hv

lemma LifeStep.startsStopped (h : LifeStep R v w) (hv : v.StartsStopped) : w.StartsStopped := by
  have hcons : ∀ {e : GuestEvent} {history : List GuestEvent},
      (∀ status ret, .start status ret ∈ history → status ≠ .started) →
      (∀ status ret, e = .start status ret → status ≠ .started) →
      ∀ status ret, .start status ret ∈ e :: history → status ≠ .started := by
    intro e history hh he status ret hm
    rcases List.mem_cons.mp hm with hm | hm
    · exact he status ret hm.symm
    · exact hh status ret hm
  have hstart : v.Startable → ∀ r status ret, GuestEvent.start v.status r = .start status ret →
      status ≠ .started := by
    intro hs r status ret he
    obtain ⟨rfl, -⟩ := GuestEvent.start.inj he
    exact hs.status
  cases h with
  | disable hs h base hb hu => exact hcons hv (by simp)
  | enable hs h => exact hcons hv (by simp)
  | move h =>
    cases h with
    | mountFailed h base worker after hb hw hR => exact hcons hv (hstart h _)
    | launchFailed h base hb => exact hcons hv (hstart h _)
    | launched h base lxc hb hm => exact hcons hv (hstart h _)
    | killed now hs h => exact hcons hv (by simp)
    | killedAtShutdown now hs h => exact hcons hv (by simp)
    | requestShutdown s hs w h ret => exact hcons (h.startsStopped hv) (by simp)
    | requestReboot w h => exact h.startsStopped hv
    | scheduled hw => exact hcons hv (by simp)
    | _ => exact hv

end Starts

/-! ### Every run -/

variable {json : CJson} {cs₀ cs : Containers n} {i : Fin n}

lemma DelayedInvariant.mountedOnce {l : List DelayedMountElem} (h : DelayedInvariant l cc)
    (hn : l.Nodup) (hs : ∀ status ret, .start status ret ∈ cc.history → status ≠ .started) :
    MountedOnce cc where
  distinct := h.ordered.nodup hn
  ordered := h.initialList ▸ h.ordered
  once := h.once
  queued := h.initialList ▸ h.queued
  started c hc := (h.calls c hc).2
  idle hst sys := containerDoDelayedOperation_idle sys hst
  starts := hs
  requeued sys hret := by
    obtain ⟨hd, hl, hst⟩ := (containerStart_delayed sys cc).2 hret
    refine ⟨hst, hl, by rw [hd]; rfl, ?_⟩
    rw [hd]
    exact h.mountedIn_next

/-- In every reachable state, every delayed element of a guest is mounted at most once in an
incarnation and is queued until then. -/
theorem delayed_mounts_once (h₀ : Initial cs₀) (hi : LoadedFrom json (cs₀.containers i))
    (h : ReachableFrom cs₀ cs) :
    (cs.containers i).fsconfig.delayed.initialList =
      (cs₀.containers i).fsconfig.delayed.initialList ∧ MountedOnce (cs.containers i) := by
  have hc := hi.configured
  have hfresh := h₀.guests i
  have hinv := delayedInvariant_of_moves hc.nodup hc.type (hfresh.delayedInvariant hc)
    (h.delayedMoves i)
  have hstarts : (cs.views i).StartsStopped := by
    apply h.guest_invariant (fun _ _ hm => hm.startsStopped) h₀
    intro status ret hm
    have hnil : (cs₀.views i).history = [] := hfresh.history
    rw [hnil] at hm
    exact absurd hm List.not_mem_nil
  exact ⟨hinv.initialList, hinv.mountedOnce hc.nodup hstarts⟩

/-- A config with a delayed mount. -/
def delayedJson : CJson :=
  .object [
    ("name", .string "cluster"),
    ("base", .object [
      ("autoboot", .bool true),
      ("rootfs", .object [
        ("path", .string "/opt/container/guests/rootfs"),
        ("filesystem", .string "ext4"),
        ("blockdev", .array [.string "/dev/mmcblk1p5"])])]),
    ("fs", .object [("mount", .array [.object [
      ("type", .string "delayed"),
      ("from", .string "/dev/media"),
      ("to", .string "/media")]])]),
    ("device", .object [])]

/-- The guest of this config. -/
def delayedGuest (i : Fin 1) : ContainerConfig :=
  { clusterLoaded 0 i with
    fsconfig := { delayed := { initialList := [⟨.delayed, "/dev/media", "/media", 0⟩] } } }

/-- The guest is started, and a tick mounts the element. -/
def delayedRun : Containers 1 :=
  Transition.run step
    (containerMngsmStart (fun _ => visitOk) true (setupManager delayedGuest []))
    [.message .timerTick (messageOk 101)]

theorem delayed_mounts_once_media :
    (delayedRun.containers 0).fsconfig.delayed.mountCalls =
      [⟨1, .started, ⟨.delayed, "/dev/media", "/media", 0⟩, true⟩] ∧
    MountedOnce (delayedRun.containers 0) := by
  have hl : LoadedFrom delayedJson (delayedGuest 0) := ⟨_, 0, 0, rfl, rfl⟩
  have h₀ : Initial (setupManager delayedGuest []) :=
    setupManager_initial (fun i => by
      obtain rfl : i = 0 := Subsingleton.elim i 0
      exact hl.fresh) ⟨by simp, by simp, rfl, rfl⟩
  have hr : ReachableFrom (setupManager delayedGuest []) delayedRun :=
    Transition.Reachable.run (.init ⟨_, _, .started⟩) _
  exact ⟨by decide, (delayed_mounts_once h₀ hl hr).2⟩

/-! ### The lists in memory -/

section Memory

variable {l : List DelayedMountElem} {elemAt : ℕ → DelayedMountElem} {fuel : ℕ}
  {links : Links DelayedNode}

/-- Every move of a guest can be made on the links, and leaves the links of its lists. -/
lemma DelayedMove.onLinks (hm : DelayedMove cc cc') (hl : cc.fsconfig.delayed.LinkedIn links)
    (h : DelayedInvariant l cc) (hat : ∀ e ∈ l, elemAt e.node = e) (hfuel : l.length < fuel) :
    ∃ links', DelayedListsMove elemAt fuel (cc, links) (cc', links') ∧
      cc'.fsconfig.delayed.LinkedIn links' := by
  have hsetup := containerSetupDelayedLists_spec hl.initial (h.initialList.symm ▸ hfuel)
  cases hm with
  | keep hk => exact ⟨links, .keep hk, hk.delayed.symm ▸ hl⟩
  | launched hd =>
    obtain ⟨links', hs, hl'⟩ := hsetup
    exact ⟨links', .setup hd hs, hd.symm ▸ hl'⟩
  | launchFailed hd =>
    obtain ⟨links', hs, hl'⟩ := hsetup
    exact ⟨links', .setup hd hs, hd.symm ▸ hl'⟩
  | cleaned hd => exact ⟨_, .cleanup hd, hd.symm ▸ containerCleanupDelayedLists_spec hl.initial⟩
  | mounted sys e =>
    obtain ⟨p, hp, hl', -⟩ := containerDoDelayedLists_spec sys hl
      (fun e he => hat e (h.ordered.subset he)) (h.ordered.length_le.trans_lt hfuel)
    exact ⟨p.links, e ▸ .mounted sys hp, e ▸ hl'⟩

/-- In every run the links that the parser makes become those of the lists: no function of the
delayed mounts ever follows a null pointer. -/
theorem delayed_lists_linked (h₀ : Initial cs₀) (hi : LoadedFrom json (cs₀.containers i))
    (h : ReachableFrom cs₀ cs)
    (hat : ∀ e ∈ (cs₀.containers i).fsconfig.delayed.initialList, elemAt e.node = e)
    (hfuel : (cs₀.containers i).fsconfig.delayed.initialList.length < fuel) :
    ∃ links₀ links', loadDelayedLists links (cs₀.containers i).fsconfig.delayed.initialList =
        some links₀ ∧
      Relation.ReflTransGen (DelayedListsMove elemAt fuel) (cs₀.containers i, links₀)
        (cs.containers i, links') ∧ (cs.containers i).fsconfig.delayed.LinkedIn links' := by
  have hc := hi.configured
  have hinv := (h₀.guests i).delayedInvariant hc
  obtain ⟨links₀, hload, hinitial, hruntime⟩ :=
    loadDelayedLists_spec links (hc.nodes ▸ List.nodup_range)
  have hl₀ : (cs₀.containers i).fsconfig.delayed.LinkedIn links₀ :=
    ⟨hinitial, hc.runtimeList.symm ▸ hruntime⟩
  have hrun : ∀ cc, Relation.ReflTransGen DelayedMove (cs₀.containers i) cc →
      ∃ links', Relation.ReflTransGen (DelayedListsMove elemAt fuel) (cs₀.containers i, links₀)
        (cc, links') ∧ cc.fsconfig.delayed.LinkedIn links' := by
    intro cc hmoves
    induction hmoves with
    | refl => exact ⟨links₀, .refl, hl₀⟩
    | tail hmoves hm ih =>
      obtain ⟨links₁, hsteps, hl₁⟩ := ih
      have hinv₁ := delayedInvariant_of_moves hc.nodup hc.type hinv hmoves
      obtain ⟨links₂, hstep, hl₂⟩ := hm.onLinks hl₁ hinv₁ hat hfuel
      exact ⟨links₂, hsteps.tail hstep, hl₂⟩
  obtain ⟨links', hsteps, hl'⟩ := hrun _ (h.delayedMoves i)
  exact ⟨links₀, links', hload, hsteps, hl'⟩

end Memory

end ContainerManager

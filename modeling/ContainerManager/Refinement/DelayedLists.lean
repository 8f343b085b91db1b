import ContainerManager.Lib.DlList
import ContainerManager.Refinement.Delayed

/-!
# The delayed mounts in memory

A delayed element is in two circular lists at once: the configured elements are linked by their
field `list`, the queue by their field `runtime_list`. The heads are linked with themselves again
while elements may still be linked with them, and an element is taken out while the loop is at it.
The functions on the links do what the functions on the lists of elements do, in every run.
-/

namespace ContainerManager

open Containers DlList

/-- The list nodes of the delayed mounts: the two heads, and the two fields of each element. -/
inductive DelayedNode where
  | initialList
  | runtimeList
  | list (node : ℕ)
  | runtime (node : ℕ)
deriving DecidableEq

/-! ### The functions on the links -/

/-- The body of the loop of `container_setup_delayed_operation`. -/
def queueDelayedElem (h : Links DelayedNode) : DelayedNode → Option (Links DelayedNode)
  | .list node => addTail (init h (.runtime node)) .runtimeList (.runtime node)
  | _ => none

/-- `container_setup_delayed_operation` on the links. -/
def containerSetupDelayedLists (fuel : ℕ) (h : Links DelayedNode) : Option (Links DelayedNode) :=
  forEach id queueDelayedElem .initialList fuel (init h .runtimeList)

/-- `container_cleanup_delayed_operation` on the links. -/
def containerCleanupDelayedLists (h : Links DelayedNode) : Links DelayedNode := init h .runtimeList

/-- What a pass over the queue works on: the links, the number of elements it has visited and the
mount calls it has made. -/
structure DelayedPass where
  links : Links DelayedNode
  visited : ℕ := 0
  calls : List DelayedMountCall := []

namespace DelayedPass

def skip (p : DelayedPass) : DelayedPass := { p with visited := p.visited + 1 }

def call (p : DelayedPass) (c : DelayedMountCall) : DelayedPass :=
  { p with calls := p.calls ++ [c] }

/-- The element leaves the queue. -/
def leave (p : DelayedPass) (node : ℕ) : Option DelayedPass := do
  let h ← del p.links (.runtime node)
  some { p.skip with links := init h (.runtime node) }

end DelayedPass

section Do

variable (sys : DelayedSys) (elemAt : ℕ → DelayedMountElem) (cc : ContainerConfig)

/-- The body of the loop of `container_do_delayed_operation`. -/
def doDelayedElem (p : DelayedPass) : DelayedNode → Option DelayedPass
  | .runtime node =>
    let dmelem := elemAt node
    if dmelem.type = .delayed then
      if sys.nodeCheck p.visited then
        let mounted : Bool := cc.runtimeStat.lxc.isSome ∧ sys.mount p.visited
        let p := p.call ⟨cc.launches, cc.runtimeStat.status, dmelem, mounted⟩
        if mounted then p.leave node else some p.skip
      else some p.skip
    else p.leave node
  | _ => none

/-- `container_do_delayed_operation` on the links. -/
def containerDoDelayedLists (fuel : ℕ) (h : Links DelayedNode) : Option DelayedPass :=
  if cc.runtimeStat.status ≠ .started then some { links := h }
  else if empty h .runtimeList then some { links := h }
  else forEachSafe DelayedPass.links (doDelayedElem sys elemAt cc) .runtimeList fuel { links := h }

end Do

/-- The parser links the configured elements in their order. -/
def loadDelayedLists (h : Links DelayedNode) (l : List DelayedMountElem) :
    Option (Links DelayedNode) :=
  l.foldlM (fun h e => addTail h .initialList (.list e.node))
    (init (init h .initialList) .runtimeList)

/-! ### The links of the lists -/

section Lists

variable {h h' : Links DelayedNode} {l l' : List DelayedMountElem} {e : DelayedMountElem}

/-- The configured elements are linked in this order. -/
def LinkedInitial (h : Links DelayedNode) (l : List DelayedMountElem) : Prop :=
  Linked h .initialList (l.map fun e => .list e.node)

/-- The queued elements are linked in this order. -/
def LinkedRuntime (h : Links DelayedNode) (l : List DelayedMountElem) : Prop :=
  Linked h .runtimeList (l.map fun e => .runtime e.node)

/-- The links are those of the two lists. -/
structure DelayedMount.LinkedIn (d : DelayedMount) (h : Links DelayedNode) : Prop where
  initial : LinkedInitial h d.initialList
  runtime : LinkedRuntime h d.runtimeList

/-- A node of the configured elements. -/
def DelayedNode.IsInitial : DelayedNode → Prop
  | .initialList | .list _ => True
  | _ => False

lemma isInitial_of_mem {y : DelayedNode}
    (hy : y ∈ .initialList :: l.map fun e => DelayedNode.list e.node) : y.IsInitial := by
  rcases List.mem_cons.mp hy with rfl | hy
  · trivial
  · obtain ⟨e, -, rfl⟩ := List.mem_map.mp hy
    trivial

lemma not_isInitial_of_mem {y : DelayedNode}
    (hy : y ∈ .runtimeList :: l.map fun e => DelayedNode.runtime e.node) : ¬ y.IsInitial := by
  rcases List.mem_cons.mp hy with rfl | hy
  · exact id
  · obtain ⟨e, -, rfl⟩ := List.mem_map.mp hy
    exact id

/-- The links of the configured elements are the same. -/
def KeepsInitial (h h' : Links DelayedNode) : Prop :=
  ∀ y : DelayedNode, y.IsInitial → h'.next y = h.next y ∧ h'.prev y = h.prev y

lemma LinkedInitial.frame (hl : LinkedInitial h l) (hk : KeepsInitial h h') :
    LinkedInitial h' l := by
  apply Linked.frame hl
  · exact fun y hy => (hk y (isInitial_of_mem hy)).1
  · exact fun y hy => (hk y (isInitial_of_mem hy)).2

lemma keepsInitial_init {x : DelayedNode} (hx : ¬ x.IsInitial) : KeepsInitial h (init h x) := by
  intro y hy
  have hne : y ≠ x := fun e => hx (e ▸ hy)
  simp [init, Links.setNext, Links.setPrev, hne]

lemma keepsInitial_of_frame
    (hframe : ∀ y ∉ .runtimeList :: l.map fun e => DelayedNode.runtime e.node,
      h'.next y = h.next y ∧ h'.prev y = h.prev y) : KeepsInitial h h' :=
  fun y hy => hframe y fun hmem => not_isInitial_of_mem hmem hy

lemma KeepsInitial.trans {h'' : Links DelayedNode} (hk : KeepsInitial h h')
    (hk' : KeepsInitial h' h'') : KeepsInitial h h'' :=
  fun y hy => ⟨(hk' y hy).1.trans (hk y hy).1, (hk' y hy).2.trans (hk y hy).2⟩

/-- An element is linked at the end of the queue. -/
lemma LinkedRuntime.addTail (hl : LinkedRuntime h l) (he : e.node ∉ l.map DelayedMountElem.node) :
    ∃ h', addTail h .runtimeList (.runtime e.node) = some h' ∧ LinkedRuntime h' (l ++ [e]) ∧
      KeepsInitial h h' := by
  have hx : DelayedNode.runtime e.node ∉ .runtimeList :: l.map fun e => .runtime e.node := by
    simpa using he
  obtain ⟨h', hh', hl', hframe⟩ := Linked.addTail hl hx
  refine ⟨h', hh', ?_, ?_⟩
  · rw [LinkedRuntime, List.map_append]
    exact hl'
  · apply keepsInitial_of_frame (l := l ++ [e])
    simpa using hframe

/-- An element is taken out of the queue and linked with itself. -/
lemma LinkedRuntime.leave {p : DelayedPass} (hl : LinkedRuntime p.links (l ++ e :: l')) :
    ∃ h', p.leave e.node = some { p.skip with links := h' } ∧ LinkedRuntime h' (l ++ l') ∧
      KeepsInitial p.links h' := by
  have hl : Linked p.links .runtimeList ((l.map fun e => DelayedNode.runtime e.node) ++
      .runtime e.node :: l'.map fun e => DelayedNode.runtime e.node) := by
    simpa [LinkedRuntime] using hl
  obtain ⟨h', hh', hl', hframe⟩ := Linked.del hl
  have hout : DelayedNode.runtime e.node ∉ .runtimeList :: ((l.map fun e => .runtime e.node) ++
      l'.map fun e => .runtime e.node) := by
    have hd := (List.nodup_cons.mp hl.nodup).2
    rw [List.nodup_middle] at hd
    simpa using (List.nodup_cons.mp hd).1
  refine ⟨init h' (.runtime e.node), by simp [DelayedPass.leave, hh'], ?_, ?_⟩
  · rw [LinkedRuntime, List.map_append]
    exact hl'.init hout
  · have hk : KeepsInitial p.links h' := by
      apply keepsInitial_of_frame (l := l ++ e :: l')
      simpa using hframe
    exact hk.trans (keepsInitial_init id)

/-! ### The functions on the links are those on the lists -/

/-- The elements that the loop of the setup has visited are queued, the rest is left. -/
def SetupReached (all : List DelayedMountElem) (visited rest : List DelayedNode)
    (h : Links DelayedNode) : Prop :=
  ∃ l₁ l₂, all = l₁ ++ l₂ ∧ (visited = l₁.map fun e => .list e.node) ∧
    (rest = l₂.map fun e => .list e.node) ∧ LinkedInitial h all ∧ LinkedRuntime h l₁

lemma LinkedInitial.nodes_nodup (hl : LinkedInitial h l) :
    (l.map DelayedMountElem.node).Nodup := by
  have hd := (List.nodup_cons.mp hl.nodup).2
  exact List.Nodup.of_map DelayedNode.list (by simpa [Function.comp_def] using hd)

lemma SetupReached.pass {all : List DelayedMountElem} {visited rest : List DelayedNode}
    {x : DelayedNode} (hr : SetupReached all visited (x :: rest) h) :
    ∃ h', queueDelayedElem h x = some h' ∧ SetupReached all (visited ++ [x]) rest h' := by
  obtain ⟨l₁, l₂, hall, rfl, hx, hinitial, hruntime⟩ := hr
  cases l₂ with
  | nil => simp at hx
  | cons e l₂ =>
    obtain ⟨rfl, rfl⟩ := by simpa using hx
    have he : e.node ∉ l₁.map DelayedMountElem.node := by
      have hnodup := hinitial.nodes_nodup
      rw [hall, List.map_append, List.nodup_append] at hnodup
      exact fun hmem => hnodup.2.2 _ hmem _ (by simp) rfl
    have hq : LinkedRuntime (init h (.runtime e.node)) l₁ :=
      Linked.init hruntime (by simpa using he)
    obtain ⟨h', hh', hq', hk⟩ := hq.addTail he
    refine ⟨h', hh', l₁ ++ [e], l₂, by simp [hall], by simp, rfl, ?_, hq'⟩
    exact hinitial.frame ((keepsInitial_init id).trans hk)

/-- Setting up the queue needs the configured elements only. -/
theorem containerSetupDelayedLists_spec {d : DelayedMount} {fuel : ℕ}
    (hl : LinkedInitial h d.initialList) (hfuel : d.initialList.length < fuel) :
    ∃ h', containerSetupDelayedLists fuel h = some h' ∧ d.requeue.LinkedIn h' := by
  have hstart : SetupReached d.initialList [] (d.initialList.map fun e => .list e.node)
      (init h .runtimeList) :=
    ⟨[], _, rfl, rfl, rfl, hl.frame (keepsInitial_init id), linked_init h _⟩
  have hloop : ∃ h', containerSetupDelayedLists fuel h = some h' ∧
      SetupReached d.initialList (d.initialList.map fun e => .list e.node) [] h' := by
    apply forEach_rule ?_ (fun _ _ _ _ => SetupReached.pass) hstart (by simpa using hfuel)
    rintro visited rest h ⟨l₁, l₂, hall, rfl, rfl, hinitial, -⟩
    rw [← List.map_append, ← hall]
    exact hinitial
  obtain ⟨h', hh', l₁, l₂, hall, -, hrest, hinitial, hruntime⟩ := hloop
  obtain rfl : l₂ = [] := by simpa using hrest.symm
  refine ⟨h', hh', hinitial, ?_⟩
  show LinkedRuntime h' d.initialList
  rw [hall, List.append_nil]
  exact hruntime

/-- Dropping the queue needs nothing of it. -/
theorem containerCleanupDelayedLists_spec {d : DelayedMount} (hl : LinkedInitial h d.initialList) :
    d.clear.LinkedIn (containerCleanupDelayedLists h) :=
  ⟨hl.frame (keepsInitial_init id), linked_init h _⟩

/-- The loop over the queue has visited some elements of it and has the rest to go. -/
def PassReached (sys : DelayedSys) (cc : ContainerConfig) (rest : List DelayedNode)
    (p : DelayedPass) : Prop :=
  ∃ l₁ l₂, cc.fsconfig.delayed.runtimeList = l₁ ++ l₂ ∧
    (rest = l₂.map fun e => .runtime e.node) ∧
    LinkedInitial p.links cc.fsconfig.delayed.initialList ∧
    LinkedRuntime p.links (delayedStays sys cc.runtimeStat.lxc l₁ ++ l₂) ∧
    p.visited = l₁.length ∧ p.calls = delayedPassCalls sys cc l₁

/-- What the body of the loop does with an element of the queue. -/
lemma doDelayedElem_spec (sys : DelayedSys) (cc : ContainerConfig)
    {elemAt : ℕ → DelayedMountElem} (hat : elemAt e.node = e) (p : DelayedPass) :
    doDelayedElem sys elemAt cc p (.runtime e.node) =
      let q := { p with calls := p.calls ++ (delayedElemCall sys cc p.visited e).toList }
      if delayedElemStays sys cc.runtimeStat.lxc p.visited e then some q.skip
      else q.leave e.node := by
  by_cases ht : e.type = .delayed
  · by_cases hc : sys.nodeCheck p.visited
    · by_cases hm : cc.runtimeStat.lxc.isSome ∧ sys.mount p.visited
      · simp [doDelayedElem, hat, ht, hc, hm, delayedElemStays, delayedElemCall, DelayedPass.call]
      · simp [doDelayedElem, hat, ht, hc, hm, delayedElemStays, delayedElemCall, DelayedPass.call]
    · simp [doDelayedElem, hat, ht, hc, delayedElemStays, delayedElemCall]
  · simp [doDelayedElem, hat, ht, delayedElemStays, delayedElemCall]

lemma PassReached.pass {sys : DelayedSys} {cc : ContainerConfig} {elemAt : ℕ → DelayedMountElem}
    (hat : ∀ e ∈ cc.fsconfig.delayed.runtimeList, elemAt e.node = e) {x : DelayedNode}
    {rest : List DelayedNode} {p : DelayedPass} (hr : PassReached sys cc (x :: rest) p) :
    ∃ p', doDelayedElem sys elemAt cc p x = some p' ∧ PassReached sys cc rest p' := by
  obtain ⟨l₁, l₂, hall, hx, hinitial, hruntime, hvisited, hcalls⟩ := hr
  cases l₂ with
  | nil => simp at hx
  | cons e l₂ =>
    obtain ⟨rfl, rfl⟩ := by simpa using hx
    have hall' : cc.fsconfig.delayed.runtimeList = (l₁ ++ [e]) ++ l₂ := by simp [hall]
    have hcalls' := delayedPassCalls_concat sys l₁ cc e
    rw [← hcalls, ← hvisited] at hcalls'
    have hstays := delayedStays_concat sys cc.runtimeStat.lxc l₁ e
    rw [← hvisited] at hstays
    rw [doDelayedElem_spec sys cc (hat e (by simp [hall])) p]
    by_cases hs : delayedElemStays sys cc.runtimeStat.lxc p.visited e
    · rw [if_pos hs] at hstays ⊢
      refine ⟨_, rfl, l₁ ++ [e], l₂, hall', rfl, hinitial, ?_, ?_, hcalls'.symm⟩
      · show LinkedRuntime p.links _
        simpa [hstays] using hruntime
      · simp [DelayedPass.skip, hvisited]
    · rw [if_neg hs] at hstays ⊢
      obtain ⟨h', hh', hq', hk⟩ := LinkedRuntime.leave (p := { p with
        calls := p.calls ++ (delayedElemCall sys cc p.visited e).toList }) hruntime
      refine ⟨_, hh', l₁ ++ [e], l₂, hall', rfl, hinitial.frame hk, ?_, ?_, hcalls'.symm⟩
      · simpa [hstays] using hq'
      · simp [DelayedPass.skip, hvisited]

/-- A pass over the queue takes out of the list in memory what it takes out of the queue, and makes
the same mount calls. -/
theorem containerDoDelayedLists_spec (sys : DelayedSys) {cc : ContainerConfig}
    {elemAt : ℕ → DelayedMountElem} {fuel : ℕ} (hl : cc.fsconfig.delayed.LinkedIn h)
    (hat : ∀ e ∈ cc.fsconfig.delayed.runtimeList, elemAt e.node = e)
    (hfuel : cc.fsconfig.delayed.runtimeList.length < fuel) :
    ∃ p, containerDoDelayedLists sys elemAt cc fuel h = some p ∧
      (containerDoDelayedOperation sys cc).1.fsconfig.delayed.LinkedIn p.links ∧
      (containerDoDelayedOperation sys cc).1.fsconfig.delayed.mountCalls =
        cc.fsconfig.delayed.mountCalls ++ p.calls := by
  by_cases hs : cc.runtimeStat.status = .started
  · rw [containerDoDelayedOperation_started sys hs, containerDoDelayedLists, if_neg (by simp [hs])]
    by_cases he : empty h .runtimeList
    · rw [if_pos he]
      have hnil : cc.fsconfig.delayed.runtimeList = [] := by
        simpa using (Linked.empty_iff hl.runtime).mp he
      exact ⟨_, rfl, ⟨hl.initial, by simpa [hnil, delayedStays] using hl.runtime⟩,
        by simp [hnil, delayedPassCalls]⟩
    · rw [if_neg he]
      have hstart : PassReached sys cc
          (cc.fsconfig.delayed.runtimeList.map fun e => .runtime e.node) { links := h } :=
        ⟨[], _, rfl, rfl, hl.initial, hl.runtime, rfl, rfl⟩
      have hloop : ∃ p, forEachSafe DelayedPass.links (doDelayedElem sys elemAt cc) .runtimeList
          fuel { links := h } = some p ∧ PassReached sys cc [] p := by
        refine forEachSafe_rule ?_ (fun _ _ _ => PassReached.pass hat) hstart ?_
          (by simpa using hfuel)
        · rintro rest p ⟨l₁, l₂, -, rfl, -, hruntime, -⟩
          exact ⟨_, by simpa [LinkedRuntime] using hruntime⟩
        · exact hl.runtime
      obtain ⟨p, hp, l₁, l₂, hall, hrest, hinitial, hruntime, -, hcalls⟩ := hloop
      obtain rfl : l₂ = [] := by simpa using hrest.symm
      rw [List.append_nil] at hall hruntime
      exact ⟨p, hp, ⟨hinitial, hall ▸ hruntime⟩, by rw [hcalls, hall]⟩
  · rw [containerDoDelayedOperation_idle sys hs, containerDoDelayedLists, if_pos hs]
    exact ⟨_, rfl, hl, by simp⟩

/-- The parser links the configured elements and leaves the queue empty. -/
theorem loadDelayedLists_spec (h : Links DelayedNode) (hn : (l.map DelayedMountElem.node).Nodup) :
    ∃ h', loadDelayedLists h l = some h' ∧ LinkedInitial h' l ∧ LinkedRuntime h' [] := by
  have hloop : ∀ done rest : List DelayedMountElem, ∀ h, l = done ++ rest →
      LinkedInitial h done → LinkedRuntime h [] → ∃ h', rest.foldlM
        (fun h e => addTail h .initialList (.list e.node)) h = some h' ∧
          LinkedInitial h' l ∧ LinkedRuntime h' [] := by
    intro done rest
    induction rest generalizing done with
    | nil =>
      intro h hl hd hq
      rw [List.append_nil] at hl
      exact ⟨h, rfl, hl ▸ hd, hq⟩
    | cons e rest ih =>
      intro h hl hd hq
      have he : e.node ∉ done.map DelayedMountElem.node := by
        rw [hl, List.map_append, List.nodup_append] at hn
        exact fun hmem => hn.2.2 _ hmem _ (by simp) rfl
      obtain ⟨h', hh', hd', hframe⟩ := Linked.addTail hd (x := .list e.node) (by simpa using he)
      have hq' : LinkedRuntime h' [] := by
        have hout : ∀ y ∈ [DelayedNode.runtimeList], h'.next y = h.next y ∧ h'.prev y = h.prev y :=
          fun y hy => hframe y (by simp_all)
        exact Linked.frame hq (fun y hy => (hout y hy).1) fun y hy => (hout y hy).2
      obtain ⟨h'', hh'', hl''⟩ := ih (done ++ [e]) h' (by simp [hl])
        (by simpa [LinkedInitial] using hd') hq'
      exact ⟨h'', by simp [hh', hh''], hl''⟩
  apply hloop [] l _ rfl
  · exact Linked.init (linked_init _ _) (by simp)
  · exact linked_init _ _

end Lists

/-! ### The links in a run -/

/-- A move of a guest, with what the functions do to the links. -/
inductive DelayedListsMove (elemAt : ℕ → DelayedMountElem) (fuel : ℕ) :
    ContainerConfig × Links DelayedNode → ContainerConfig × Links DelayedNode → Prop where
  | keep {cc cc' : ContainerConfig} {h : Links DelayedNode} (hk : KeepsDelayed cc cc') :
      DelayedListsMove elemAt fuel (cc, h) (cc', h)
  | setup {cc cc' : ContainerConfig} {h h' : Links DelayedNode}
      (hd : cc'.fsconfig.delayed = cc.fsconfig.delayed.requeue)
      (hh' : containerSetupDelayedLists fuel h = some h') :
      DelayedListsMove elemAt fuel (cc, h) (cc', h')
  | cleanup {cc cc' : ContainerConfig} {h : Links DelayedNode}
      (hd : cc'.fsconfig.delayed = cc.fsconfig.delayed.clear) :
      DelayedListsMove elemAt fuel (cc, h) (cc', containerCleanupDelayedLists h)
  | mounted {cc : ContainerConfig} {h : Links DelayedNode} {p : DelayedPass} (sys : DelayedSys)
      (hp : containerDoDelayedLists sys elemAt cc fuel h = some p) :
      DelayedListsMove elemAt fuel (cc, h) ((containerDoDelayedOperation sys cc).1, p.links)

end ContainerManager

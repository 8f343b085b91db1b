import Mathlib.Logic.Function.Basic
import Mathlib.Data.List.Nodup

/-!
# Intrusive circular lists

Doubly linked lists whose links are fields of the elements. A list is a node of its own, its head,
and the nodes that are linked with it; an element with several such fields can be in several lists.
A pointer may be null, and an operation that follows one has no result.
-/

namespace DlList

universe u

/-- The links of all nodes. -/
structure Links (ν : Type u) where
  next : ν → Option ν
  prev : ν → Option ν

/-! ### Operations -/

section Operations

variable {ν : Type u} [DecidableEq ν]

namespace Links

def setNext (h : Links ν) (x : ν) (y : Option ν) : Links ν :=
  { h with next := Function.update h.next x y }

def setPrev (h : Links ν) (x : ν) (y : Option ν) : Links ν :=
  { h with prev := Function.update h.prev x y }

end Links

/-- The node is linked with itself. -/
def init (h : Links ν) (list : ν) : Links ν := (h.setNext list (some list)).setPrev list (some list)

/-- Link a node behind another. -/
def add (h : Links ν) (list item : ν) : Option (Links ν) := do
  let h := (h.setNext item (h.next list)).setPrev item (some list)
  let first ← h.next list
  some ((h.setPrev first (some item)).setNext list (some item))

/-- Link a node at the end. -/
def addTail (h : Links ν) (list item : ν) : Option (Links ν) := do
  let last ← h.prev list
  add h last item

/-- Take a node out; its own links are null afterwards. -/
def del (h : Links ν) (item : ν) : Option (Links ν) := do
  let following ← h.next item
  let h := h.setPrev following (h.prev item)
  let before ← h.prev item
  let h := h.setNext before (h.next item)
  some ((h.setNext item none).setPrev item none)

def empty (h : Links ν) (list : ν) : Bool := h.next list = some list

section Loops

variable {σ : Type u} (links : σ → Links ν) (body : σ → ν → Option σ) (list : ν)

/-- The loop over the nodes from this one on. -/
def forEachFrom : ℕ → σ → ν → Option σ
  | 0, _, _ => none
  | fuel + 1, s, item =>
    if item = list then some s
    else do
      let s ← body s item
      let item ← (links s).next item
      forEachFrom fuel s item

/-- The loop over the nodes. -/
def forEach (fuel : ℕ) (s : σ) : Option σ := do
  let item ← (links s).next list
  forEachFrom links body list fuel s item

/-- The loop over the nodes from this one on, where the next one is already known. -/
def forEachSafeFrom : ℕ → σ → ν → ν → Option σ
  | 0, _, _, _ => none
  | fuel + 1, s, item, n =>
    if item = list then some s
    else do
      let s ← body s item
      let n' ← (links s).next n
      forEachSafeFrom fuel s n n'

/-- The loop over the nodes whose body may take out the node it visits. -/
def forEachSafe (fuel : ℕ) (s : σ) : Option σ := do
  let item ← (links s).next list
  let n ← (links s).next item
  forEachSafeFrom links body list fuel s item n

end Loops

end Operations

/-! ### Chains -/

/-- The nodes are linked in this order, between two nodes. -/
def Chain (h : Links ν) : ν → List ν → ν → Prop
  | a, [], b => h.next a = some b ∧ h.prev b = some a
  | a, x :: l, b => h.next a = some x ∧ h.prev x = some a ∧ Chain h x l b

section Chains

variable {ν : Type u} {h h' : Links ν} {a b n x : ν} {l l' : List ν}

lemma chain_append : Chain h a (l ++ x :: l') b ↔ Chain h a l x ∧ Chain h x l' b := by
  induction l generalizing a with
  | nil => simp [Chain, and_assoc]
  | cons y l ih => simp [Chain, ih, and_assoc]

/-- A chain is kept when its links are. -/
lemma Chain.frame (hc : Chain h a l b) (hnext : ∀ y ∈ a :: l, h'.next y = h.next y)
    (hprev : ∀ y ∈ l ++ [b], h'.prev y = h.prev y) : Chain h' a l b := by
  induction l generalizing a with
  | nil => exact ⟨(hnext a (by simp)).trans hc.1, (hprev b (by simp)).trans hc.2⟩
  | cons y l ih =>
    obtain ⟨hn, hp, hc⟩ := hc
    refine ⟨(hnext a (by simp)).trans hn, (hprev y (by simp)).trans hp, ih hc ?_ ?_⟩
    · exact fun z hz => hnext z (List.mem_cons_of_mem _ hz)
    · exact fun z hz => hprev z (by simpa using .inr (by simpa using hz))

lemma Chain.next_start (hc : Chain h a l b) : h.next a = (l ++ [b]).head? := by
  cases l with
  | nil => exact hc.1
  | cons y l => exact hc.1

lemma Chain.prev_end (hc : Chain h a l b) : h.prev b = some ((a :: l).getLast (by simp)) := by
  induction l generalizing a with
  | nil => exact hc.2
  | cons y l ih => simpa using ih hc.2.2

lemma Chain.next_end (hc : Chain h a l b) : h.next ((a :: l).getLast (by simp)) = some b := by
  induction l generalizing a with
  | nil => exact hc.1
  | cons y l ih => simpa using ih hc.2.2

/-- The last link of a chain is turned to another node. -/
lemma Chain.redirect (hc : Chain h a l b) (hl : (a :: l).Nodup)
    (hnext : ∀ y ∈ a :: l, y ≠ (a :: l).getLast (by simp) → h'.next y = h.next y)
    (hprev : ∀ y ∈ l, h'.prev y = h.prev y)
    (hlast : h'.next ((a :: l).getLast (by simp)) = some n)
    (hn : h'.prev n = some ((a :: l).getLast (by simp))) : Chain h' a l n := by
  induction l generalizing a with
  | nil => exact ⟨hlast, hn⟩
  | cons y l ih =>
    obtain ⟨hay, hya, hc⟩ := hc
    have hne : a ≠ (a :: y :: l).getLast (by simp) := by
      intro e
      have hmem : (y :: l).getLast (by simp) ∈ y :: l := List.getLast_mem _
      rw [List.getLast_cons (by simp)] at e
      exact (List.nodup_cons.mp hl).1 (e ▸ hmem)
    refine ⟨(hnext a (by simp) hne).trans hay, (hprev y (by simp)).trans hya, ?_⟩
    apply ih hc (List.nodup_cons.mp hl).2
    · intro z hz hzl
      exact hnext z (List.mem_cons_of_mem _ hz) (by rwa [List.getLast_cons (by simp)])
    · exact fun z hz => hprev z (List.mem_cons_of_mem _ hz)
    · rwa [List.getLast_cons (by simp)] at hlast
    · rwa [List.getLast_cons (by simp)] at hn

end Chains

/-! ### Lists -/

/-- The nodes in the list with this head, in their order. -/
structure Linked {ν : Type u} (h : Links ν) (head : ν) (l : List ν) : Prop where
  nodup : (head :: l).Nodup
  chain : Chain h head l head

section Lists

variable {ν : Type u} [DecidableEq ν] {h h' : Links ν} {head x : ν} {l l' : List ν}

omit [DecidableEq ν] in
lemma Linked.frame (hl : Linked h head l) (hnext : ∀ y ∈ head :: l, h'.next y = h.next y)
    (hprev : ∀ y ∈ head :: l, h'.prev y = h.prev y) : Linked h' head l :=
  ⟨hl.nodup, hl.chain.frame hnext fun y hy => hprev y (by simpa [or_comm] using hy)⟩

lemma linked_init (h : Links ν) (head : ν) : Linked (init h head) head [] := by
  refine ⟨by simp, ?_⟩
  simp [Chain, init, Links.setNext, Links.setPrev]

/-- A node outside of the list may be linked with itself. -/
lemma Linked.init (hl : Linked h head l) (hx : x ∉ head :: l) : Linked (init h x) head l := by
  apply hl.frame
  all_goals
    intro y hy
    have hne : y ≠ x := fun e => hx (e ▸ hy)
    simp [DlList.init, Links.setNext, Links.setPrev, hne]

lemma Linked.empty_iff (hl : Linked h head l) : empty h head ↔ l = [] := by
  have hfirst := hl.chain.next_start
  rw [empty, hfirst]
  cases l with
  | nil => simp
  | cons y l =>
    have hne : y ≠ head := fun e => (List.nodup_cons.mp hl.nodup).1 (by simp [e])
    simp [hne]

lemma addTail_eq {last : ν} (hlast : h.prev head = some last) (hend : h.next last = some head)
    (hne : last ≠ x) : addTail h head x = some {
      next := Function.update (Function.update h.next x (some head)) last (some x)
      prev := Function.update (Function.update h.prev x (some last)) head (some x) } := by
  simp [addTail, add, hlast, hend, Links.setNext, Links.setPrev, Function.update_of_ne hne]

lemma del_eq {following before : ν} (hn : h.next x = some following) (hp : h.prev x = some before) :
    del h x = some {
      next := Function.update (Function.update h.next before (some following)) x none
      prev := Function.update (Function.update h.prev following (some before)) x none } := by
  simp [del, hn, hp, Links.setNext, Links.setPrev, Function.update_apply]

lemma exists_del {following before : ν} (hn : h.next x = some following)
    (hp : h.prev x = some before) : ∃ h', del h x = some h' ∧
      h'.next = Function.update (Function.update h.next before (some following)) x none ∧
      h'.prev = Function.update (Function.update h.prev following (some before)) x none :=
  ⟨_, del_eq hn hp, rfl, rfl⟩

omit [DecidableEq ν] in
/-- There is a node to go on with, if only the head. -/
lemma exists_head? (rest : List ν) (list : ν) : ∃ item, (rest ++ [list]).head? = some item :=
  Option.ne_none_iff_exists'.mp (by simp)

/-- A node that is linked at the end is the last one, and nothing else changes. -/
lemma Linked.addTail (hl : Linked h head l) (hx : x ∉ head :: l) :
    ∃ h', addTail h head x = some h' ∧ Linked h' head (l ++ [x]) ∧
      ∀ y ∉ head :: (l ++ [x]), h'.next y = h.next y ∧ h'.prev y = h.prev y := by
  have hmem : (head :: l).getLast (by simp) ∈ head :: l := List.getLast_mem _
  have hxl : (head :: l).getLast (by simp) ≠ x := fun e => hx (e ▸ hmem)
  have hhx : head ≠ x := fun e => hx (by simp [e])
  have hnot : ∀ y ∈ head :: l, y ≠ x := fun y hy e => hx (e ▸ hy)
  refine ⟨_, addTail_eq hl.chain.prev_end hl.chain.next_end hxl, ⟨?_, ?_⟩, ?_⟩
  · rw [← List.cons_append, List.nodup_append]
    exact ⟨hl.nodup, by simp, fun y hy z hz => by simpa [List.mem_singleton.mp hz] using hnot y hy⟩
  · rw [chain_append]
    constructor
    · apply hl.chain.redirect hl.nodup
      · intro y hy hne
        simp [Function.update_of_ne hne, Function.update_of_ne (hnot y hy)]
      · intro y hy
        have hyh : y ≠ head := fun e => (List.nodup_cons.mp hl.nodup).1 (e ▸ hy)
        simp [Function.update_of_ne hyh, Function.update_of_ne (hnot y (by simp [hy]))]
      · simp
      · simp [Function.update_of_ne hhx.symm]
    · simp [Chain, Function.update_of_ne hxl.symm]
  · intro y hy
    have hyl : y ≠ (head :: l).getLast (by simp) := by
      rintro rfl
      exact hy (List.cons_subset_cons head (List.subset_append_left l [x]) hmem)
    simp only [List.mem_cons, List.mem_append, not_or] at hy
    simp [Function.update_of_ne hyl, Function.update_of_ne hy.1, Function.update_of_ne hy.2.2.1]

/-- A node that is taken out is the only one that is gone. -/
lemma Linked.del (hl : Linked h head (l ++ x :: l')) :
    ∃ h', del h x = some h' ∧ Linked h' head (l ++ l') ∧
      ∀ y ∉ head :: (l ++ x :: l'), h'.next y = h.next y ∧ h'.prev y = h.prev y := by
  obtain ⟨hbefore, hafter⟩ := chain_append.mp hl.chain
  have hd := hl.nodup
  rw [← List.cons_append] at hd
  obtain ⟨hlnodup, hxnodup, hdisj⟩ := List.nodup_append.mp hd
  have hmem : (head :: l).getLast (by simp) ∈ head :: l := List.getLast_mem _
  have hnot : ∀ y ∈ head :: l, y ≠ x := fun y hy => hdisj y hy x (by simp)
  have hhead : ∀ y ∈ l, y ≠ head := fun y hy e => (List.nodup_cons.mp hlnodup).1 (e ▸ hy)
  -- the node behind the one that is taken out is one of the rest or the head
  obtain ⟨n, hn⟩ := exists_head? l' head
  have hnmem : n = head ∨ n ∈ l' := by
    simpa [or_comm] using List.mem_of_mem_head? (Option.mem_def.mpr hn)
  have hnl : ∀ y ∈ l, y ≠ n := by
    rcases hnmem with rfl | hnmem
    · exact hhead
    · exact fun y hy => hdisj y (by simp [hy]) n (by simp [hnmem])
  have hnx : n ≠ x := by
    rcases hnmem with rfl | hnmem
    · exact hnot n (by simp)
    · exact fun e => (List.nodup_cons.mp hxnodup).1 (e ▸ hnmem)
  obtain ⟨h', hh', hnext, hprev⟩ := exists_del (hafter.next_start.trans hn) hbefore.prev_end
  refine ⟨h', hh', ⟨?_, ?_⟩, ?_⟩
  · exact hl.nodup.sublist (((List.sublist_cons_self x l').append_left l).cons_cons head)
  · have hturned : Chain h' head l n := by
      apply hbefore.redirect hlnodup
      · intro y hy hne
        simp [hnext, Function.update_of_ne hne, Function.update_of_ne (hnot y hy)]
      · intro y hy
        simp [hprev, Function.update_of_ne (hnl y hy),
          Function.update_of_ne (hnot y (by simp [hy]))]
      · simp [hnext, Function.update_of_ne (hnot _ hmem)]
      · simp [hprev, Function.update_of_ne hnx]
    cases l' with
    | nil =>
      obtain rfl : head = n := by simpa using hn
      simpa using hturned
    | cons z l' =>
      obtain rfl : z = n := by simpa using hn
      obtain ⟨hxnot, hznodup⟩ := List.nodup_cons.mp hxnodup
      refine chain_append.mpr ⟨hturned, hafter.2.2.frame ?_ ?_⟩
      · intro y hy
        have hyx : y ≠ x := fun e => hxnot (e ▸ hy)
        have hyl : y ≠ (head :: l).getLast (by simp) :=
          (hdisj _ hmem y (List.mem_cons_of_mem x hy)).symm
        simp [hnext, Function.update_of_ne hyx, Function.update_of_ne hyl]
      · intro y hy
        have hyz : y ≠ z ∧ y ≠ x := by
          rcases List.mem_append.mp hy with hy | hy
          · exact ⟨fun e => (List.nodup_cons.mp hznodup).1 (e ▸ hy),
              fun e => hxnot (List.mem_cons_of_mem z (e ▸ hy))⟩
          · obtain rfl := List.mem_singleton.mp hy
            exact ⟨hdisj y (by simp) z (by simp), hnot y (by simp)⟩
        simp [hprev, Function.update_of_ne hyz.1, Function.update_of_ne hyz.2]
  · intro y hy
    have hyl : y ≠ (head :: l).getLast (by simp) := by
      rintro rfl
      exact hy (List.cons_subset_cons head (List.subset_append_left l (x :: l')) hmem)
    have hyn : y ≠ n := by
      rintro rfl
      rcases hnmem with rfl | hnmem
      · exact hy (by simp)
      · exact hy (by simp [hnmem])
    have hyx : y ≠ x := fun e => hy (by simp [e])
    simp [hnext, hprev, Function.update_of_ne hyl, Function.update_of_ne hyx,
      Function.update_of_ne hyn]

omit [DecidableEq ν] in
lemma Linked.next_head (hl : Linked h head l) : h.next head = (l ++ [head]).head? :=
  hl.chain.next_start

omit [DecidableEq ν] in
lemma Linked.next (hl : Linked h head (l ++ x :: l')) : h.next x = (l' ++ [head]).head? :=
  (chain_append.mp hl.chain).2.next_start

end Lists

/-! ### Loops over lists -/

section LoopRules

variable {ν σ : Type u} [DecidableEq ν] {links : σ → Links ν} {body : σ → ν → Option σ} {list : ν}
  {l : List ν} {s : σ} {fuel : ℕ}

/-- What every pass of a loop keeps, the loop keeps; it visits all nodes. `I visited rest s` says
which nodes were visited and which are left. -/
theorem forEach_rule {I : List ν → List ν → σ → Prop}
    (hlinked : ∀ visited rest s, I visited rest s → Linked (links s) list (visited ++ rest))
    (hbody : ∀ visited x rest s, I visited (x :: rest) s →
      ∃ s', body s x = some s' ∧ I (visited ++ [x]) rest s')
    (h : I [] l s) (hfuel : l.length < fuel) :
    ∃ s', forEach links body list fuel s = some s' ∧ I l [] s' := by
  have hfrom : ∀ rest visited s fuel item, I visited rest s → rest.length < fuel →
      (rest ++ [list]).head? = some item →
      ∃ s', forEachFrom links body list fuel s item = some s' ∧ I (visited ++ rest) [] s' := by
    intro rest
    induction rest with
    | nil =>
      intro visited s fuel item hI hf hitem
      obtain rfl : list = item := by simpa using hitem
      cases fuel with
      | zero => simp at hf
      | succ fuel => exact ⟨s, by simp [forEachFrom], by simpa using hI⟩
    | cons x rest ih =>
      intro visited s fuel item hI hf hitem
      obtain rfl : x = item := by simpa using hitem
      cases fuel with
      | zero => simp at hf
      | succ fuel =>
        have hne : x ≠ list := fun e =>
          (List.nodup_cons.mp (hlinked _ _ _ hI).nodup).1 (by simp [e])
        obtain ⟨s', hs', hI'⟩ := hbody _ _ _ _ hI
        have hl := hlinked _ _ _ hI'
        rw [List.append_assoc, List.singleton_append] at hl
        obtain ⟨item, hitem⟩ := exists_head? rest list
        obtain ⟨s'', hs'', hI''⟩ := ih _ s' fuel item hI' (by simpa using hf) hitem
        refine ⟨s'', ?_, by simpa using hI''⟩
        simp [forEachFrom, hne, hs', hl.next, hitem, hs'']
  obtain ⟨item, hitem⟩ := exists_head? l list
  obtain ⟨s', hs', hI'⟩ := hfrom l [] s fuel item h hfuel hitem
  have hnext := (hlinked _ _ _ h).next_head
  rw [List.nil_append, hitem] at hnext
  exact ⟨s', by simp [forEach, hnext, hs'], by simpa using hI'⟩

/-- The same for a loop whose body may take out the node it visits: the nodes that are left are
linked behind some others. -/
theorem forEachSafe_rule {I : List ν → σ → Prop}
    (hlinked : ∀ rest s, I rest s → ∃ kept, Linked (links s) list (kept ++ rest))
    (hbody : ∀ x rest s, I (x :: rest) s → ∃ s', body s x = some s' ∧ I rest s')
    (h : I l s) (hl : Linked (links s) list l) (hfuel : l.length < fuel) :
    ∃ s', forEachSafe links body list fuel s = some s' ∧ I [] s' := by
  have hfrom : ∀ rest s fuel item n, I rest s → rest.length < fuel →
      (rest ++ [list]).head? = some item → (item ≠ list → (rest.tail ++ [list]).head? = some n) →
      ∃ s', forEachSafeFrom links body list fuel s item n = some s' ∧ I [] s' := by
    intro rest
    induction rest with
    | nil =>
      intro s fuel item n hI hf hitem _
      obtain rfl : list = item := by simpa using hitem
      cases fuel with
      | zero => simp at hf
      | succ fuel => exact ⟨s, by simp [forEachSafeFrom], hI⟩
    | cons x rest ih =>
      intro s fuel item n hI hf hitem hn
      obtain rfl : x = item := by simpa using hitem
      cases fuel with
      | zero => simp at hf
      | succ fuel =>
        obtain ⟨kept, hkept⟩ := hlinked _ _ hI
        have hne : x ≠ list := fun e => (List.nodup_cons.mp hkept.nodup).1 (by simp [e])
        have hn : (rest ++ [list]).head? = some n := hn hne
        obtain ⟨s', hs', hI'⟩ := hbody _ _ _ hI
        obtain ⟨kept', hkept'⟩ := hlinked _ _ hI'
        -- the node that is next has a successor: one of the rest, or the first one of the list
        obtain ⟨n', hn', hrest⟩ : ∃ n', (links s').next n = some n' ∧
            (n ≠ list → (rest.tail ++ [list]).head? = some n') := by
          cases rest with
          | nil =>
            obtain rfl : list = n := by simpa using hn
            obtain ⟨n', hn'⟩ := exists_head? (kept' ++ []) list
            exact ⟨n', hkept'.next_head.trans hn', fun h => absurd rfl h⟩
          | cons y rest =>
            obtain rfl : y = n := by simpa using hn
            obtain ⟨n', hn'⟩ := exists_head? rest list
            exact ⟨n', hkept'.next.trans hn', fun _ => hn'⟩
        obtain ⟨s'', hs'', hI''⟩ := ih s' fuel n n' hI' (by simpa using hf) hn hrest
        exact ⟨s'', by simp [forEachSafeFrom, hne, hs', hn', hs''], hI''⟩
  obtain ⟨item, hitem⟩ := exists_head? l list
  have hnext := hl.next_head.trans hitem
  obtain ⟨n, hn, hrest⟩ : ∃ n, (links s).next item = some n ∧
      (item ≠ list → (l.tail ++ [list]).head? = some n) := by
    cases l with
    | nil =>
      obtain rfl : list = item := by simpa using hitem
      exact ⟨list, hnext, fun h => absurd rfl h⟩
    | cons x l =>
      obtain rfl : x = item := by simpa using hitem
      obtain ⟨n, hn⟩ := exists_head? l list
      have hnx : (links s).next x = (l ++ [list]).head? := Linked.next (l := []) hl
      exact ⟨n, hnx.trans hn, fun _ => hn⟩
  obtain ⟨s', hs', hI'⟩ := hfrom l s fuel item n h hfuel hitem hrest
  exact ⟨s', by simp [forEachSafe, hnext, hn, hs'], hI'⟩

end LoopRules

end DlList

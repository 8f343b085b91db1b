import ContainerManager.Parser.Memory

/-!
# Records and lists of the parser

Every function of the parser owns what its pointers point to, whichever allocations fail. Here for
the parts that all sections share: strings, records with their strings, and lists of records. When
no allocation fails, what is live has the kinds of what was read.
-/

namespace ContainerManager.Memory

open Ownership

variable {mem : ℕ → Bool} {E : Fault → Prop} {β : Type} {P : Blocks}
  {S : β → Blocks → Prop}

/-- No allocation fails. -/
def NeverFails (mem : ℕ → Bool) : Prop := ∀ n, mem n = true

lemma NeverFails.failures_eq_zero (h : NeverFails mem) (n m : ℕ) : failures mem n m = 0 := by
  simp [failures, h _]

/-! ### Strings and records -/

/-- The kinds of a string that may be missing. -/
def stringKind (given : Bool) : Multiset Block := if given then {.string} else 0

@[simp] lemma stringKind_true : stringKind true = {.string} := rfl

@[simp] lemma stringKind_false : stringKind false = 0 := rfl

/-- The kinds of a record with its strings. -/
def recordKinds (k : Block) (strings : List Bool) : Multiset Block :=
  {k} + (strings.map stringKind).sum

@[simp] lemma kinds_string (p : Option ℕ) :
    (one Block.string p).map Prod.fst = stringKind p.isSome := by
  cases p <;> rfl

/-- What a list owns with one more element. -/
lemma sum_addTail {α : Type} (own : α → Blocks) (l : List α) (a : α) :
    ((addTail l a).map own).sum = (l.map own).sum + own a := by
  simp [addTail]

def Node.own (k : Block) (node : Node) : Blocks :=
  {(k, node.self)} + (node.strings.map (one .string)).sum

/-- The records of a list. -/
def nodesOwn (k : Block) (l : List Node) : Blocks := (l.map (Node.own k)).sum

@[simp] lemma nodesOwn_nil (k : Block) : nodesOwn k [] = 0 := rfl

lemma nodesOwn_addTail (k : Block) (l : List Node) (node : Node) :
    nodesOwn k (addTail l node) = nodesOwn k l + node.own k :=
  sum_addTail _ _ _

lemma malloc_bind {k : Block} {g : Option ℕ → Owning Block β}
    (h : ∀ p, (NeverFails mem → p ≠ none) → Owns (one k p + P) (g p) S E) :
    Owns P (malloc mem k >>= g) S E :=
  Owns.tryAcquire h

lemma strdup_owns (given : Bool) :
    Owns 0 (strdup mem given)
      (fun p R => R = one Block.string p ∧ (NeverFails mem → p.isSome = given)) E := by
  cases given with
  | true =>
    rw [strdup, if_pos rfl, ← bind_pure (malloc mem .string)]
    apply malloc_bind
    intro p hp
    exact Owns.pure ⟨add_zero _, fun hfull => Option.isSome_iff_ne_none.mpr (hp hfull)⟩
  | false => exact Owns.pure ⟨rfl, fun _ => rfl⟩

lemma strdup_bind {given : Bool} {g : Option ℕ → Owning Block β}
    (h : ∀ p, (NeverFails mem → p.isSome = given) → Owns (one .string p + P) (g p) S E) :
    Owns P (strdup mem given >>= g) S E := by
  apply (strdup_owns given).call (zero_add P).symm fun _ he => he
  rintro p _ ⟨rfl, hp⟩
  exact h p hp

lemma strings_owns (strings : List Bool) :
    Owns 0 (strings.mapM (strdup mem))
      (Built Nothing (NeverFails mem) (fun l => (l.map (one .string)).sum)
        (strings.map stringKind).sum fun _ => True) E := by
  induction strings with
  | nil => exact Owns.pure (.mk_nothing rfl fun _ => ⟨rfl, trivial⟩)
  | cons given strings ih =>
    rw [List.mapM_cons]
    apply strdup_bind
    intro p hp
    apply ih.call (add_comm _ _) fun _ he => he
    intro l R hl
    apply Owns.pure
    rw [hl.eq]
    refine .mk_nothing (add_comm _ _) fun hfull => ⟨?_, trivial⟩
    rw [Multiset.map_add, hl.kinds_own hfull, kinds_string, hp hfull, List.map_cons,
      List.sum_cons, add_comm]

lemma newNode_owns (k : Block) (strings : List Bool) :
    Owns 0 (newNode mem k strings)
      (Built Nothing (NeverFails mem) (fun o => o.elim 0 (Node.own k)) (recordKinds k strings)
        fun o => o ≠ none) E := by
  apply malloc_bind
  intro p hp
  cases p with
  | none => exact Owns.pure (.mk_nothing rfl fun hfull => absurd rfl (hp hfull))
  | some self =>
    apply (strings_owns strings).call (add_comm _ _) fun _ he => he
    intro l R hl
    apply Owns.pure
    rw [hl.eq]
    refine .mk_nothing ?_ fun hfull => ⟨?_, Option.some_ne_none _⟩
    · simp [Node.own, add_comm]
    · rw [Multiset.map_add, hl.kinds_own hfull, add_comm]
      rfl

/-- The record of an entry, for a loop that passes over what was dropped. -/
lemma makeNode_owns (k : Block) (strings : Option (List Bool)) {made : Option Node → Made Node}
    (hown : ∀ o, (made o).own (Node.own k) = o.elim 0 (Node.own k))
    (hmade : ∀ o, o ≠ none → made o ≠ .aborted) :
    Owns 0 (makeNode mem k strings made)
      (Built Nothing (NeverFails mem) (Made.own (Node.own k)) (strings.elim 0 (recordKinds k))
        fun m => m ≠ .aborted ∧ True) E := by
  cases strings with
  | none => exact Owns.pure (.mk_nothing rfl fun _ => ⟨rfl, by simp⟩)
  | some strings =>
    rw [makeNode, map_eq_pure_bind]
    apply (newNode_owns k strings).call (zero_add _).symm fun _ he => he
    intro o R ho
    apply Owns.pure
    refine .mk_nothing ?_ fun hfull => ?_
    · rw [ho.eq, hown, add_zero]
    · obtain ⟨-, hkinds, hsome⟩ := ho.exact hfull
      rw [add_zero]
      exact ⟨hkinds, hmade o hsome, trivial⟩

lemma orAbort_own (own : β → Blocks) (o : Option β) : (orAbort o).own own = o.elim 0 own := by
  cases o <;> rfl

lemma orAbort_ne_aborted {o : Option β} (h : o ≠ none) : orAbort o ≠ .aborted := by
  cases o with
  | none => exact absurd rfl h
  | some b => simp [orAbort]

lemma orSkip_own (own : β → Blocks) (o : Option β) : (orSkip o).own own = o.elim 0 own := by
  cases o <;> rfl

lemma orSkip_ne_aborted (o : Option β) : orSkip o ≠ .aborted := by
  cases o <;> simp [orSkip]

/-! ### Freeing -/

lemma freeNode_owns (k : Block) (node : Node) :
    Owns (node.own k) (freeNode k node) (fun _ R => R = 0) E := by
  have hstrings : Owns (node.strings.map (one Block.string)).sum
      (node.strings.forM (releaseOpt .string)) (fun _ R => R = 0) E :=
    Owns.forM_release (Owns.releaseOpt Block.string) node.strings
  apply hstrings.call (add_comm _ _) fun _ he => he
  rintro _ _ rfl
  rw [zero_add]
  exact Owns.release_last k node.self

lemma freeNodes_owns (k : Block) (l : List Node) :
    Owns (nodesOwn k l) (freeNodes k l) (fun _ R => R = 0) E :=
  Owns.forM_reverse (freeNode_owns k) l

/-! ### Lists of a section -/

/-- A list of what is made of each entry. -/
lemma collectList_owns {ι : Type} {new : ι → Owning Block (Made β)} {own' : β → Blocks}
    {kinds : ι → Multiset Block} (h : ∀ i, Owns 0 (new i)
      (Built Nothing (NeverFails mem) (Made.own own') (kinds i) fun m => m ≠ .aborted ∧ True) E)
    (items : List ι) :
    Owns 0 (collect new addTail items [])
      (Built Nothing (NeverFails mem) (fun r => (r.1.map own').sum) (items.map kinds).sum
        fun r => r.2 = true) E := by
  have hcollect := Owns.collect (fun l : List β => (l.map own').sum) (sum_addTail own') items
    (fun i _ => h i) []
  refine Owns.mono hcollect ?_ fun _ he => he
  intro r R hr
  refine .mk_nothing hr.eq fun hfull => ?_
  obtain ⟨-, hkinds, hcomplete, -⟩ := hr.exact hfull
  exact ⟨by simpa using hkinds, hcomplete⟩

/-- A section is built, or freed when it cannot be. -/
lemma parseOrFree_owns {σ : Type} {new : CJson → Owning Block (Made β)} {add : σ → β → σ}
    {free : σ → Owning Block Unit} {empty : σ} {own : σ → Blocks} {own' : β → Blocks}
    {kinds : CJson → Multiset Block} (hown : ∀ s b, own (add s b) = own s + own' b)
    (hempty : own empty = 0) (hfree : ∀ s, Owns (own s) (free s) (fun _ R => R = 0) E)
    (h : ∀ i, Owns 0 (new i)
      (Built Nothing (NeverFails mem) (Made.own own') (kinds i) fun m => m ≠ .aborted ∧ True) E)
    (items : List CJson) :
    Owns 0 (parseOrFree new add free empty items)
      (Built Nothing (NeverFails mem) (fun r => own r.1) (items.map kinds).sum fun r => r.2 = 0)
      E := by
  have hcollect := Owns.collect own hown items (fun i _ => h i) empty
  rw [hempty] at hcollect
  apply hcollect.call (zero_add _).symm fun _ he => he
  rintro ⟨s, complete⟩ R hs
  rw [add_zero, hs.eq]
  cases complete with
  | true =>
    refine Owns.pure (.mk_nothing rfl fun hfull => ⟨?_, rfl⟩)
    rw [hs.kinds_own hfull, Multiset.map_zero, zero_add]
  | false =>
    apply (hfree s).call (add_zero _).symm fun _ he => he
    rintro _ _ rfl
    rw [add_zero]
    refine Owns.pure (.mk_nothing hempty.symm fun hfull => ?_)
    simpa using (hs.exact hfull).2.2.1

/-- The kinds of the elements of a list. -/
def listKinds {α : Type} (kinds : α → Multiset Block) (l : List α) : Multiset Block :=
  (l.map kinds).sum

@[simp] lemma listKinds_nil {α : Type} (kinds : α → Multiset Block) : listKinds kinds [] = 0 := rfl

@[simp] lemma listKinds_append {α : Type} (kinds : α → Multiset Block) (l l' : List α) :
    listKinds kinds (l ++ l') = listKinds kinds l + listKinds kinds l' := by
  simp [listKinds]

/-- The entries that are kept are the elements of the list. -/
lemma listKinds_filterMap {ι α : Type} (entry : ι → Option α) (kinds : α → Multiset Block)
    (l : List ι) :
    (l.map fun i => (entry i).elim 0 kinds).sum = listKinds kinds (l.filterMap entry) := by
  induction l with
  | nil => rfl
  | cons i l ih =>
    rw [List.map_cons, List.sum_cons, ih]
    cases hi : entry i with
    | none => rw [List.filterMap_cons_none hi, Option.elim_none, zero_add]
    | some a => rw [List.filterMap_cons_some hi, Option.elim_some, listKinds, listKinds,
        List.map_cons, List.sum_cons]

/-- A loop that adds the kinds of each of its passes. -/
lemma kinds_foldl {ι σ : Type} {kinds : σ → Multiset Block} {pass : σ → ι → σ}
    {kind : ι → Multiset Block} (h : ∀ s i, kinds (pass s i) = kinds s + kind i) (l : List ι)
    (s : σ) : kinds (l.foldl pass s) = kinds s + (l.map kind).sum := by
  induction l generalizing s with
  | nil => simp
  | cons i l ih => rw [List.foldl_cons, ih, h, List.map_cons, List.sum_cons, add_assoc]

end ContainerManager.Memory

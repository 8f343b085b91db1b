import Mathlib.Algebra.BigOperators.Group.List.Basic
import Mathlib.Algebra.Order.Group.Multiset
import Mathlib.Data.Multiset.AddSub
import Mathlib.Tactic.Abel

/-!
# Ownership of resources

Programs that acquire and release resources, with a ledger of what is live. The use or release of
what is not live is a fault, and so is the use of a null pointer. A specification `Owns` names what
a program is given and what it gives back; everything else that is live stays as it is. `OwnsFrom`
also follows the numbers that are given out.
-/

namespace Ownership

/-- What ends a program. -/
inductive Fault where
  /-- a null pointer was dereferenced -/
  | null
  /-- what was released before is used or released -/
  | dangling
deriving DecidableEq, Repr

/-- A resource: its kind, and a number that no other one has. -/
abbrev Resource (κ : Type) := κ × ℕ

/-- The resources that are live, and the number of the next one, which is larger than theirs. -/
structure Ledger (κ : Type) where
  live : Multiset (Resource κ) := 0
  next : ℕ := 0
  fresh : ∀ r ∈ live, r.2 < next := by simp

/-- A program over a ledger. -/
abbrev Owning (κ : Type) := StateT (Ledger κ) (Except Fault)

section Programs

variable {κ : Type}

namespace Ledger

/-- The number of the next resource goes unused. -/
def skip (l : Ledger κ) : Ledger κ where
  live := l.live
  next := l.next + 1
  fresh r hr := (l.fresh r hr).trans (Nat.lt_succ_self _)

/-- The next resource is of this kind. -/
def add (l : Ledger κ) (k : κ) : Ledger κ where
  live := (k, l.next) ::ₘ l.live
  next := l.next + 1
  fresh r hr := by
    rcases Multiset.mem_cons.mp hr with rfl | hr
    · exact Nat.lt_succ_self _
    · exact l.skip.fresh r hr

/-- The resource is no longer live. -/
def erase [DecidableEq κ] (l : Ledger κ) (r : Resource κ) : Ledger κ where
  live := l.live.erase r
  next := l.next
  fresh s hs := l.fresh s (Multiset.mem_of_mem_erase hs)

end Ledger

/-- Acquire a resource of this kind. -/
def acquire (k : κ) : Owning κ ℕ := fun l => .ok (l.next, l.add k)

/-- Acquire a resource of this kind. `ok` tells the numbers for which there is none left. -/
def tryAcquire (ok : ℕ → Bool) (k : κ) : Owning κ (Option ℕ) := fun l =>
  if ok l.next then .ok (some l.next, l.add k) else .ok (none, l.skip)

/-- Acquire a resource of this kind, if there is one. -/
def acquireIf (ok : Bool) (k : κ) : Owning κ (Option ℕ) :=
  if ok then some <$> acquire k else pure none

/-- Release a resource. -/
def release [DecidableEq κ] (k : κ) (id : ℕ) : Owning κ Unit := fun l =>
  if (k, id) ∈ l.live then .ok ((), l.erase (k, id)) else .error .dangling

/-- Read or write a resource. -/
def access [DecidableEq κ] (k : κ) (id : ℕ) : Owning κ Unit := fun l =>
  if (k, id) ∈ l.live then .ok ((), l) else .error .dangling

/-- Release a resource, unless the pointer to it is null. -/
def releaseOpt [DecidableEq κ] (k : κ) : Option ℕ → Owning κ Unit
  | none => pure ()
  | some id => release k id

/-- What a pointer points to. -/
def deref {α : Type} : Option α → Owning κ α
  | none => fun _ => .error .null
  | some a => pure a

/-- What became of an entry: something was made of it, it was passed over, or the loop gives up. -/
inductive Made (β : Type) where
  | made (b : β)
  | skipped
  | aborted

/-- Collect what is made of the entries, until a step gives up. Tells whether none did. -/
def collect {ι β σ : Type} (new : ι → Owning κ (Made β)) (add : σ → β → σ) :
    List ι → σ → Owning κ (σ × Bool)
  | [], s => pure (s, true)
  | i :: rest, s => do
    match ← new i with
    | .made b => collect new add rest (add s b)
    | .skipped => collect new add rest s
    | .aborted => pure (s, false)

end Programs

/-! ### Specifications -/

variable {κ α β : Type}

/-- What a pointer owns. -/
def one (k : κ) (p : Option ℕ) : Multiset (Resource κ) := p.elim 0 fun id => {(k, id)}

@[simp] lemma one_none (k : κ) : one k none = 0 := rfl

@[simp] lemma one_some (k : κ) (id : ℕ) : one k (some id) = {(k, id)} := rfl

/-- The outcome is a result with this, or a fault with that. -/
def Meets (Q : α → Ledger κ → Prop) (E : Fault → Prop) : Except Fault (α × Ledger κ) → Prop
  | .ok (a, l) => Q a l
  | .error f => E f

lemma Meets.mono {Q Q' : α → Ledger κ → Prop} {E E' : Fault → Prop}
    {r : Except Fault (α × Ledger κ)} (h : Meets Q E r) (hQ : ∀ a l, Q a l → Q' a l)
    (hE : ∀ e, E e → E' e) : Meets Q' E' r := by
  cases r with
  | error e => exact hE e h
  | ok r => exact hQ _ _ h

/-- Started when exactly `P` is live, the program ends in `Q`, or in a fault with `E`. No number is
given out again. -/
def Runs (P : Multiset (Resource κ)) (c : Owning κ α) (Q : α → Multiset (Resource κ) → Prop)
    (E : Fault → Prop) : Prop :=
  ∀ l : Ledger κ, l.live = P → Meets (fun a l' => l.next ≤ l'.next ∧ Q a l'.live) E (c l)

/-- Given `P`, the program gives back what `Q` tells, and leaves all other resources alone. -/
def Owns (P : Multiset (Resource κ)) (c : Owning κ α) (Q : α → Multiset (Resource κ) → Prop)
    (E : Fault → Prop) : Prop :=
  ∀ F, Runs (P + F) c (fun a R => ∃ R', Q a R' ∧ R = R' + F) E

variable {P P' G : Multiset (Resource κ)} {c : Owning κ α} {f : α → Owning κ β}
  {Q Q' : α → Multiset (Resource κ) → Prop} {S : β → Multiset (Resource κ) → Prop}
  {E E' : Fault → Prop}

namespace Runs

lemma pure {a : α} (h : Q a P) : Runs P (pure a) Q E := by
  rintro l rfl
  exact ⟨le_rfl, h⟩

lemma bind (h : Runs P c (fun a R => Runs R (f a) S E) E) : Runs P (c >>= f) S E := by
  intro l hl
  have hc := h l hl
  change Meets _ E ((c l).bind fun r => f r.1 r.2)
  cases hr : c l with
  | error e =>
    rw [hr] at hc
    exact hc
  | ok r =>
    rw [hr] at hc
    exact (hc.2 r.2 rfl).mono (fun _ _ h => ⟨hc.1.trans h.1, h.2⟩) fun _ he => he

lemma ite {p : Prop} [Decidable p] {c d : Owning κ α} (hp : p → Runs P c Q E)
    (hn : ¬ p → Runs P d Q E) : Runs P (if p then c else d) Q E := by
  split_ifs with h
  · exact hp h
  · exact hn h

lemma mono (h : Runs P c Q E) (hQ : ∀ a R, Q a R → Q' a R) (hE : ∀ e, E e → E' e) :
    Runs P c Q' E' := fun l hl => (h l hl).mono (fun a l' h => ⟨h.1, hQ a l'.live h.2⟩) hE

lemma acquire {k : κ} {g : ℕ → Owning κ β} (h : ∀ id, Runs ({(k, id)} + P) (g id) S E) :
    Runs P (acquire k >>= g) S E := by
  apply bind
  rintro l rfl
  exact ⟨Nat.le_succ _, h l.next⟩

/-- The number of a new resource is not that of another one. -/
lemma tryAcquire {ok : ℕ → Bool} {k : κ} {g : Option ℕ → Owning κ β}
    (h : ∀ p, ((∀ n, ok n) → p ≠ none) → (∀ id ∈ p, ∀ k', (k', id) ∉ P) →
      Runs (one k p + P) (g p) S E) : Runs P (tryAcquire ok k >>= g) S E := by
  apply bind
  rintro l rfl
  simp only [Ownership.tryAcquire]
  split_ifs with hok
  · refine ⟨Nat.le_succ _, h (some l.next) (fun _ => Option.some_ne_none _) ?_⟩
    rintro id hid k' hk'
    obtain rfl : l.next = id := by simpa using hid
    exact (l.fresh _ hk').false
  · have hnone : Runs l.live (g none) S E := by
      simpa using h none (fun hall => absurd (hall l.next) hok) (by simp)
    exact ⟨Nat.le_succ _, hnone⟩

/-- What is not live cannot be used. -/
lemma access_dangling [DecidableEq κ] {k : κ} {id : ℕ} {g : Unit → Owning κ β}
    (h : (k, id) ∉ P) (hE : E .dangling) : Runs P (access k id >>= g) S E := by
  apply bind
  rintro l rfl
  simp only [access, if_neg h]
  exact hE

/-- What is not live cannot be released. -/
lemma dangling [DecidableEq κ] {k : κ} {id : ℕ} {Q : Unit → Multiset (Resource κ) → Prop}
    (h : (k, id) ∉ P) (hE : E .dangling) : Runs P (release k id) Q E := by
  rintro l rfl
  simp only [release, if_neg h]
  exact hE

end Runs

namespace Owns

lemma pure {a : α} (h : Q a P) : Owns P (pure a) Q E := fun _ => Runs.pure ⟨P, h, rfl⟩

lemma mono (h : Owns P c Q E) (hQ : ∀ a R, Q a R → Q' a R) (hE : ∀ e, E e → E' e) :
    Owns P c Q' E' := by
  intro F
  apply (h F).mono _ hE
  rintro a R ⟨R', hR', rfl⟩
  exact ⟨R', hQ a R' hR', rfl⟩

/-- A program from which all that is live is known. -/
lemma runs (h : Owns P c Q E) : Runs P c Q E := by
  have hrun := h 0
  rw [add_zero] at hrun
  apply hrun.mono _ fun _ he => he
  rintro a R ⟨R', hR', rfl⟩
  rwa [add_zero]

lemma bind (h : Owns P c (fun a R => Owns R (f a) S E) E) : Owns P (c >>= f) S E := by
  intro F
  apply Runs.bind
  apply (h F).mono _ fun _ he => he
  rintro a R ⟨R', hR', rfl⟩
  exact hR' F

/-- The frame rule. -/
lemma frame (h : Owns P c Q E) (G : Multiset (Resource κ)) :
    Owns (P + G) c (fun a R => ∃ R', Q a R' ∧ R = R' + G) E := by
  intro F
  rw [add_assoc]
  apply (h (G + F)).mono _ fun _ he => he
  rintro a R ⟨R', hR', rfl⟩
  exact ⟨R' + G, ⟨R', hR', rfl⟩, (add_assoc _ _ _).symm⟩

/-- A call of a procedure that needs only a part. -/
lemma call (h : Owns P c Q E') (hP : P' = P + G) (hE : ∀ e, E' e → E e)
    (hf : ∀ a R, Q a R → Owns (R + G) (f a) S E) : Owns P' (c >>= f) S E := by
  subst hP
  apply bind
  apply (h.frame G).mono _ hE
  rintro a R ⟨R', hR', rfl⟩
  exact hf a R' hR'

/-- A last call. -/
lemma last (h : Owns P c Q E') (hP : P' = P + G) (hE : ∀ e, E' e → E e)
    (hQ : ∀ a R, Q a R → Q' a (R + G)) : Owns P' c Q' E := by
  subst hP
  apply (h.frame G).mono _ hE
  rintro a R ⟨R', hR', rfl⟩
  exact hQ a R' hR'

/-- A call from a program of which all that is live is known. -/
lemma run (h : Owns P c Q E') (hP : P' = P + G) (hE : ∀ e, E' e → E e)
    (hf : ∀ a R, Q a R → Runs (R + G) (f a) S E) : Runs P' (c >>= f) S E := by
  subst hP
  apply Runs.bind
  apply (h G).mono _ hE
  rintro a R ⟨R', hR', rfl⟩
  exact hf a R' hR'

lemma acquire {k : κ} {g : ℕ → Owning κ β} (h : ∀ id, Owns ({(k, id)} + P) (g id) S E) :
    Owns P (acquire k >>= g) S E := by
  apply bind
  rintro F l hl
  refine ⟨Nat.le_succ _, {(k, l.next)} + P, h l.next, ?_⟩
  rw [add_assoc, Multiset.singleton_add, ← hl]
  rfl

/-- An acquisition as a last call. -/
lemma acquire_last {k : κ} :
    Owns 0 (Ownership.acquire k) (fun id R => R = ({(k, id)} : Multiset (Resource κ))) E := by
  rw [← bind_pure (Ownership.acquire k)]
  exact acquire fun id => pure (add_zero _)

lemma tryAcquire {ok : ℕ → Bool} {k : κ} {g : Option ℕ → Owning κ β}
    (h : ∀ p, ((∀ n, ok n) → p ≠ none) → Owns (one k p + P) (g p) S E) :
    Owns P (tryAcquire ok k >>= g) S E := by
  intro F
  apply Runs.tryAcquire
  intro p hp _
  rw [← add_assoc]
  exact h p hp F

lemma access [DecidableEq κ] {k : κ} {id : ℕ} {g : Unit → Owning κ β} (hP : (k, id) ∈ P)
    (h : Owns P (g ()) S E) : Owns P (access k id >>= g) S E := by
  apply bind
  intro F l hl
  have hmem : (k, id) ∈ l.live := by simp [hl, hP]
  simp only [Ownership.access, if_pos hmem]
  exact ⟨le_rfl, P, h, hl⟩

lemma release [DecidableEq κ] {k : κ} {id : ℕ} {g : Unit → Owning κ β}
    (hP : P' = {(k, id)} + P) (h : Owns P (g ()) S E) : Owns P' (release k id >>= g) S E := by
  subst hP
  apply bind
  intro F l hl
  have hmem : (k, id) ∈ l.live := by simp [hl]
  simp only [Ownership.release, if_pos hmem]
  refine ⟨le_rfl, P, h, ?_⟩
  show l.live.erase (k, id) = P + F
  rw [hl, add_assoc, Multiset.singleton_add, Multiset.erase_cons_head]

lemma acquireIf {ok : Bool} {k : κ} {g : Option ℕ → Owning κ β}
    (h : ∀ p, p.isSome = ok → Owns (one k p + P) (g p) S E) :
    Owns P (acquireIf ok k >>= g) S E := by
  cases ok with
  | false => simpa [Ownership.acquireIf] using h none rfl
  | true =>
    simp only [Ownership.acquireIf, if_true, bind_map_left]
    exact acquire fun id => h (some id) rfl

/-- A release as a last call. -/
lemma release_last [DecidableEq κ] (k : κ) (id : ℕ) :
    Owns {(k, id)} (Ownership.release k id) (fun _ R => R = 0) E := by
  rw [← bind_pure (Ownership.release k id)]
  exact release (add_zero _).symm (pure rfl)

lemma releaseOpt [DecidableEq κ] (k : κ) (p : Option ℕ) :
    Owns (one k p) (releaseOpt k p) (fun _ R => R = 0) E := by
  cases p with
  | none => exact pure rfl
  | some id => exact release_last k id

lemma ite {p : Prop} [Decidable p] {c d : Owning κ α} (hp : p → Owns P c Q E)
    (hn : ¬ p → Owns P d Q E) : Owns P (if p then c else d) Q E := by
  split_ifs with h
  · exact hp h
  · exact hn h

lemma null {g : α → Owning κ β} (hE : E .null) : Owns P (deref none >>= g) S E := by
  apply bind
  intro F l hl
  exact hE

/-- A loop whose state owns what is live. A view of the state goes its own way. -/
lemma foldlM_view {σ ι τ : Type} {own : σ → Multiset (Resource κ)} {I : σ → Prop} {V : σ → τ}
    {N : τ → ι → τ} {step : σ → ι → Owning κ σ}
    (h : ∀ s i, I s → Owns (own s) (step s i)
      (fun s' R => R = own s' ∧ I s' ∧ V s' = N (V s) i) E)
    (l : List ι) {s : σ} (hs : I s) :
    Owns (own s) (l.foldlM step s)
      (fun s' R => R = own s' ∧ I s' ∧ V s' = l.foldl N (V s)) E := by
  induction l generalizing s with
  | nil => exact pure ⟨rfl, hs, rfl⟩
  | cons i l ih =>
    rw [List.foldlM_cons]
    apply bind
    apply (h s i hs).mono _ fun _ he => he
    rintro s' _ ⟨rfl, hs', hview⟩
    rw [List.foldl_cons, ← hview]
    exact ih hs'

/-- A loop whose state owns what is live. -/
lemma foldlM {σ ι : Type} {own : σ → Multiset (Resource κ)} {step : σ → ι → Owning κ σ}
    (h : ∀ s i, Owns (own s) (step s i) (fun s' R => R = own s') E) (l : List ι) (s : σ) :
    Owns (own s) (l.foldlM step s) (fun s' R => R = own s') E := by
  have hview := foldlM_view (I := fun _ => True) (V := fun _ => ()) (N := fun _ _ => ())
    (fun s i _ => (h s i).mono (fun _ _ h => ⟨h, trivial, rfl⟩) fun _ he => he) l (s := s) trivial
  exact hview.mono (fun _ _ h => h.1) fun _ he => he

/-- A loop over things that each own something. -/
lemma forM {ι : Type} {own left : ι → Multiset (Resource κ)} {step : ι → Owning κ PUnit}
    (h : ∀ i, Owns (own i) (step i) (fun _ R => R = left i) E) (l : List ι) :
    Owns (l.map own).sum (l.forM step) (fun _ R => R = (l.map left).sum) E := by
  induction l with
  | nil => exact pure rfl
  | cons i l ih =>
    rw [List.map_cons, List.sum_cons]
    show Owns _ (step i >>= fun _ => l.forM step) _ E
    apply call (h i) rfl fun _ he => he
    rintro _ _ rfl
    apply ih.last (add_comm _ _) fun _ he => he
    rintro _ _ rfl
    rw [List.map_cons, List.sum_cons, add_comm]

/-- A loop that releases all that the things own. -/
lemma forM_release {ι : Type} {own : ι → Multiset (Resource κ)} {step : ι → Owning κ PUnit}
    (h : ∀ i, Owns (own i) (step i) (fun _ R => R = 0) E) (l : List ι) :
    Owns (l.map own).sum (l.forM step) (fun _ R => R = 0) E := by
  apply (forM h l).mono _ fun _ he => he
  rintro _ _ rfl
  simp

/-- The same from the last one. -/
lemma forM_reverse {ι : Type} {own : ι → Multiset (Resource κ)} {step : ι → Owning κ PUnit}
    (h : ∀ i, Owns (own i) (step i) (fun _ R => R = 0) E) (l : List ι) :
    Owns (l.map own).sum (l.reverse.forM step) (fun _ R => R = 0) E := by
  rw [← ((List.reverse_perm l).map own).sum_eq]
  exact forM_release h l.reverse

/-- A loop that makes something of each thing. -/
lemma mapM {ι : Type} {own : ι → Multiset (Resource κ)} {own' : β → Multiset (Resource κ)}
    {Rel : ι → β → Prop} {step : ι → Owning κ β}
    (h : ∀ i, Owns (own i) (step i) (fun b R => R = own' b ∧ Rel i b) E) (l : List ι) :
    Owns (l.map own).sum (l.mapM step)
      (fun bs R => R = (bs.map own').sum ∧ List.Forall₂ Rel l bs) E := by
  induction l with
  | nil => exact pure ⟨rfl, .nil⟩
  | cons i l ih =>
    rw [List.mapM_cons, List.map_cons, List.sum_cons]
    apply call (h i) rfl fun _ he => he
    rintro b _ ⟨rfl, hb⟩
    apply call ih (add_comm _ _) fun _ he => he
    rintro bs _ ⟨rfl, hbs⟩
    apply pure
    rw [List.map_cons, List.sum_cons, add_comm]
    exact ⟨rfl, .cons hb hbs⟩

end Owns

/-! ### Numbers of the resources -/

/-- How often there was nothing left to acquire, for the numbers from `n` to `m`. -/
def failures (ok : ℕ → Bool) (n m : ℕ) : ℕ := (List.range' n (m - n)).countP fun k => !ok k

lemma failures_add (ok : ℕ → Bool) {n m k : ℕ} (hnm : n ≤ m) (hmk : m ≤ k) :
    failures ok n k = failures ok n m + failures ok m k := by
  have hrange : List.range' n (k - n) = List.range' n (m - n) ++ List.range' m (k - m) := by
    have happend : List.range' n (m - n) ++ List.range' (n + (m - n)) (k - m) =
        List.range' n (m - n + (k - m)) := List.range'_append_1
    rw [show n + (m - n) = m by omega, show m - n + (k - m) = k - n by omega] at happend
    exact happend.symm
  rw [failures, hrange, List.countP_append]
  rfl

@[simp] lemma failures_self (ok : ℕ → Bool) (n : ℕ) : failures ok n n = 0 := by simp [failures]

lemma failures_succ {ok : ℕ → Bool} {n : ℕ} (h : ok n = false) : failures ok n (n + 1) = 1 := by
  simp [failures, h]

/-- Given `P` when `n` is the next number, the program gives back what `Q` tells, which also knows
the next number then. -/
def OwnsFrom (P : Multiset (Resource κ)) (n : ℕ) (c : Owning κ α)
    (Q : α → Multiset (Resource κ) → ℕ → Prop) (E : Fault → Prop) : Prop :=
  ∀ F, ∀ l : Ledger κ, l.live = P + F → l.next = n →
    Meets (fun a l' => n ≤ l'.next ∧ ∃ R, Q a R l'.next ∧ l'.live = R + F) E (c l)

lemma Owns.from_next (h : Owns P c Q E) (n : ℕ) : OwnsFrom P n c (fun a R _ => Q a R) E := by
  rintro F l hl rfl
  exact h F l hl

namespace OwnsFrom

variable {n : ℕ} {T T' : α → Multiset (Resource κ) → ℕ → Prop}
  {U : β → Multiset (Resource κ) → ℕ → Prop}

lemma owns (h : ∀ n, OwnsFrom P n c (fun a R _ => Q a R) E) : Owns P c Q E :=
  fun F l hl => h l.next F l hl rfl

lemma pure {a : α} (h : T a P n) : OwnsFrom P n (pure a) T E := by
  rintro F l hl rfl
  exact ⟨le_rfl, P, h, hl⟩

lemma mono (h : OwnsFrom P n c T E) (hT : ∀ a R m, n ≤ m → T a R m → T' a R m)
    (hE : ∀ e, E e → E' e) : OwnsFrom P n c T' E' := by
  intro F l hl hn
  apply (h F l hl hn).mono _ hE
  rintro a l' ⟨hle, R, hR, hlive⟩
  exact ⟨hle, R, hT a R _ hle hR, hlive⟩

/-- Two facts about one program. -/
lemma and (h : OwnsFrom P n c T E) (h' : OwnsFrom P n c T' E') :
    OwnsFrom P n c (fun a R m => T a R m ∧ T' a R m) E := by
  intro F l hl hn
  have hc := h F l hl hn
  have hc' := h' F l hl hn
  cases hr : c l with
  | error e =>
    rw [hr] at hc
    exact hc
  | ok r =>
    rw [hr] at hc hc'
    obtain ⟨hle, R, hR, hlive⟩ := hc
    obtain ⟨-, R', hR', hlive'⟩ := hc'
    obtain rfl := add_right_cancel (hlive.symm.trans hlive')
    exact ⟨hle, R, ⟨hR, hR'⟩, hlive⟩

/-- A call of a procedure that needs only a part. -/
lemma call (h : OwnsFrom P n c T E') (hP : P' = P + G) (hE : ∀ e, E' e → E e)
    (hf : ∀ a R m, n ≤ m → T a R m → OwnsFrom (R + G) m (f a) U E) :
    OwnsFrom P' n (c >>= f) U E := by
  subst hP
  intro F l hl hn
  have hc := h (G + F) l (by rw [hl, add_assoc]) hn
  change Meets _ E ((c l).bind fun r => f r.1 r.2)
  cases hr : c l with
  | error e =>
    rw [hr] at hc
    exact hE e hc
  | ok r =>
    rw [hr] at hc
    obtain ⟨hle, R, hR, hlive⟩ := hc
    have hrest := hf r.1 R r.2.next hle hR F r.2 (by rw [hlive, add_assoc]) rfl
    exact hrest.mono (fun _ _ h => ⟨hle.trans h.1, h.2⟩) fun _ he => he

/-- A last call. -/
lemma last (h : OwnsFrom P n c T E') (hP : P' = P + G) (hE : ∀ e, E' e → E e)
    (hT : ∀ a R m, n ≤ m → T a R m → T' a (R + G) m) : OwnsFrom P' n c T' E := by
  rw [← bind_pure c]
  exact h.call hP hE fun a R m hnm hR => pure (hT a R m hnm hR)

lemma ite {p : Prop} [Decidable p] {c d : Owning κ α} (hp : p → OwnsFrom P n c T E)
    (hn : ¬ p → OwnsFrom P n d T E) : OwnsFrom P n (if p then c else d) T E := by
  split_ifs with h
  · exact hp h
  · exact hn h

lemma tryAcquire {ok : ℕ → Bool} {k : κ} {g : Option ℕ → Owning κ β}
    (hsome : ok n = true → OwnsFrom ({(k, n)} + P) (n + 1) (g (some n)) U E)
    (hnone : ok n = false → OwnsFrom P (n + 1) (g none) U E) :
    OwnsFrom P n (tryAcquire ok k >>= g) U E := by
  rintro F l hl rfl
  change Meets _ E ((Ownership.tryAcquire ok k l).bind fun r => g r.1 r.2)
  rw [Ownership.tryAcquire]
  cases hok : ok l.next with
  | true =>
    have hrest := hsome hok F (l.add k)
      (by rw [add_assoc, Multiset.singleton_add, ← hl]; rfl) rfl
    exact hrest.mono (fun _ _ h => ⟨(Nat.le_succ _).trans h.1, h.2⟩) fun _ he => he
  | false =>
    have hrest := hnone hok F l.skip hl rfl
    exact hrest.mono (fun _ _ h => ⟨(Nat.le_succ _).trans h.1, h.2⟩) fun _ he => he

/-- A loop that collects gives up only where there was nothing left to acquire. -/
lemma collect_quits {ι σ : Type} {ok : ℕ → Bool} {new : ι → Owning κ (Made β)} {add : σ → β → σ}
    (h : ∀ i n, OwnsFrom 0 n (new i) (fun m _ k => m = .aborted → 0 < failures ok n k) E)
    (l : List ι) (s : σ) :
    OwnsFrom P n (collect new add l s) (fun r _ k => r.2 = false → 0 < failures ok n k) E := by
  induction l generalizing P n s with
  | nil => exact pure (by simp)
  | cons i l ih =>
    rw [Ownership.collect]
    apply (h i n).call (zero_add _).symm fun _ he => he
    intro m R k hk hm
    have hnext (s' : σ) : OwnsFrom (R + P) k (Ownership.collect new add l s')
        (fun r _ k' => r.2 = false → 0 < failures ok n k') E := by
      apply (ih s').mono _ fun _ he => he
      intro r _ k' hk' hr hquit
      rw [failures_add ok hk hk']
      exact Nat.add_pos_right _ (hr hquit)
    cases m with
    | made b => exact hnext _
    | skipped => exact hnext _
    | aborted => exact pure fun _ => hm rfl

end OwnsFrom

/-! ### Building with allocations that can fail -/

/-- What something that was made owns. -/
def Made.own (own : β → Multiset (Resource κ)) : Made β → Multiset (Resource κ)
  | .made b => own b
  | .skipped => 0
  | .aborted => 0

/-- Something was built. What it owns is live, beside what was lost. When all allocations succeed
nothing was lost, what is live is of these kinds, and the result is as it should be. -/
structure Built (Lost : Multiset (Resource κ) → Prop) (full : Prop)
    (own : α → Multiset (Resource κ)) (kinds : Multiset κ) (Good : α → Prop) (a : α)
    (R : Multiset (Resource κ)) : Prop where
  lost : ∃ L, Lost L ∧ R = own a + L
  exact : full → R = own a ∧ R.map Prod.fst = kinds ∧ Good a

/-- Nothing was lost. -/
def Nothing (L : Multiset (Resource κ)) : Prop := L = 0

lemma nothing_zero : Nothing (0 : Multiset (Resource κ)) := rfl

lemma nothing_add (L L' : Multiset (Resource κ)) (h : Nothing L) (h' : Nothing L') :
    Nothing (L + L') := by
  rw [Nothing, h, h', add_zero]

section Built

variable {Lost Lost' : Multiset (Resource κ) → Prop} {full : Prop}
  {own : α → Multiset (Resource κ)} {own' : β → Multiset (Resource κ)} {kinds : Multiset κ}
  {Good : α → Prop} {a : α} {R : Multiset (Resource κ)}

lemma Built.mk_nothing (hR : R = own a) (h : full → R.map Prod.fst = kinds ∧ Good a) :
    Built Nothing full own kinds Good a R :=
  ⟨⟨0, rfl, by rw [hR, add_zero]⟩, fun hfull => ⟨hR, h hfull⟩⟩

lemma Built.eq (h : Built Nothing full own kinds Good a R) : R = own a := by
  obtain ⟨L, rfl, hR⟩ := h.lost
  rw [hR, add_zero]

lemma Built.of_nothing (hzero : Lost 0) (h : Built Nothing full own kinds Good a R) :
    Built Lost full own kinds Good a R :=
  ⟨⟨0, hzero, by rw [h.eq, add_zero]⟩, h.exact⟩

lemma Built.kinds_own (h : Built Nothing full own kinds Good a R) (hfull : full) :
    (own a).map Prod.fst = kinds := by
  rw [← h.eq]
  exact (h.exact hfull).2.1

/-- What was lost is framed off. -/
lemma Built.split (h : Built Lost full own kinds Good a R) :
    ∃ L, Lost L ∧ R = own a + L ∧ (full → L = 0) := by
  obtain ⟨L, hL, hR⟩ := h.lost
  refine ⟨L, hL, hR, fun hfull => ?_⟩
  have hexact := (h.exact hfull).1
  rw [hR] at hexact
  exact add_eq_left.mp hexact

/-- A loop that collects what is made of each entry. What is lost adds up. -/
lemma OwnsFrom.collect {ι σ : Type} {new : ι → Owning κ (Made β)} {add : σ → β → σ}
    (Lost : ℕ → ℕ → Multiset (Resource κ) → Prop) (own : σ → Multiset (Resource κ))
    {kinds : ι → Multiset κ} {Good : ι → Prop} (hzero : ∀ n, Lost n n 0)
    (hadd : ∀ n m k L L', n ≤ m → m ≤ k → Lost n m L → Lost m k L' → Lost n k (L + L'))
    (hown : ∀ s b, own (add s b) = own s + own' b) (l : List ι)
    (h : ∀ i ∈ l, ∀ n, OwnsFrom 0 n (new i) (fun m R k =>
      Built (Lost n k) full (Made.own own') (kinds i) (fun m => m ≠ .aborted ∧ Good i) m R) E)
    (s : σ) (n : ℕ) :
    OwnsFrom (own s) n (collect new add l s) (fun r R k =>
      Built (Lost n k) full (fun r => own r.1) ((own s).map Prod.fst + (l.map kinds).sum)
        (fun r => r.2 = true ∧ ∀ i ∈ l, Good i) r R) E := by
  induction l generalizing s n with
  | nil =>
    exact pure ⟨⟨0, hzero n, (add_zero _).symm⟩, fun _ => ⟨rfl, by simp, rfl, by simp⟩⟩
  | cons i l ih =>
    obtain ⟨hi, hrest⟩ := List.forall_mem_cons.mp h
    specialize ih hrest
    rw [Ownership.collect]
    apply (hi n).call (zero_add _).symm fun _ he => he
    intro m R k hk hm
    obtain ⟨L, hL, rfl, hnone⟩ := hm.split
    -- the rest of the loop starts beside what the entry left
    have hnext : ∀ s', own s' = own s + m.own own' → Good i ∧ m ≠ .aborted ∨ ¬ full →
        OwnsFrom (m.own own' + L + own s) k (Ownership.collect new add l s') (fun r R k' =>
          Built (Lost n k') full (fun r => own r.1)
            ((own s).map Prod.fst + ((i :: l).map kinds).sum)
            (fun r => r.2 = true ∧ ∀ j ∈ i :: l, Good j) r R) E := by
      intro s' hs' hgood
      have hsplit : m.own own' + L + own s = own s' + L := by
        rw [hs']
        abel
      apply (ih s' k).last hsplit fun _ he => he
      intro r R' k' hk' hr
      obtain ⟨L', hL', rfl, hnone'⟩ := hr.split
      have hlost : Lost n k' (L' + L) := add_comm L L' ▸ hadd _ _ _ _ _ hk hk' hL hL'
      refine ⟨⟨L' + L, hlost, add_assoc _ _ _⟩, fun hfull => ?_⟩
      obtain ⟨-, hkinds, hcomplete, hall⟩ := hr.exact hfull
      obtain ⟨-, hkind, -⟩ := hm.exact hfull
      rw [hnone hfull, add_zero] at hkind
      rw [hnone' hfull, add_zero] at hkinds
      rw [hnone hfull, hnone' hfull, add_zero, add_zero, hkinds, hs', Multiset.map_add, hkind,
        List.map_cons, List.sum_cons]
      refine ⟨rfl, add_assoc _ _ _, hcomplete, ?_⟩
      exact List.forall_mem_cons.mpr ⟨(hgood.resolve_right fun hn => hn hfull).1, hall⟩
    have hgood : Good i ∧ m ≠ .aborted ∨ ¬ full := by
      by_cases hfull : full
      · exact Or.inl ((hm.exact hfull).2.2.symm)
      · exact Or.inr hfull
    cases m with
    | made b => exact hnext (add s b) (hown s b) hgood
    | skipped => exact hnext s (add_zero _).symm hgood
    | aborted =>
      apply pure
      refine ⟨⟨L, hL, ?_⟩, fun hfull => ?_⟩
      · rw [Made.own, zero_add, add_comm]
      · exact absurd rfl (hm.exact hfull).2.2.1

/-- A loop that loses nothing. -/
lemma Owns.collect {ι σ : Type} {new : ι → Owning κ (Made β)} {add : σ → β → σ}
    (own : σ → Multiset (Resource κ)) {kinds : ι → Multiset κ} {Good : ι → Prop}
    (hown : ∀ s b, own (add s b) = own s + own' b) (l : List ι)
    (h : ∀ i ∈ l, Owns 0 (new i)
      (Built Nothing full (Made.own own') (kinds i) fun m => m ≠ .aborted ∧ Good i) E) (s : σ) :
    Owns (own s) (collect new add l s)
      (Built Nothing full (fun r => own r.1) ((own s).map Prod.fst + (l.map kinds).sum)
        fun r => r.2 = true ∧ ∀ i ∈ l, Good i) E :=
  OwnsFrom.owns fun n => OwnsFrom.collect (fun _ _ => Nothing) own (fun _ => nothing_zero)
    (fun _ _ _ L L' _ _ => nothing_add L L') hown l (fun i hi n => (h i hi).from_next n) s n

end Built

/-! ### Kinds that are not live -/

/-- No resource of this kind is among these. -/
def Lacks (k : κ) (P : Multiset (Resource κ)) : Prop := ∀ id, (k, id) ∉ P

section Lacks

variable {k k' : κ}

@[simp] lemma lacks_zero : Lacks k 0 := fun _ => Multiset.notMem_zero _

@[simp] lemma lacks_add : Lacks k (P + P') ↔ Lacks k P ∧ Lacks k P' := by
  simp only [Lacks, Multiset.mem_add, not_or, forall_and]

@[simp] lemma lacks_singleton {id : ℕ} :
    Lacks k ({(k', id)} : Multiset (Resource κ)) ↔ k ≠ k' := by
  simp [Lacks]

@[simp] lemma lacks_cons {id : ℕ} : Lacks k ((k', id) ::ₘ P) ↔ k ≠ k' ∧ Lacks k P := by
  rw [← Multiset.singleton_add, lacks_add, lacks_singleton]

@[simp] lemma lacks_elim {o : Option α} {own : α → Multiset (Resource κ)} :
    Lacks k (o.elim 0 own) ↔ ∀ a ∈ o, Lacks k (own a) := by
  cases o <;> simp

@[simp] lemma lacks_one {p : Option ℕ} : Lacks k (one k' p) ↔ k = k' → p = none := by
  cases p <;> simp

@[simp] lemma lacks_sum {l : List α} {own : α → Multiset (Resource κ)} :
    Lacks k (l.map own).sum ↔ ∀ a ∈ l, Lacks k (own a) := by
  induction l with
  | nil => simp
  | cons a l ih => simp [ih]

end Lacks

end Ownership

import Mathlib.Data.List.Basic
import Mathlib.Tactic.Common

/-!
# First-match search

Searching a list for the first element of a kind, where the test of an element may fail. `Clear`
says that a search for a good element stops before it meets a bad one; it is the exact condition for
two searches to agree, and for a search whose test fails on the bad elements to end well.
-/

namespace Search

variable {α β ε : Type}

/-- Every bad element of the list comes after a good one. -/
def Clear (bad good : α → Prop) (l : List α) : Prop :=
  ∀ pre x post, l = pre ++ x :: post → bad x → ∃ y ∈ pre, good y

lemma clear_nil (bad good : α → Prop) : Clear bad good [] := by
  intro pre x post h
  simp at h

lemma clear_cons {bad good : α → Prop} {x : α} {l : List α} :
    Clear bad good (x :: l) ↔ ¬ bad x ∧ (good x ∨ Clear bad good l) := by
  constructor
  · intro h
    refine ⟨fun hx => by simpa using h [] x l rfl hx, ?_⟩
    by_cases hgood : good x
    · exact Or.inl hgood
    · right
      intro pre y post hl hy
      obtain ⟨z, hz, hgz⟩ := h (x :: pre) y post (by rw [hl, List.cons_append]) hy
      rcases List.mem_cons.mp hz with rfl | hz
      · exact absurd hgz hgood
      · exact ⟨z, hz, hgz⟩
  · rintro ⟨hx, h⟩ pre y post hl hy
    cases pre with
    | nil =>
      obtain ⟨rfl, -⟩ := List.cons.inj hl
      exact absurd hy hx
    | cons z pre =>
      obtain ⟨rfl, rfl⟩ := List.cons.inj hl
      rcases h with h | h
      · exact ⟨x, List.mem_cons_self, h⟩
      · obtain ⟨w, hw, hgw⟩ := h pre y post rfl hy
        exact ⟨w, List.mem_cons_of_mem _ hw, hgw⟩

/-- Without bad elements the search is clear. -/
lemma clear_of_forall {bad good : α → Prop} {l : List α} (h : ∀ x ∈ l, ¬ bad x) :
    Clear bad good l := by
  intro pre x post hl hx
  exact absurd hx (h x (by simp [hl]))

/-- Two searches, one for more elements than the other, find the same element if and only if no
surplus element comes first. -/
lemma find?_eq_find?_iff {p q : α → Bool} (hpq : ∀ x, p x → q x) (l : List α) :
    l.find? q = l.find? p ↔ Clear (fun x => q x ∧ ¬ p x) (fun x => p x) l := by
  induction l with
  | nil => simp [clear_nil]
  | cons x l ih =>
    rw [clear_cons, ← ih]
    by_cases hp : p x
    · simp [hp, hpq x hp]
    · by_cases hq : q x
      · simp only [List.find?_cons_of_pos (l := l) hq, List.find?_cons_of_neg (l := l) hp]
        constructor
        · intro h
          exact absurd (List.find?_some h.symm) hp
        · intro h
          exact absurd ⟨hq, hp⟩ h.1
      · simp [hp, hq]

/-- A search whose test succeeds everywhere. -/
lemma findM?_ok {f : α → Except ε Bool} {p : α → Bool} {l : List α}
    (h : ∀ x ∈ l, f x = .ok (p x)) : l.findM? f = .ok (l.find? p) := by
  induction l with
  | nil => rfl
  | cons x l ih =>
    have hx := h x List.mem_cons_self
    have hl := ih fun y hy => h y (List.mem_cons_of_mem _ hy)
    cases hp : p x <;> simp [List.findM?, hx, hl, hp, bind, Except.bind, pure, Except.pure]

/-- A search whose test fails on the bad elements, and else finds the good ones, ends with the first
good element if and only if no bad element comes before it. -/
lemma findM?_ok_iff {f : α → Except ε Bool} {e : ε} {bad : α → Prop} {p : α → Bool}
    (hbad : ∀ x, bad x → f x = .error e ∧ ¬ p x) (hgood : ∀ x, ¬ bad x → f x = .ok (p x))
    (l : List α) : l.findM? f = .ok (l.find? p) ↔ Clear bad (fun x => p x) l := by
  induction l with
  | nil => simp [clear_nil, pure, Except.pure]
  | cons x l ih =>
    rw [clear_cons, ← ih]
    by_cases hx : bad x
    · simp [List.findM?, (hbad x hx).1, hx, bind, Except.bind]
    · cases hp : p x <;>
        simp [List.findM?, hgood x hx, hp, hx, bind, Except.bind, pure, Except.pure]

/-- What a search found passed the test. -/
lemma findM?_some {f : α → Except ε Bool} {l : List α} {x : α} (h : l.findM? f = .ok (some x)) :
    f x = .ok true := by
  induction l with
  | nil => simp [pure, Except.pure] at h
  | cons y l ih =>
    simp only [List.findM?] at h
    cases hy : f y with
    | error e => simp [hy, bind, Except.bind] at h
    | ok b =>
      cases b with
      | false => exact ih (by simpa [hy, bind, Except.bind] using h)
      | true =>
        obtain rfl : y = x := by simpa [hy, bind, Except.bind, pure, Except.pure] using h
        exact hy

/-- Searching one list and then another one. -/
lemma findM?_append (f : α → Except ε Bool) (l m : List α) :
    (l ++ m).findM? f = (do
      match ← l.findM? f with
      | some x => pure (some x)
      | none => m.findM? f) := by
  induction l with
  | nil => simp
  | cons x l ih =>
    simp only [List.cons_append, List.findM?, ih]
    cases f x with
    | error e => rfl
    | ok b => cases b <;> rfl

/-- Searching the image of a list. -/
lemma findM?_map (f : β → Except ε Bool) (g : α → β) (l : List α) :
    (l.map g).findM? f = (l.findM? fun x => f (g x)).map (Option.map g) := by
  induction l with
  | nil => rfl
  | cons x l ih =>
    simp only [List.map_cons, List.findM?, ih]
    cases f (g x) with
    | error e => rfl
    | ok b => cases b <;> rfl

end Search

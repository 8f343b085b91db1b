import Mathlib.Data.List.Nodup
import Mathlib.Data.List.Induction

/-!
# Lists kept by a feed of messages

A message is about one key. It is ignored, or it replaces the entry of its key by another one or by
none. The list then has the entry that the last message for a key gave it, of those that were not
ignored; whether it has what the last message of all says depends on the ignored ones.
-/

/-- How the messages of a feed change a list of entries. -/
structure Feed (α κ ε : Type*) where
  key : α → κ
  entryKey : ε → κ
  /-- `none` ignores the message, `some` is what the entry of its key becomes -/
  effect : α → Option (Option ε)
  entryKey_effect : ∀ a e, effect a = some (some e) → entryKey e = key a

/-- The last message for a key. -/
def lastFor {α κ : Type*} [DecidableEq κ] (key : α → κ) (k : κ) (as : List α) : Option α :=
  as.reverse.find? fun a => key a = k

namespace Feed

section Last

variable {α κ : Type*} [DecidableEq κ] {key : α → κ} {k : κ} {as : List α} {a : α}

@[simp] lemma lastFor_nil : lastFor key k [] = none := rfl

lemma lastFor_concat :
    lastFor key k (as ++ [a]) = if key a = k then some a else lastFor key k as := by
  by_cases h : key a = k <;> simp [lastFor, h]

lemma key_of_lastFor (h : lastFor key k as = some a) : key a = k := by
  simpa using List.find?_some h

end Last

variable {α κ ε : Type*} [DecidableEq κ] (F : Feed α κ ε)

/-- The list after a message. -/
def step (l : List ε) (a : α) : List ε :=
  match F.effect a with
  | none => l
  | some entry => entry.toList ++ l.filter fun e => F.entryKey e ≠ F.key a

/-- The list after these messages. -/
def run (as : List α) : List ε := as.foldl F.step []

/-- The last message for a key that was not ignored. -/
def lastTaken (k : κ) (as : List α) : Option α :=
  lastFor F.key k (as.filter fun a => (F.effect a).isSome)

variable {F} {k : κ} {as : List α} {a a' : α} {e : ε} {entry : Option ε}

lemma run_concat : F.run (as ++ [a]) = F.step (F.run as) a := by simp [run]

lemma lastTaken_concat_ignored (h : F.effect a = none) :
    F.lastTaken k (as ++ [a]) = F.lastTaken k as := by
  simp [lastTaken, h]

lemma lastTaken_concat (h : F.effect a = some entry) :
    F.lastTaken k (as ++ [a]) = if F.key a = k then some a else F.lastTaken k as := by
  rw [lastTaken, List.filter_append, List.filter_singleton, h]
  exact lastFor_concat

lemma key_of_lastTaken (h : F.lastTaken k as = some a) : F.key a = k := key_of_lastFor h

lemma mem_step (h : F.effect a = some entry) {l : List ε} :
    e ∈ F.step l a ↔ entry = some e ∨ e ∈ l ∧ F.entryKey e ≠ F.key a := by
  simp [step, h]

/-- An entry of the list is what the last message for its key gave it that was not ignored. -/
theorem mem_run : e ∈ F.run as ↔
    ∃ a, F.lastTaken (F.entryKey e) as = some a ∧ F.effect a = some (some e) := by
  induction as using List.reverseRecOn with
  | nil => simp [run, lastTaken]
  | append_singleton as a ih =>
    rw [run_concat]
    cases h : F.effect a with
    | none =>
      rw [lastTaken_concat_ignored h, ← ih]
      simp [step, h]
    | some entry =>
      rw [mem_step h, lastTaken_concat h, ih]
      by_cases hk : F.key a = F.entryKey e
      · simp [hk, h]
      · have hne : entry ≠ some e := fun he => hk (F.entryKey_effect a e (he ▸ h)).symm
        simp [hk, hne, Ne.symm hk]

/-- No two entries have the same key. -/
theorem run_nodup : ((F.run as).map F.entryKey).Nodup := by
  induction as using List.reverseRecOn with
  | nil => simp [run]
  | append_singleton as a ih =>
    rw [run_concat]
    cases h : F.effect a with
    | none => simpa [step, h] using ih
    | some entry =>
      have hrest : (((F.run as).filter fun e => F.entryKey e ≠ F.key a).map F.entryKey).Nodup :=
        ih.sublist (List.filter_sublist.map _)
      cases entry with
      | none => simpa [step, h] using hrest
      | some e =>
        have hk := F.entryKey_effect a e h
        simp only [step, h]
        refine List.nodup_cons.mpr ⟨?_, hrest⟩
        simp [hk]

/-- The last message for a key is the last one that was not ignored, unless it is ignored. -/
lemma lastTaken_of_lastFor (h : lastFor F.key k as = some a) (ha : F.effect a = some entry) :
    F.lastTaken k as = some a := by
  induction as using List.reverseRecOn with
  | nil => simp at h
  | append_singleton as b ih =>
    rw [lastFor_concat] at h
    by_cases hk : F.key b = k
    · rw [if_pos hk] at h
      obtain rfl := Option.some.inj h
      rw [lastTaken_concat ha, if_pos hk]
    · rw [if_neg hk] at h
      cases hb : F.effect b with
      | none => rw [lastTaken_concat_ignored hb, ih h]
      | some entry' => rw [lastTaken_concat hb, if_neg hk, ih h]

lemma exists_lastFor_of_lastTaken (h : F.lastTaken k as = some a) :
    ∃ a', lastFor F.key k as = some a' := by
  induction as using List.reverseRecOn with
  | nil => simp [lastTaken] at h
  | append_singleton as b ih =>
    rw [lastFor_concat]
    by_cases hk : F.key b = k
    · exact ⟨b, if_pos hk⟩
    · rw [if_neg hk]
      cases hb : F.effect b with
      | none => exact ih (by rwa [lastTaken_concat_ignored hb] at h)
      | some entry => exact ih (by rwa [lastTaken_concat hb, if_neg hk] at h)

/-- The entries are those of the last messages, ignored or not, exactly when no ignored last message
leaves an entry behind. -/
theorem mem_run_iff_last : (∀ e, e ∈ F.run as ↔
      ∃ a, lastFor F.key (F.entryKey e) as = some a ∧ F.effect a = some (some e)) ↔
    ∀ k a, lastFor F.key k as = some a → F.effect a = none →
      ∀ a', F.lastTaken k as = some a' → ∀ e, F.effect a' ≠ some (some e) := by
  constructor
  · intro h k a hlast ha a' htaken e he
    have hk : F.entryKey e = k := (F.entryKey_effect a' e he).trans (key_of_lastTaken htaken)
    obtain ⟨b, hb, hbe⟩ := (h e).mp (mem_run.mpr ⟨a', hk.symm ▸ htaken, he⟩)
    rw [hk, hlast] at hb
    rw [← Option.some.inj hb, ha] at hbe
    cases hbe
  · intro h e
    rw [mem_run]
    constructor
    · rintro ⟨a', htaken, he⟩
      obtain ⟨a, hlast⟩ := exists_lastFor_of_lastTaken htaken
      cases ha : F.effect a with
      | none => exact absurd he (h _ a hlast ha a' htaken e)
      | some entry =>
        have heq := lastTaken_of_lastFor hlast ha
        obtain rfl := Option.some.inj (heq.symm.trans htaken)
        exact ⟨a, hlast, he⟩
    · rintro ⟨a, hlast, ha⟩
      exact ⟨a, lastTaken_of_lastFor hlast ha, ha⟩

end Feed

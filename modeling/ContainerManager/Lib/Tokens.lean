import Mathlib.Data.List.Basic
import Mathlib.Data.List.TakeWhile
import Mathlib.Tactic.Common

/-!
# Tokens between delimiters

`next d s` is one call of a destructive tokenizer: the delimiters at the front are skipped, the
token goes up to the next delimiter, and the tokenizer goes on after it. The tokens of a string are
its pieces between delimiters that are not empty.
-/

namespace Tokens

variable {α : Type*} [DecidableEq α] {d : α} {s : List α}

/-- The first token, and what is left after the delimiter that ends it. -/
def next (d : α) (s : List α) : Option (List α × List α) :=
  let s := s.dropWhile fun c => c = d
  if s = [] then none
  else some (s.takeWhile fun c => c ≠ d, (s.dropWhile fun c => c ≠ d).drop 1)

/-- All tokens. -/
def words (d : α) (s : List α) : List (List α) := (s.splitOn d).filter fun w => w ≠ []

lemma mem_words {w : List α} : w ∈ words d s ↔ w ∈ s.splitOn d ∧ w ≠ [] := by
  simp [words]

@[simp] lemma words_nil : words d [] = [] := by simp [words]

@[simp] lemma words_cons_self : words d (d :: s) = words d s := by
  simp [words, List.splitOn_cons_eq_if_modifyHead]

/-- A string without delimiter is a single token. -/
lemma words_of_notMem (hs : s ≠ []) (h : d ∉ s) : words d s = [s] := by
  simp [words, List.splitOn_eq_singleton h, hs]

lemma words_append_cons {w : List α} (hw : w ≠ []) (h : d ∉ w) :
    words d (w ++ d :: s) = w :: words d s := by
  rw [words, List.splitOn_append_cons_self_of_not_mem h, List.filter_cons, if_pos (by simpa)]
  rfl

/-- The tokens before and after a delimiter. -/
lemma words_append {w : List α} (h : d ∉ w) (s : List α) :
    words d (w ++ d :: s) = words d w ++ words d s := by
  by_cases hw : w = []
  · simp [hw]
  · rw [words_append_cons hw h, words_of_notMem hw h]
    rfl

/-- A token has no delimiter. -/
lemma notMem_of_mem_words {w : List α} (h : w ∈ words d s) : d ∉ w := by
  obtain ⟨hw, -⟩ := mem_words.mp h
  induction s generalizing w with
  | nil => simp_all
  | cons c s ih =>
    have hpieces : ∀ w ∈ s.splitOn d, d ∉ w := by
      intro w hw
      by_cases hne : w = []
      · simp [hne]
      · exact ih (mem_words.mpr ⟨hw, hne⟩) hw
    rw [List.splitOn_cons_eq_if_modifyHead] at hw
    split_ifs at hw with hc
    · rcases List.mem_cons.mp hw with rfl | hw
      · simp
      · exact hpieces w hw
    · obtain ⟨p, ps, hps⟩ := List.exists_cons_of_ne_nil (List.splitOn_ne_nil d s)
      rw [hps] at hw hpieces
      rcases List.mem_cons.mp hw with rfl | hw
      · simp only [List.mem_cons, not_or]
        exact ⟨fun e => hc (by simp [e]), hpieces p List.mem_cons_self⟩
      · exact hpieces w (List.mem_cons_of_mem _ hw)

lemma words_dropWhile : words d (s.dropWhile fun c => c = d) = words d s := by
  induction s with
  | nil => rfl
  | cons c s ih =>
    by_cases hc : c = d
    · subst hc
      simpa using ih
    · simp [hc]

/-- A call gives the first of the tokens, and the others are those of what is left. -/
lemma words_eq_next (d : α) (s : List α) :
    words d s = match next d s with
      | none => []
      | some (w, rest) => w :: words d rest := by
  rw [← words_dropWhile]
  simp only [next]
  split_ifs with hs
  · simp [hs]
  · -- what is left starts with a character of the token
    have hfirst : ∀ c ∈ (s.dropWhile fun c => c = d).head?, c ≠ d := by
      intro c hc
      have h := List.head?_dropWhile_not (fun c => decide (c = d)) s
      rw [hc] at h
      simpa using h
    generalize (s.dropWhile fun c => c = d) = t at hs hfirst ⊢
    obtain ⟨c, t, rfl⟩ := List.exists_cons_of_ne_nil hs
    have hc : c ≠ d := hfirst c rfl
    dsimp only
    have htake : d ∉ (c :: t).takeWhile fun c => c ≠ d := by
      intro hm
      simpa using List.mem_takeWhile_imp hm
    have hne : ((c :: t).takeWhile fun c => c ≠ d) ≠ [] := by simp [hc]
    conv_lhs => rw [← List.takeWhile_append_dropWhile (p := fun c => c ≠ d) (l := c :: t)]
    cases hdrop : (c :: t).dropWhile fun c => c ≠ d with
    | nil =>
      rw [List.append_nil, words_of_notMem hne htake]
      simp
    | cons e u =>
      have he : e = d := by
        have h := List.head?_dropWhile_not (fun c => decide (c ≠ d)) (c :: t)
        rw [hdrop] at h
        simpa using h
      subst he
      rw [words_append_cons hne htake]
      simp

/-- There are no more tokens than characters. -/
lemma length_words_le : (words d s).length ≤ s.length := by
  induction s with
  | nil => simp
  | cons c s ih =>
    by_cases hc : c = d
    · subst hc
      rw [words_cons_self, List.length_cons]
      omega
    · -- the character is added to the first piece
      obtain ⟨p, ps, hps⟩ := List.exists_cons_of_ne_nil (List.splitOn_ne_nil d s)
      have hle : (ps.filter fun w => w ≠ []).length ≤ (words d s).length := by
        rw [words, hps]
        exact (List.Sublist.filter _ (List.sublist_cons_self p ps)).length_le
      have e : words d (c :: s) = (c :: p) :: ps.filter fun w => w ≠ [] := by
        simp [words, List.splitOn_cons_eq_if_modifyHead, hc, hps]
      rw [e, List.length_cons, List.length_cons]
      omega

end Tokens

import Mathlib.Data.List.Basic
import Mathlib.Tactic.Common

/-!
# Reading an open file

An open file has a content and an offset. A read returns at most the asked number of bytes from the
offset on, and the offset moves behind them.
-/

/-- A file that is open for reading. -/
structure OpenFile where
  content : List UInt8
  offset : ℕ := 0

namespace OpenFile

/-- `read`: the bytes, and the file afterwards. -/
def read (f : OpenFile) (size : ℕ) : List UInt8 × OpenFile :=
  let data := (f.content.drop f.offset).take size
  (data, { f with offset := f.offset + data.length })

variable {f : OpenFile} {size : ℕ}

lemma read_length : (f.read size).1.length = min size (f.content.length - f.offset) := by
  simp [read]

/-- A read of fewer bytes than asked for came to the end of the file. -/
lemma read_of_short (h : (f.read size).1.length < size) :
    (f.read size).1 = f.content.drop f.offset := by
  rw [read_length] at h
  apply List.take_of_length_le
  rw [List.length_drop]
  omega

/-- A read of all the bytes asked for moves the offset by their number. -/
lemma read_of_full (hpos : 0 < size) (h : ¬ (f.read size).1.length < size) :
    (f.read size).2 = { f with offset := f.offset + size } ∧
      f.offset + size ≤ f.content.length := by
  have hlen : (f.read size).1.length = size := by
    rw [read_length] at h ⊢
    omega
  constructor
  · show { f with offset := f.offset + (f.read size).1.length } = _
    rw [hlen]
  · rw [read_length] at hlen
    omega

end OpenFile

/-! ### Shifted lists -/

/-- A list that is its own end, filled up with a value, is that value throughout. -/
lemma List.eq_replicate_of_drop_append {α : Type*} {l : List α} {a : α} {k : ℕ} (hk : 0 < k)
    (h : l.drop k ++ List.replicate k a = l) : l = List.replicate l.length a := by
  -- from the end of the list to its start, in steps of `k`
  have hall : ∀ m i, i < l.length → l.length ≤ i + m → l[i]? = some a := by
    intro m
    induction m with
    | zero => intro i hi hm; omega
    | succ m ih =>
      intro i hi hm
      have hget : l[i]? = (l.drop k ++ List.replicate k a)[i]? := by rw [h]
      rw [hget]
      rcases Nat.lt_or_ge (k + i) l.length with hlt | hge
      · rw [List.getElem?_append_left (by rw [List.length_drop]; omega), List.getElem?_drop]
        exact ih (k + i) hlt (by omega)
      · rw [List.getElem?_append_right (by rw [List.length_drop]; omega),
          List.getElem?_replicate_of_lt (by rw [List.length_drop]; omega)]
  apply List.eq_replicate_of_mem
  intro b hb
  obtain ⟨i, hi, rfl⟩ := List.getElem_of_mem hb
  have hsome := hall l.length i hi (by omega)
  rwa [List.getElem?_eq_getElem hi, Option.some_inj] at hsome

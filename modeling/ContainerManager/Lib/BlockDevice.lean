import Mathlib.Data.List.Basic
import Mathlib.Tactic.Common

/-!
# Block devices that are written in order

A device of a fixed size with a file position. A write stores some of the bytes that it is given at
the position, or it fails; at the end of the device there is no space left.
-/

/-- A device and the position of the next write. -/
structure BlockDevice where
  data : List UInt8
  offset : ℕ
  offset_le : offset ≤ data.length

namespace BlockDevice

/-- `ENOSPC`. -/
def enospc : ℕ := 28

/-- How a write goes: it stores at most this many bytes, or fails with this error number. -/
inductive Attempt where
  | upTo (bytes : ℕ)
  | fail (errno : ℕ)
deriving DecidableEq, Repr

/-- The result of a write: the number of bytes, or the error number. -/
abbrev Answer := Except ℕ ℕ

/-- The device when it is opened. -/
def opened (data : List UInt8) : BlockDevice := ⟨data, 0, Nat.zero_le _⟩

def size (d : BlockDevice) : ℕ := d.data.length

/-- The bytes that a write stores. -/
def stored (d : BlockDevice) (buf : ℕ → UInt8) (count bytes : ℕ) : List UInt8 :=
  (List.range (min bytes (min count (d.size - d.offset)))).map buf

/-- `write` of the first `count` bytes of a buffer. -/
def write (d : BlockDevice) (buf : ℕ → UInt8) (count : ℕ) : Attempt → BlockDevice × Answer
  | .fail errno => (d, .error errno)
  | .upTo bytes =>
    if d.offset = d.size then (d, .error enospc)
    else
      let new := d.stored buf count bytes
      ({ data := d.data.take d.offset ++ new ++ d.data.drop (d.offset + new.length)
         offset := d.offset + new.length
         offset_le := by
           have := d.offset_le
           simp only [List.length_append, List.length_take]
           omega },
        .ok new.length)

/-- The write stored something. -/
def Wrote (r : Answer) : Prop := ∃ n, r = .ok (n + 1)

instance (r : Answer) : Decidable (Wrote r) :=
  match r with
  | .ok (n + 1) => isTrue ⟨n, rfl⟩
  | .ok 0 => isFalse fun ⟨_, h⟩ => nomatch h
  | .error _ => isFalse fun ⟨_, h⟩ => nomatch h

section Write

variable (d : BlockDevice) (buf : ℕ → UInt8) (count : ℕ) (a : Attempt)

lemma length_stored_le (bytes : ℕ) :
    (d.stored buf count bytes).length ≤ d.size - d.offset := by
  rw [stored, List.length_map, List.length_range]
  exact Nat.le_trans (Nat.min_le_right _ _) (Nat.min_le_right _ _)

@[simp] lemma write_size : (d.write buf count a).1.size = d.size := by
  cases a with
  | fail errno => rfl
  | upTo bytes =>
    rw [write]
    split_ifs with h
    · rfl
    · have hle := d.length_stored_le buf count bytes
      have hoff : d.offset ≤ d.size := d.offset_le
      simp only [size, List.length_append, List.length_take, List.length_drop] at hle hoff ⊢
      omega

/-- A write that stores something moves the position on, within the device. -/
lemma write_offset_lt (h : Wrote (d.write buf count a).2) :
    (d.write buf count a).1.size - (d.write buf count a).1.offset < d.size - d.offset := by
  have hle : (d.write buf count a).1.offset ≤ (d.write buf count a).1.size :=
    (d.write buf count a).1.offset_le
  rw [write_size] at hle ⊢
  cases a with
  | fail errno => exact absurd h (by rintro ⟨n, hn⟩; cases hn)
  | upTo bytes =>
    simp only [write] at h hle ⊢
    split_ifs at h hle ⊢ with he
    · exact absurd h (by rintro ⟨n, hn⟩; cases hn)
    · obtain ⟨n, hn⟩ := h
      have hlen : (d.stored buf count bytes).length = n + 1 := Except.ok.inj hn
      simp only [hlen] at hle ⊢
      omega

end Write

/-! ### Devices that are overwritten with one byte -/

/-- The device holds this byte up to the position, and what it held before behind it. -/
def FilledFrom (data : List UInt8) (b : UInt8) (d : BlockDevice) : Prop :=
  d.data = List.replicate d.offset b ++ data.drop d.offset

lemma filledFrom_opened (data : List UInt8) (b : UInt8) : FilledFrom data b (opened data) := by
  simp [FilledFrom, opened]

lemma FilledFrom.write {data : List UInt8} {b : UInt8} {d : BlockDevice} (h : FilledFrom data b d)
    (count : ℕ) (a : Attempt) : FilledFrom data b (d.write (fun _ => b) count a).1 := by
  cases a with
  | fail errno => exact h
  | upTo bytes =>
    simp only [BlockDevice.write]
    split_ifs with he
    · exact h
    · have hstore : ∀ new : List UInt8, new = List.replicate new.length b →
          d.data.take d.offset ++ new ++ d.data.drop (d.offset + new.length) =
            List.replicate (d.offset + new.length) b ++ data.drop (d.offset + new.length) := by
        intro new hnew
        have htake : d.data.take d.offset = List.replicate d.offset b := by
          rw [h, List.take_left' (by simp)]
        have hdrop : d.data.drop (d.offset + new.length) = data.drop (d.offset + new.length) := by
          rw [h, ← List.drop_drop, List.drop_left' (by simp), List.drop_drop]
        rw [htake, hdrop, hnew, ← List.replicate_add, List.length_replicate]
      apply hstore
      simp [stored, List.map_const']

/-- At the end of the device the byte is everywhere. -/
lemma FilledFrom.all {data : List UInt8} {b : UInt8} {d : BlockDevice} (h : FilledFrom data b d)
    (hend : d.offset = d.size) : d.data = List.replicate d.size b := by
  have hlen := congrArg List.length h
  simp only [List.length_append, List.length_replicate, List.length_drop] at hlen
  have hdrop : data.drop d.offset = [] := by
    apply List.drop_eq_nil_of_le
    have hsize : d.size = d.data.length := rfl
    omega
  rw [h, hdrop, List.append_nil, ← hend]

end BlockDevice

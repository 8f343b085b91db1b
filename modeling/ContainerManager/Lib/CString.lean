import Mathlib.Data.List.TakeWhile
import Mathlib.Tactic.Common
import Mathlib.Algebra.Order.Ring.Int

/-!
# C strings

A string of C is a sequence of bytes without a NUL. A string that may be missing is an `Option`, the
null pointer is `none`. A block of terminated strings is cut at its NULs into the strings it was
made of. Bounded printing writes into a memory that is addressed by the offset from a buffer.
-/

/-! ### Scanning for a value -/

section Scan

variable {α : Type*} [DecidableEq α] {c : α} {w : List α}

lemma List.forall_decide_ne (h : c ∉ w) : ∀ b ∈ w, decide (b ≠ c) = true := fun _ hb =>
  decide_eq_true (ne_of_mem_of_not_mem hb h)

lemma List.takeWhile_ne_of_notMem (h : c ∉ w) : w.takeWhile (· ≠ c) = w :=
  List.takeWhile_eq_self_iff.mpr (List.forall_decide_ne h)

lemma List.takeWhile_ne_append_cons (h : c ∉ w) (l : List α) :
    (w ++ c :: l).takeWhile (· ≠ c) = w := by
  rw [List.takeWhile_append_of_pos (List.forall_decide_ne h)]
  simp

end Scan

/-! ### Strings -/

/-- The bytes of a C string, without the terminating NUL. -/
@[ext] structure CString where
  bytes : List UInt8
  noNul : 0 ∉ bytes
deriving DecidableEq

namespace CString

/-- `strlen`. -/
def length (s : CString) : ℕ := s.bytes.length

/-- What C reads of a text: its UTF-8 bytes up to the first NUL. -/
def ofString (s : String) : CString where
  bytes := s.toUTF8.data.toList.takeWhile (· ≠ 0)
  noNul := by
    intro h
    simpa using List.mem_takeWhile_imp h

instance : Append CString where
  append s t := ⟨s.bytes ++ t.bytes, by simp [s.noNul, t.noNul]⟩

@[simp] lemma bytes_append (s t : CString) : (s ++ t).bytes = s.bytes ++ t.bytes := rfl

protected lemma append_assoc (s t u : CString) : s ++ t ++ u = s ++ (t ++ u) :=
  CString.ext (by simp)

@[simp] lemma length_append (s t : CString) : (s ++ t).length = s.length + t.length := by
  simp [length]

/-- The first `k` bytes. -/
def take (k : ℕ) (s : CString) : CString where
  bytes := s.bytes.take k
  noNul h := s.noNul (List.mem_of_mem_take h)

/-- The bytes after the first `k`. -/
def drop (k : ℕ) (s : CString) : CString where
  bytes := s.bytes.drop k
  noNul h := s.noNul (List.mem_of_mem_drop h)

/-! ### Comparison -/

/-- `strncmp(s, t, k) == 0`. -/
def StrncmpEq (s t : CString) (k : ℕ) : Prop := s.bytes.take k = t.bytes.take k

instance (s t : CString) (k : ℕ) : Decidable (StrncmpEq s t k) :=
  inferInstanceAs (Decidable (_ = _))

/-- The string is a prefix of the other one. -/
def IsPrefix (s t : CString) : Prop := s.bytes <+: t.bytes

instance (s t : CString) : Decidable (IsPrefix s t) := inferInstanceAs (Decidable (_ <+: _))

/-- `strstr(s, t) != NULL`. -/
def Contains (s t : CString) : Prop := t.bytes <:+: s.bytes

instance (s t : CString) : Decidable (Contains s t) := inferInstanceAs (Decidable (_ <:+: _))

lemma IsPrefix.refl (s : CString) : s.IsPrefix s := List.prefix_refl _

/-- Comparing as many bytes as the first string has tests whether it is a prefix of the second. -/
lemma strncmpEq_length_left {s t : CString} : StrncmpEq s t s.length ↔ s.IsPrefix t := by
  rw [StrncmpEq, length, List.take_length, IsPrefix, List.prefix_iff_eq_take]

/-- Comparing as many bytes as the second string has tests whether it is a prefix of the first. -/
lemma strncmpEq_length_right {s t : CString} : StrncmpEq s t t.length ↔ t.IsPrefix s := by
  rw [← strncmpEq_length_left, StrncmpEq, StrncmpEq, eq_comm]

/-! ### Numbers -/

/-- `isspace`, in the C locale. -/
def isSpace (b : UInt8) : Bool := b = 32 ∨ 9 ≤ b ∧ b ≤ 13

def isDigit (b : UInt8) : Bool := 48 ≤ b ∧ b ≤ 57

/-- The number that is read with base 10. There is none when no digit is read. -/
def number (s : CString) : Option ℤ :=
  let rest := s.bytes.dropWhile isSpace
  let negative := rest.head? = some 45
  let rest := if negative ∨ rest.head? = some 43 then rest.tail else rest
  match rest.takeWhile isDigit with
  | [] => none
  | digits =>
    let value : ℤ := digits.foldl (fun acc b => acc * 10 + (b.toNat - 48)) 0
    some (if negative then -value else value)

/-- `strtol` with base 10: the number, clamped to a `long`. Without one the end pointer is left at
the start. -/
def strtol (s : CString) : Option ℤ := s.number.map fun k => max (-2 ^ 63) (min (2 ^ 63 - 1) k)

/-! ### Strings in memory -/

/-- The string that starts at the first of these bytes, up to the first NUL. -/
def ofBytes (bytes : List UInt8) : CString where
  bytes := bytes.takeWhile (· ≠ 0)
  noNul h := by simpa using List.mem_takeWhile_imp h

lemma ofBytes_of_notMem {w : List UInt8} (h : 0 ∉ w) : (ofBytes w).bytes = w :=
  List.takeWhile_ne_of_notMem h

lemma ofBytes_terminated {w : List UInt8} (h : 0 ∉ w) (l : List UInt8) :
    ofBytes (w ++ 0 :: l) = ofBytes w := by
  apply CString.ext
  rw [ofBytes_of_notMem h]
  exact List.takeWhile_ne_append_cons h l

/-- What stands behind a NUL is not read. -/
lemma ofBytes_append {l : List UInt8} (h : 0 ∈ l) (m : List UInt8) :
    ofBytes (l ++ m) = ofBytes l := by
  obtain ⟨a, b, rfl, ha⟩ := List.eq_append_cons_of_mem h
  rw [List.append_assoc, List.cons_append, ofBytes_terminated ha, ofBytes_terminated ha]

/-! ### Blocks of terminated strings -/

/-- The strings one after the other, each with its NUL. -/
def block (l : List CString) : List UInt8 := l.flatMap fun s => s.bytes ++ [0]

@[simp] lemma block_nil : block [] = [] := rfl

@[simp] lemma block_cons (s : CString) (l : List CString) :
    block (s :: l) = s.bytes ++ 0 :: block l := by
  simp [block]

lemma block_append (l m : List CString) : block (l ++ m) = block l ++ block m := by
  simp [block]

/-- Cut the bytes at the NULs; bytes after the last NUL are a piece as well. -/
def cut : List UInt8 → List (List UInt8)
  | [] => []
  | b :: bs =>
    if b = 0 then [] :: cut bs
    else
      match cut bs with
      | [] => [[b]]
      | piece :: pieces => (b :: piece) :: pieces

lemma cut_append {s : List UInt8} (hs : 0 ∉ s) (bs : List UInt8) :
    cut (s ++ 0 :: bs) = s :: cut bs := by
  induction s with
  | nil => simp [cut]
  | cons b s ih =>
    obtain ⟨hb, hs⟩ : 0 ≠ b ∧ 0 ∉ s := by simpa using hs
    simp [cut, ih hs, Ne.symm hb]

/-- Cutting a block gives the strings it was made of. -/
lemma cut_block (l : List CString) : cut (block l) = l.map CString.bytes := by
  induction l with
  | nil => rfl
  | cons s l ih => rw [block_cons, cut_append s.noNul, ih, List.map_cons]

/-! ### Bounded printing -/

/-- Write the bytes from an offset on. -/
def store (mem : ℕ → UInt8) (offset : ℕ) (bytes : List UInt8) : ℕ → UInt8 := fun a =>
  if offset ≤ a then bytes[a - offset]?.getD (mem a) else mem a

/-- The bytes of the memory below an offset. -/
def load (mem : ℕ → UInt8) (used : ℕ) : List UInt8 := (List.range used).map mem

lemma store_of_le {mem : ℕ → UInt8} {offset : ℕ} {bytes : List UInt8} {a : ℕ}
    (h : offset + bytes.length ≤ a) : store mem offset bytes a = mem a := by
  have hnone : bytes[a - offset]? = none := List.getElem?_eq_none (by omega)
  simp [store, hnone]

lemma load_store (mem : ℕ → UInt8) (offset : ℕ) (bytes : List UInt8) :
    load (store mem offset bytes) (offset + bytes.length) = load mem offset ++ bytes := by
  apply List.ext_getElem
  · simp [load]
  · intro i hi hi'
    simp only [load, List.length_map, List.length_range] at hi
    by_cases hlt : i < offset
    · rw [List.getElem_append_left (by simpa [load] using hlt)]
      simp [load, store, Nat.not_le.mpr hlt]
    · rw [List.getElem_append_right (by simpa [load] using hlt)]
      have hin : i - offset < bytes.length := by omega
      simp [load, store, Nat.not_lt.mp hlt, hin]

/-- `snprintf` of a text that is already put together: the memory, and the return value. The size is
taken as a `size_t`, so a negative one is huge. -/
def snprintf (mem : ℕ → UInt8) (offset : ℕ) (size : ℤ) (text : CString) : (ℕ → UInt8) × ℤ :=
  let bound := (size % 2 ^ 64).toNat
  let written := if bound = 0 then [] else text.bytes.take (bound - 1) ++ [0]
  (store mem offset written, if 2 ^ 31 ≤ text.length then -1 else text.length)

/-! ### Texts in fields -/

lemma utf8ByteSize_cons (c : Char) (l : List Char) :
    (String.ofList (c :: l)).utf8ByteSize = c.utf8Size + (String.ofList l).utf8ByteSize := by
  rw [← List.singleton_append, String.ofList_append, String.utf8ByteSize_append,
    ← String.utf8ByteSize_singleton]
  rfl

/-- The characters that fit into this many bytes. -/
def clipChars : ℕ → List Char → List Char
  | _, [] => []
  | bytes, c :: l => if c.utf8Size ≤ bytes then c :: clipChars (bytes - c.utf8Size) l else []

/-- What is left of a text in a field of this many bytes. A character that does not fit is left out
as a whole. -/
def clip (bytes : ℕ) (s : String) : String := String.ofList (clipChars bytes s.toList)

/-- The prefixes that fit stay. -/
lemma prefix_clipChars_iff {p l : List Char} {bytes : ℕ} :
    p <+: clipChars bytes l ↔ p <+: l ∧ (String.ofList p).utf8ByteSize ≤ bytes := by
  induction l generalizing p bytes with
  | nil =>
    rw [clipChars, List.prefix_nil]
    exact ⟨fun h => ⟨h, by simp [h]⟩, And.left⟩
  | cons d l ih =>
    cases p with
    | nil => simp
    | cons c p =>
      rw [clipChars, utf8ByteSize_cons]
      split_ifs with hfits
      · rw [List.cons_prefix_cons, List.cons_prefix_cons, ih, and_assoc]
        apply and_congr_right
        rintro rfl
        rw [Nat.le_sub_iff_add_le' hfits]
      · rw [List.prefix_nil, List.cons_prefix_cons]
        constructor
        · simp
        · rintro ⟨⟨rfl, -⟩, h⟩
          exact absurd ((Nat.le_add_right _ _).trans h) hfits

lemma clip_of_le {bytes : ℕ} {s : String} (h : s.utf8ByteSize ≤ bytes) : clip bytes s = s := by
  have hall : s.toList <+: clipChars bytes s.toList :=
    prefix_clipChars_iff.mpr ⟨List.prefix_rfl, by simpa using h⟩
  have hsome : clipChars bytes s.toList <+: s.toList :=
    (prefix_clipChars_iff.mp List.prefix_rfl).1
  rw [clip, hsome.eq_of_length_le hall.length_le, String.ofList_toList]

lemma utf8ByteSize_clip (bytes : ℕ) (s : String) : (clip bytes s).utf8ByteSize ≤ bytes :=
  (prefix_clipChars_iff.mp List.prefix_rfl).2

end CString

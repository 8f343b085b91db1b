import Mathlib.Data.Nat.Digits.Lemmas
import ContainerManager.Lib.CString

/-!
# Printing into a buffer

A `char buf[n]` that lines are printed into: a first text with `snprintf`, and then more texts, each
copied behind the last one with `strncpy`. The memory is addressed from the start of the buffer, and
a call may write anywhere. A buffer remembers what was to be printed and the calls that printed it;
the line it holds is complete when it reads as what was to be printed.
-/

namespace CString

/-! ### Numbers in decimal -/

def empty : CString := ⟨[], by simp⟩

/-- A decimal digit. -/
def decimalDigit (d : ℕ) : UInt8 := (48 + d).toUInt8

lemma decimalDigit_ne_zero : ∀ d < 10, decimalDigit d ≠ 0 := by decide

/-- A natural number in decimal. -/
def ofNat (k : ℕ) : CString where
  bytes := if k = 0 then [48] else (Nat.digits 10 k).reverse.map decimalDigit
  noNul h := by
    split_ifs at h
    · simp at h
    · obtain ⟨d, hd, e⟩ := List.mem_map.mp h
      exact decimalDigit_ne_zero d (Nat.digits_lt_base (by omega) (List.mem_reverse.mp hd)) e

/-- An integer in decimal. -/
def decimal (k : ℤ) : CString :=
  if k < 0 then ofString "-" ++ ofNat k.natAbs else ofNat k.natAbs

/-- `%d` of an `int`. -/
def ofInt (k : ℤ) : CString := decimal (k.bmod (2 ^ 32))

lemma ofNat_length_le {k : ℕ} (h : k < 10 ^ 10) : (ofNat k).length ≤ 10 := by
  simp only [ofNat, length]
  split_ifs
  · simp
  · simpa using (Nat.digits_length_le_iff (by omega) k).mpr h

lemma ofInt_length_le (k : ℤ) : (ofInt k).length ≤ 11 := by
  have hlt : (k.bmod (2 ^ 32)).natAbs < 10 ^ 10 := by
    have hle := Int.bmod_le (x := k) (m := 2 ^ 32) (by omega)
    have hge := Int.le_bmod (x := k) (m := 2 ^ 32) (by omega)
    omega
  have h := ofNat_length_le hlt
  have hminus : (ofString "-").length = 1 := by decide
  simp only [ofInt, decimal]
  split_ifs
  · rw [length_append]
    omega
  · omega

/-- In the bounds of an `int` all of the number is printed. -/
lemma ofInt_eq_decimal {k : ℤ} (hle : -2147483648 ≤ k) (hge : k ≤ 2147483647) :
    ofInt k = decimal k := by
  rw [ofInt, Int.bmod_eq_of_le (by omega) (by omega)]

end CString

/-! ### Buffers -/

/-- A call of a printing function: where it writes, from the start of the buffer, and the size it is
given. -/
structure Access where
  offset : ℤ
  size : ℤ
deriving DecidableEq

/-- The call stays inside a buffer of this size, and its size is not negative. -/
def Access.InBounds (n : ℕ) (a : Access) : Prop := 0 ≤ a.offset ∧ 0 ≤ a.size ∧ a.offset + a.size ≤ n

instance (n : ℕ) (a : Access) : Decidable (a.InBounds n) := inferInstanceAs (Decidable (_ ∧ _))

/-- A buffer of `n` bytes. -/
structure Buffer (n : ℕ) where
  mem : ℤ → UInt8
  /-- history: what was to be printed since the last `snprintf`. -/
  rendered : CString := .empty
  /-- history: the calls since the last `snprintf`, oldest first. -/
  accesses : List Access := []

/-- What is read from a memory that holds a terminated string. -/
lemma CString.takeWhile_load (s : CString) {n : ℕ} (hn : s.length < n) {mem : ℕ → UInt8}
    (hs : ∀ k (hk : k < s.bytes.length), mem k = s.bytes[k]) (hnul : mem s.length = 0) :
    ((List.range n).map mem).takeWhile (· ≠ 0) = s.bytes := by
  obtain ⟨k, rfl⟩ := Nat.exists_eq_add_of_lt hn
  have hload : (List.range s.length).map mem = s.bytes :=
    List.ext_getElem (by simp [length]) fun i _ hi => by simpa using hs i hi
  rw [Nat.add_assoc, List.range_add, List.map_append, hload, List.range_succ_eq_map, List.map_cons,
    List.map_cons, Nat.add_zero, hnul]
  exact List.takeWhile_ne_append_cons s.noNul _

namespace Buffer

variable {n : ℕ}

/-- A buffer of zeros. -/
def zero : Buffer n := { mem := fun _ => 0 }

/-- `snprintf` to the start of the buffer. A size is taken as a `size_t`, so a negative one is
huge. The return value of a text that is longer than an `int` can say is -1. -/
def snprintf (b : Buffer n) (size : ℤ) (text : CString) : Buffer n × ℤ :=
  let bound := (size % 2 ^ 64).toNat
  let bytes := if bound = 0 then [] else text.bytes.take (bound - 1) ++ [0]
  ({ mem := fun a => if 0 ≤ a then bytes[a.toNat]?.getD (b.mem a) else b.mem a
     rendered := text
     accesses := [⟨0, size⟩] }, if 2 ^ 31 ≤ text.length then -1 else text.length)

/-- `strncpy` to an offset of the buffer: the bytes of the text, and zeros up to the size. -/
def strncpy (b : Buffer n) (offset : ℤ) (text : CString) (size : ℤ) : Buffer n :=
  { mem := fun a =>
      if offset ≤ a ∧ a < offset + size % 2 ^ 64 then text.bytes[(a - offset).toNat]?.getD 0
      else b.mem a
    rendered := b.rendered ++ text
    accesses := b.accesses ++ [⟨offset, size⟩] }

/-- A byte is stored at an offset of the buffer. -/
def put (b : Buffer n) (offset : ℤ) (byte : UInt8) : Buffer n :=
  { b with
    mem := fun a => if a = offset then byte else b.mem a
    accesses := b.accesses ++ [⟨offset, 1⟩] }

/-- The string in the buffer: the bytes up to the first NUL. -/
def text (b : Buffer n) : CString where
  bytes := ((List.range n).map fun k : ℕ => b.mem k).takeWhile (· ≠ 0)
  noNul h := by simpa using List.mem_takeWhile_imp h

/-- The buffer begins with these bytes. -/
def BeginsWith (b : Buffer n) (pre : CString) : Prop :=
  ∀ k (hk : k < pre.bytes.length), b.mem k = pre.bytes[k]

/-- The last byte of the buffer is a NUL. -/
def Sealed (b : Buffer n) : Prop := b.mem (n - 1) = 0

lemma zero_sealed : (zero : Buffer n).Sealed := rfl

lemma Sealed.length_text_lt {b : Buffer n} (h : b.Sealed) (hn : 0 < n) : b.text.length < n := by
  by_contra hlen
  -- the whole buffer was taken, so its last byte is not a NUL
  have hall : ((List.range n).map fun k : ℕ => b.mem k).takeWhile (· ≠ 0) =
      (List.range n).map fun k : ℕ => b.mem k := by
    apply (List.takeWhile_prefix _).eq_of_length_le
    rw [List.length_map, List.length_range]
    exact not_lt.mp hlen
  have hmem : b.mem (n - 1) ∈ (List.range n).map fun k : ℕ => b.mem k :=
    List.mem_map.mpr ⟨n - 1, by simpa using hn, by congr 1; omega⟩
  rw [← hall] at hmem
  have hlast := List.mem_takeWhile_imp hmem
  simp only [Sealed] at h
  simp [h] at hlast

lemma Sealed.snprintf {b : Buffer n} (h : b.Sealed) {size : ℤ} (h0 : 0 < size) (hn : size ≤ n)
    (hb : (n : ℤ) < 2 ^ 64) (text : CString) : (b.snprintf size text).1.Sealed := by
  have hbound : size % 2 ^ 64 = size := Int.emod_eq_of_lt (by omega) (by omega)
  simp only [Sealed, Buffer.snprintf, hbound]
  rw [if_pos (by omega), if_neg (by omega)]
  rcases lt_or_ge ((n : ℤ) - 1).toNat (text.bytes.take (size.toNat - 1)).length with hlt | hge
  · simp only [List.length_take] at hlt
    omega
  · rw [List.getElem?_append_right hge]
    cases hk : ((n : ℤ) - 1).toNat - (text.bytes.take (size.toNat - 1)).length with
    | zero => simp
    | succ k => exact h

lemma Sealed.strncpy {b : Buffer n} (h : b.Sealed) (offset : ℤ) (text : CString) :
    (b.strncpy offset text (n - offset - 1)).Sealed := by
  simp only [Sealed, Buffer.strncpy]
  rw [if_neg (by omega)]
  exact h

/-- A buffer begins with the string in it. -/
lemma beginsWith_text (b : Buffer n) : b.BeginsWith b.text := by
  intro k hk
  have hstart : b.text.bytes <+: (List.range n).map fun k : ℕ => b.mem k :=
    List.takeWhile_prefix _
  rw [hstart.getElem hk, List.getElem_map, List.getElem_range]

lemma BeginsWith.put {b : Buffer n} {pre : CString} (h : b.BeginsWith pre) {offset : ℤ}
    (hoff : pre.length ≤ offset) (byte : UInt8) : (b.put offset byte).BeginsWith pre := by
  intro k hk
  have hlt : (k : ℤ) < pre.length := by exact_mod_cast hk
  simp only [Buffer.put]
  rw [if_neg (by omega)]
  exact h k hk

lemma BeginsWith.strncpy {b : Buffer n} {pre : CString} (h : b.BeginsWith pre) (text : CString)
    (size : ℤ) : (b.strncpy pre.length text size).BeginsWith pre := by
  intro k hk
  have hlt : (k : ℤ) < pre.length := by exact_mod_cast hk
  simp only [Buffer.strncpy]
  rw [if_neg (by omega)]
  exact h k hk

/-- A byte is stored behind the bytes a buffer begins with. -/
lemma BeginsWith.put_append {b : Buffer n} {pre t : CString} (h : b.BeginsWith pre) {byte : UInt8}
    (ht : t.bytes = [byte]) : (b.put pre.length byte).BeginsWith (pre ++ t) := by
  intro k hk
  simp only [CString.bytes_append, ht, List.length_append, List.length_singleton] at hk ⊢
  rcases Nat.lt_or_ge k pre.bytes.length with hlt | hge
  · rw [List.getElem_append_left hlt]
    exact h.put le_rfl byte k hlt
  · obtain rfl : k = pre.length := Nat.le_antisymm (Nat.le_of_lt_succ hk) hge
    simp [Buffer.put, CString.length]

lemma BeginsWith.mem_last {b : Buffer n} {pre : CString} (h : b.BeginsWith pre)
    (hpos : 0 < pre.length) {byte : UInt8} :
    b.mem (pre.length - 1) = byte ↔ pre.bytes.getLast? = some byte := by
  have hlt : pre.bytes.length - 1 < pre.bytes.length := Nat.sub_lt hpos (by omega)
  have hcast : (pre.length : ℤ) - 1 = (pre.bytes.length - 1 : ℕ) := by
    simp only [CString.length] at hpos ⊢
    omega
  rw [hcast, h _ hlt, List.getLast?_eq_getElem?, List.getElem?_eq_getElem hlt, Option.some_inj]

/-- Behind the bytes a buffer begins with, a text is copied up to the last byte; what of it has no
room is cut off. -/
lemma BeginsWith.text_strncpy {b : Buffer n} {pre : CString} (h : b.BeginsWith pre)
    (hs : b.Sealed) (hn : pre.length < n) (hb : n ≤ 2 ^ 31) (text : CString) :
    (b.strncpy pre.length text (n - pre.length - 1)).text =
      pre ++ text.take (n - pre.length - 1) := by
  have hsize : (pre.length : ℤ) + ((n : ℤ) - pre.length - 1) % 2 ^ 64 = n - 1 := by omega
  have hpre : pre.length = pre.bytes.length := rfl
  have hmem : ∀ a : ℤ, (b.strncpy pre.length text (n - pre.length - 1)).mem a =
      if pre.length ≤ a ∧ a < n - 1 then text.bytes[(a - pre.length).toNat]?.getD 0
      else b.mem a := by
    intro a
    simp only [Buffer.strncpy, hsize]
  have hcut : (text.take (n - pre.length - 1)).length = min (n - pre.length - 1) text.length := by
    simp [CString.take, CString.length]
  apply CString.ext
  apply CString.takeWhile_load
  · rw [CString.length_append, hcut]
    omega
  · intro k hk
    have hk' : k < (pre.bytes ++ text.bytes.take (n - pre.length - 1)).length := hk
    show _ = (pre.bytes ++ text.bytes.take (n - pre.length - 1))[k]
    rw [hmem]
    rcases lt_or_ge k pre.bytes.length with hlt | hge
    · rw [if_neg (by omega), List.getElem_append_left hlt]
      exact h k hlt
    · have hin : k - pre.bytes.length < (text.bytes.take (n - pre.length - 1)).length := by
        rw [List.length_append] at hk'
        omega
      have hin' := hin
      rw [List.length_take] at hin'
      have hoff : ((k : ℤ) - pre.length).toNat = k - pre.bytes.length := by omega
      rw [if_pos (by omega), List.getElem_append_right hge, hoff, List.getElem_take,
        List.getElem?_eq_getElem (by omega), Option.getD_some]
  · rw [hmem, CString.length_append, hcut]
    have htext : text.length = text.bytes.length := rfl
    split_ifs with hroom
    · -- behind the text `strncpy` fills up with zeros
      rw [List.getElem?_eq_none (by omega), Option.getD_none]
    · -- the text ends at the last byte, or is cut off there
      have hlast : ((pre.length + min (n - pre.length - 1) text.length : ℕ) : ℤ) = n - 1 := by
        omega
      rw [hlast]
      exact hs

end Buffer

/-! ### Lines -/

/-- A line that is being printed: the buffer, and the length so far. -/
structure Line (n : ℕ) where
  buf : Buffer n
  slen : ℤ

namespace Line

variable {n : ℕ}

/-- Start a line: `slen = snprintf(buf, size, ..)`. -/
def print (b : Buffer n) (size : ℤ) (text : CString) : Line n :=
  let r := b.snprintf size text
  ⟨r.1, r.2⟩

/-- Add to a line: the text is copied behind it, with the size that remains. -/
def append (p : Line n) (text : CString) : Line n where
  buf := p.buf.strncpy p.slen text (n - p.slen - 1)
  slen := p.slen + text.length

/-- Add several texts. -/
def appendAll (p : Line n) (texts : List CString) : Line n := texts.foldl append p

/-- The buffer reads as what was to be printed, and every call stayed inside it. -/
structure Complete (p : Line n) : Prop where
  text : p.buf.text = p.buf.rendered
  inBounds : ∀ a ∈ p.buf.accesses, a.InBounds n

/-- The buffer holds what was to be printed, terminated, and the length so far is its length. -/
structure Holds (p : Line n) : Prop where
  slen : p.slen = p.buf.rendered.length
  fits : p.buf.rendered.length < n
  bytes : ∀ k (hk : k < p.buf.rendered.bytes.length), p.buf.mem k = p.buf.rendered.bytes[k]
  nul : p.buf.mem p.buf.rendered.length = 0
  inBounds : ∀ a ∈ p.buf.accesses, a.InBounds n

lemma Holds.complete {p : Line n} (h : p.Holds) : p.Complete := by
  refine ⟨CString.ext ?_, h.inBounds⟩
  exact p.buf.rendered.takeWhile_load h.fits h.bytes h.nul

/-- A line that is complete leaves room for its NUL. -/
lemma Complete.fits {p : Line n} (h : p.Complete) (hs : p.buf.Sealed) (hn : 0 < n) :
    p.buf.rendered.length < n :=
  h.text ▸ hs.length_text_lt hn

lemma print_holds {b : Buffer n} {size : ℤ} (hn : size ≤ n) (hb : n ≤ 2 ^ 31) {text : CString}
    (h : text.length < size) : (print b size text).Holds := by
  have hbound : size % 2 ^ 64 = size := Int.emod_eq_of_lt (by omega) (by omega)
  have htake : text.bytes.take (size.toNat - 1) = text.bytes :=
    List.take_of_length_le (by simp only [CString.length] at h; omega)
  have hmem : ∀ a : ℤ, 0 ≤ a → (print b size text).buf.mem a =
      (text.bytes ++ [0])[a.toNat]?.getD (b.mem a) := by
    intro a ha
    simp only [print, Buffer.snprintf, hbound]
    rw [if_pos ha, if_neg (by omega), htake]
  constructor
  · simp only [print, Buffer.snprintf]
    rw [if_neg (by omega)]
  · simp only [print, Buffer.snprintf]
    omega
  · intro k hk
    rw [hmem k (by omega)]
    simp only [print, Buffer.snprintf] at hk ⊢
    simp [List.getElem?_append_left hk, List.getElem?_eq_getElem hk]
  · rw [hmem _ (by omega)]
    simp [print, Buffer.snprintf, CString.length]
  · simp only [print, Buffer.snprintf, List.mem_singleton, forall_eq]
    refine ⟨le_rfl, ?_, ?_⟩ <;> dsimp only <;> omega

lemma append_holds {p : Line n} (h : p.Holds) (hs : p.buf.Sealed) (hb : n ≤ 2 ^ 31) {text : CString}
    (hfits : p.buf.rendered.length + text.length < n) : (p.append text).Holds := by
  have hslen := h.slen
  have hlen : p.buf.rendered.length = p.buf.rendered.bytes.length := rfl
  have hmem : ∀ a : ℤ, (p.append text).buf.mem a =
      if p.slen ≤ a ∧ a < n - 1 then text.bytes[(a - p.slen).toNat]?.getD 0 else p.buf.mem a := by
    intro a
    have hsize : p.slen + ((n : ℤ) - p.slen - 1) % 2 ^ 64 = n - 1 := by omega
    simp only [append, Buffer.strncpy, hsize]
  constructor
  · simp [append, Buffer.strncpy, hslen]
  · simpa [append, Buffer.strncpy] using hfits
  · intro k hk
    have hk' : k < (p.buf.rendered.bytes ++ text.bytes).length := hk
    show _ = (p.buf.rendered.bytes ++ text.bytes)[k]
    rw [hmem]
    rcases lt_or_ge k p.buf.rendered.bytes.length with hlt | hge
    · rw [if_neg (by omega), List.getElem_append_left hlt]
      exact h.bytes k hlt
    · have hin : k - p.buf.rendered.bytes.length < text.bytes.length := by
        rw [List.length_append] at hk'
        omega
      have hoff : ((k : ℤ) - p.slen).toNat = k - p.buf.rendered.bytes.length := by omega
      have htext : text.length = text.bytes.length := rfl
      rw [if_pos (by omega), List.getElem_append_right hge, hoff,
        List.getElem?_eq_getElem hin, Option.getD_some]
  · have hend : ((p.append text).buf.rendered.length : ℤ) = p.slen + text.length := by
      simp [append, Buffer.strncpy, hslen]
    rw [hmem, hend]
    split_ifs with hin
    · -- behind the text `strncpy` fills up with zeros
      have hnone : text.bytes[(p.slen + text.length - p.slen).toNat]? = none :=
        List.getElem?_eq_none (by simp [CString.length])
      rw [hnone, Option.getD_none]
    · -- the text ends at the last byte
      have hlast : p.slen + text.length = (n : ℤ) - 1 := by omega
      rw [hlast]
      exact hs
  · intro a ha
    simp only [append, Buffer.strncpy, List.mem_append, List.mem_singleton] at ha
    rcases ha with ha | rfl
    · exact h.inBounds a ha
    · refine ⟨?_, ?_, ?_⟩ <;> dsimp only <;> omega

/-! ### Whole lines -/

lemma append_rendered (p : Line n) (text : CString) :
    (p.append text).buf.rendered = p.buf.rendered ++ text := rfl

lemma appendAll_sealed {p : Line n} (h : p.buf.Sealed) (texts : List CString) :
    (p.appendAll texts).buf.Sealed := by
  induction texts generalizing p with
  | nil => exact h
  | cons text texts ih => exact ih (h.strncpy _ _)

lemma appendAll_rendered (p : Line n) (texts : List CString) :
    (p.appendAll texts).buf.rendered = texts.foldl (· ++ ·) p.buf.rendered := by
  induction texts generalizing p with
  | nil => rfl
  | cons text texts ih => exact ih (p.append text)

lemma appendAll_rendered_length (p : Line n) (texts : List CString) :
    (p.appendAll texts).buf.rendered.length =
      p.buf.rendered.length + (texts.map CString.length).sum := by
  induction texts generalizing p with
  | nil => rfl
  | cons text texts ih =>
    have h := ih (p.append text)
    simp only [append_rendered, CString.length_append] at h
    simp only [appendAll, List.foldl_cons, List.map_cons, List.sum_cons] at h ⊢
    omega

lemma appendAll_holds {p : Line n} (h : p.Holds) (hs : p.buf.Sealed) (hb : n ≤ 2 ^ 31)
    {texts : List CString}
    (hfits : p.buf.rendered.length + (texts.map CString.length).sum < n) :
    (p.appendAll texts).Holds := by
  induction texts generalizing p with
  | nil => exact h
  | cons text texts ih =>
    rw [List.map_cons, List.sum_cons] at hfits
    apply ih (append_holds h hs hb (by omega)) (hs.strncpy _ _)
    rw [append_rendered, CString.length_append]
    omega

/-- A line whose first text was not cut is complete exactly when the whole of it fits. -/
lemma appendAll_complete_iff {b : Buffer n} (hs : b.Sealed) {size : ℤ} (h0 : 0 < size)
    (hn : size ≤ n) (hb : n ≤ 2 ^ 31) {text : CString} (h : text.length < size)
    (texts : List CString) :
    ((print b size text).appendAll texts).Complete ↔
      text.length + (texts.map CString.length).sum < n := by
  have hseal : (print b size text).buf.Sealed := hs.snprintf h0 hn (by omega) text
  constructor
  · intro hc
    have hfits := hc.fits (appendAll_sealed hseal texts) (by omega)
    rwa [appendAll_rendered_length] at hfits
  · intro hfits
    exact (appendAll_holds (print_holds hn hb h) hseal hb hfits).complete

end Line

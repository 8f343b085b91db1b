import ContainerManager.ProcUtil
import ContainerManager.Lib.Tokens
import Mathlib.Data.List.Forall2

/-!
# The arguments of the kernel command line

The command line is a line of tokens between spaces. A token is an argument: its variable is what
stands before the first `=`, and its value is all that stands behind it. The loop over a token goes
on after the first `=`, so that it cuts at every one of them, and the value is what stands behind
the last. With at most one `=` in every token the list is the arguments of the line.
-/

namespace ContainerManager

/-! ### Arguments -/

/-- The text up to the first newline or NUL. -/
def cmdlineLine (text : List UInt8) : List UInt8 := text.takeWhile fun b => b ≠ 10 ∧ b ≠ 0

def cmdlineTokens (text : List UInt8) : List (List UInt8) := Tokens.words 32 (cmdlineLine text)

structure Argument where
  var : CString
  value : Option CString
deriving DecidableEq

/-- All that stands behind the first `=`. -/
def behindEq (token : List UInt8) : List UInt8 := (token.dropWhile (· ≠ 61)).tail

def argumentOf (token : List UInt8) : Argument where
  var := .ofBytes (token.takeWhile (· ≠ 61))
  value := if behindEq token = [] then none else some (.ofBytes (behindEq token))

/-- The arguments of the command line. -/
def cmdlineArguments (text : List UInt8) : List Argument := (cmdlineTokens text).map argumentOf

/-- The value of the first argument with this variable that has one. -/
def firstValue (arguments : List Argument) (key : CString) : Option CString :=
  arguments.findSome? fun a => if a.var = key then a.value else none

lemma firstValue_cons (a : Argument) (l : List Argument) (key : CString) :
    firstValue (a :: l) key = (if a.var = key then a.value else none).or (firstValue l key) := by
  rw [firstValue, List.findSome?_cons]
  cases (if a.var = key then a.value else none) <;> rfl

/-- A value is read as a decimal number of 64 bits. -/
def parsedInt64 (value : CString) : ℤ × Option ℤ :=
  match value.number with
  | none => (-1, none)
  | some k => if -2 ^ 63 ≤ k ∧ k ≤ 2 ^ 63 - 1 then (0, some k) else (-1, none)

/-- What a query for the key answers. -/
def valueInt64Of (arguments : List Argument) (key : CString) : ℤ × Option ℤ :=
  match firstValue arguments key with
  | none => (-3, none)
  | some value => parsedInt64 value

/-- The strings of an element of the buffer. -/
def argumentAt (buf : List UInt8) (e : CmdlineElem) : Argument where
  var := .ofBytes (buf.drop e.var)
  value := e.value.map fun v => .ofBytes (buf.drop v)

@[simp] lemma argumentAt_var (pu : Procutil) (e : CmdlineElem) :
    (argumentAt pu.orgBuf e).var = pu.string e.var := rfl

/-- The strings of the list. -/
def Procutil.arguments (pu : Procutil) : List Argument :=
  pu.argumentList.map (argumentAt pu.orgBuf)

/-- A query converts the value of the first element with the key that has one. -/
lemma procutilGetCmdlineValueInt64_eq (errno : ℕ) (pu : Procutil) (key : CString) :
    procutilGetCmdlineValueInt64 errno pu key =
      match firstValue pu.arguments key with
      | none => (-3, none)
      | some value => convertInt64 errno value := by
  suffices hloop : ∀ l, valueInt64Loop errno pu key l =
      match firstValue (l.map (argumentAt pu.orgBuf)) key with
      | none => (-3, none)
      | some value => convertInt64 errno value from hloop pu.argumentList
  intro l
  induction l with
  | nil => rfl
  | cons e l ih =>
    rw [valueInt64Loop, ih, List.map_cons, firstValue_cons, argumentAt_var]
    by_cases hkey : pu.string e.var = key
    · rw [if_pos hkey, if_pos hkey]
      cases hv : e.value with
      | none => simp [argumentAt, hv]
      | some value => simp [argumentAt, hv, Procutil.string]
    · rw [if_neg hkey, if_neg hkey, Option.none_or]

/-! ### Cutting a token -/

/-- What is left of a byte of a token. -/
def cutByte (b : UInt8) : UInt8 := if b = 61 then 0 else b

/-- Where the value of the rest of a token begins, when the rest begins at this offset. -/
def cutValue : ℕ → List UInt8 → Option ℕ → Option ℕ
  | _, [], v => v
  | offset, b :: w, v => cutValue (offset + 1) w (if b = 61 ∧ w ≠ [] then some (offset + 1) else v)

lemma foldl_cutPass {last len i : ℕ} {pre w : List UInt8} (tail : List UInt8) (v : Option ℕ)
    (hpre : pre.length = last + i) (hlen : i + w.length = len) :
    (List.range' i w.length).foldl (cutPass last len) (pre ++ w ++ tail, v) =
      (pre ++ w.map cutByte ++ tail, cutValue (last + i) w v) := by
  induction w generalizing i pre v with
  | nil => simp [cutValue]
  | cons b w ih =>
    have hlast : i + 1 < len ↔ w ≠ [] := by
      rw [List.length_cons] at hlen
      rw [← List.length_pos_iff]
      omega
    have hstep : cutPass last len (pre ++ b :: w ++ tail, v) i =
        ((pre ++ [cutByte b]) ++ w ++ tail,
          if b = 61 ∧ w ≠ [] then some (last + i + 1) else v) := by
      by_cases hb : b = 61
      · simp [cutPass, ← hpre, hb, cutByte, hlast]
      · simp [cutPass, ← hpre, hb, cutByte]
    rw [List.length_cons, List.range'_succ, List.foldl_cons, hstep, ih]
    · simp [cutValue, Nat.add_assoc]
    · simp only [List.length_append, List.length_singleton]
      omega
    · rw [List.length_cons] at hlen
      omega

/-- The loop over a token erases its `=` and nothing else of the buffer. -/
lemma cutToken_eq (pre w tail : List UInt8) :
    cutToken pre.length w.length (pre ++ w ++ tail) =
      (pre ++ w.map cutByte ++ tail, cutValue pre.length w none) := by
  rw [cutToken, List.range_eq_range']
  exact foldl_cutPass tail none (Nat.add_zero _).symm (Nat.zero_add _)

lemma cutValue_append {a : List UInt8} (h : 61 ∉ a) (offset : ℕ) (w : List UInt8) (v : Option ℕ) :
    cutValue offset (a ++ w) v = cutValue (offset + a.length) w v := by
  induction a generalizing offset with
  | nil => rfl
  | cons b a ih =>
    obtain ⟨hb, ha⟩ : b ≠ 61 ∧ 61 ∉ a := by simpa [eq_comm] using h
    simp only [List.cons_append, cutValue, hb, false_and, if_false, ih ha, List.length_cons]
    congr 1
    omega

lemma cutValue_of_notMem {w : List UInt8} (h : 61 ∉ w) (offset : ℕ) (v : Option ℕ) :
    cutValue offset w v = v := by
  have happ := cutValue_append h offset [] v
  rwa [List.append_nil] at happ

/-- A value begins inside the token. -/
lemma cutValue_bounds {offset r : ℕ} {w : List UInt8} {v : Option ℕ}
    (h : cutValue offset w v = some r) : v = some r ∨ offset ≤ r ∧ r < offset + w.length := by
  induction w generalizing offset v with
  | nil => exact .inl h
  | cons b w ih =>
    rw [List.length_cons]
    rcases ih h with hv | hbounds
    · split_ifs at hv with hb
      · have hr : offset + 1 = r := Option.some.inj hv
        have hw := List.length_pos_iff.mpr hb.2
        exact .inr (by omega)
      · exact .inl hv
    · exact .inr (by omega)

/-! ### Reading an element -/

/-- In the part of the buffer that is done, an element reads as a token: its variable is right, and
so is its value when the token has at most one `=`. -/
structure ReadsAs (done : List UInt8) (e : CmdlineElem) (token : List UInt8) : Prop where
  noNul : 0 ∉ token
  varEnds : 0 ∈ done.drop e.var
  valueEnds : ∀ v ∈ e.value, 0 ∈ done.drop v
  var : CString.ofBytes (done.drop e.var) = (argumentOf token).var
  noEq : ∀ v ∈ e.value, 61 ∉ (CString.ofBytes (done.drop v)).bytes
  value : token.count 61 ≤ 1 →
    (e.value.map fun v => CString.ofBytes (done.drop v)) = (argumentOf token).value

lemma ofBytes_drop_append {done : List UInt8} {offset : ℕ} (h : 0 ∈ done.drop offset)
    (l : List UInt8) :
    CString.ofBytes ((done ++ l).drop offset) = CString.ofBytes (done.drop offset) := by
  have hle : offset ≤ done.length := by
    have hpos := List.length_pos_of_mem h
    rw [List.length_drop] at hpos
    omega
  rw [List.drop_append_of_le_length hle, CString.ofBytes_append h]

/-- What is written behind does not change the element. -/
lemma ReadsAs.append {done : List UInt8} {e : CmdlineElem} {token : List UInt8}
    (h : ReadsAs done e token) (l : List UInt8) : ReadsAs (done ++ l) e token where
  noNul := h.noNul
  varEnds := by
    rw [List.drop_append]
    exact List.mem_append_left _ h.varEnds
  valueEnds v hv := by
    rw [List.drop_append]
    exact List.mem_append_left _ (h.valueEnds v hv)
  var := by rw [ofBytes_drop_append h.varEnds, h.var]
  noEq v hv := by
    rw [ofBytes_drop_append (h.valueEnds v hv)]
    exact h.noEq v hv
  value hcount := by
    rw [← h.value hcount]
    cases hval : e.value with
    | none => rfl
    | some v => rw [Option.map_some, Option.map_some, ofBytes_drop_append (h.valueEnds v hval)]

lemma cutByte_ne (w : List UInt8) : 61 ∉ w.map cutByte := by
  intro h
  obtain ⟨b, -, hb⟩ := List.mem_map.mp h
  unfold cutByte at hb
  split_ifs at hb with hne
  · simp at hb
  · exact hne hb

lemma map_cutByte {w : List UInt8} (h : 61 ∉ w) : w.map cutByte = w := by
  conv_rhs => rw [← List.map_id w]
  apply List.map_congr_left
  intro b hb
  exact if_neg (ne_of_mem_of_not_mem hb h)

/-- Without a `=` the token is the variable, and there is no value. -/
lemma argumentOf_of_notMem {token : List UInt8} (h : 61 ∉ token) :
    argumentOf token = ⟨.ofBytes token, none⟩ := by
  have hbehind : behindEq token = [] := by
    rw [behindEq, List.dropWhile_eq_nil_iff.mpr (List.forall_decide_ne h), List.tail_nil]
  rw [argumentOf, List.takeWhile_ne_of_notMem h, hbehind, if_pos rfl]

/-- With one, the value is what stands behind it. -/
lemma argumentOf_append_cons {a : List UInt8} (h : 61 ∉ a) (c : List UInt8) :
    argumentOf (a ++ 61 :: c) = ⟨.ofBytes a, if c = [] then none else some (.ofBytes c)⟩ := by
  have hbehind : behindEq (a ++ 61 :: c) = c := by
    rw [behindEq, List.dropWhile_append_of_pos (List.forall_decide_ne h)]
    simp
  rw [argumentOf, List.takeWhile_ne_append_cons h, hbehind]

/-- The bytes of a cut token read as its variable. -/
lemma ofBytes_cut {token : List UInt8} (hnul : 0 ∉ token) (l : List UInt8) :
    CString.ofBytes (token.map cutByte ++ 0 :: l) = (argumentOf token).var := by
  by_cases h : 61 ∈ token
  · obtain ⟨a, c, rfl, ha⟩ := List.eq_append_cons_of_mem h
    have hnula : 0 ∉ a := fun hmem => hnul (List.mem_append_left _ hmem)
    rw [argumentOf_append_cons ha, List.map_append, map_cutByte ha, List.map_cons,
      List.append_assoc, List.cons_append]
    exact CString.ofBytes_terminated hnula _
  · rw [map_cutByte h, argumentOf_of_notMem h]
    exact CString.ofBytes_terminated hnul l

/-- A token with at most one `=` keeps its value. -/
lemma ofBytes_cutValue {token : List UInt8} (hnul : 0 ∉ token) (hcount : token.count 61 ≤ 1)
    (pre l : List UInt8) :
    ((cutValue pre.length token none).map fun v =>
      CString.ofBytes ((pre ++ (token.map cutByte ++ 0 :: l)).drop v)) =
      (argumentOf token).value := by
  by_cases h : 61 ∈ token
  · obtain ⟨a, c, rfl, ha⟩ := List.eq_append_cons_of_mem h
    have hnulc : 0 ∉ c := fun hmem =>
      hnul (List.mem_append_right _ (List.mem_cons_of_mem _ hmem))
    have hc : 61 ∉ c := by
      rw [List.count_append, List.count_cons_self] at hcount
      exact List.count_eq_zero.mp (by omega)
    have hcut : cutValue pre.length (a ++ 61 :: c) none =
        if c = [] then none else some (pre.length + a.length + 1) := by
      rw [cutValue_append ha, cutValue, cutValue_of_notMem hc]
      by_cases hnil : c = [] <;> simp [hnil]
    have hbuf : pre ++ ((a ++ 61 :: c).map cutByte ++ 0 :: l) =
        (pre ++ a ++ [0]) ++ (c ++ 0 :: l) := by
      simp [map_cutByte ha, map_cutByte hc, cutByte]
    rw [hcut, argumentOf_append_cons ha, hbuf]
    split_ifs with hnil
    · rfl
    · rw [Option.map_some, List.drop_left' (by simp [Nat.add_assoc]),
        CString.ofBytes_terminated hnulc]
  · rw [cutValue_of_notMem h, argumentOf_of_notMem h]
    rfl

/-- A value reads inside the cut token. -/
lemma drop_cutValue {pre token : List UInt8} {v : ℕ}
    (h : cutValue pre.length token none = some v) :
    ∃ k, (pre ++ (token.map cutByte ++ [0])).drop v = (token.map cutByte).drop k ++ [0] := by
  rcases cutValue_bounds h with hv | ⟨hge, hlt⟩
  · simp at hv
  · obtain ⟨k, rfl⟩ := Nat.exists_eq_add_of_le hge
    have hk : k ≤ (token.map cutByte).length := by
      rw [List.length_map]
      omega
    exact ⟨k, by rw [List.drop_length_add_append, List.drop_append_of_le_length hk]⟩

/-- An element that was cut out of the buffer reads as its token. -/
lemma readsAs_cut {token : List UInt8} (hnul : 0 ∉ token) (pre : List UInt8) :
    ReadsAs (pre ++ (token.map cutByte ++ [0]))
      ⟨pre.length, cutValue pre.length token none⟩ token where
  noNul := hnul
  varEnds := by simp
  valueEnds v hv := by
    obtain ⟨k, hdrop⟩ := drop_cutValue hv
    simp [hdrop]
  var := by
    rw [List.drop_left]
    exact ofBytes_cut hnul []
  noEq v hv hmem := by
    obtain ⟨k, hdrop⟩ := drop_cutValue hv
    rw [hdrop] at hmem
    rcases List.mem_append.mp ((List.takeWhile_sublist _).subset hmem) with hcut | hzero
    · exact cutByte_ne token (List.mem_of_mem_drop hcut)
    · simp at hzero
  value hcount := ofBytes_cutValue hnul hcount pre []

/-! ### The loop over the buffer -/

/-- A byte that does not end a token. -/
def IsTokenByte (b : UInt8) : Prop := b ≠ 32 ∧ b ≠ 10 ∧ b ≠ 0

lemma notMem_of_isTokenByte {token : List UInt8} (h : ∀ b ∈ token, IsTokenByte b) :
    0 ∉ token ∧ 32 ∉ token :=
  ⟨fun hmem => (h 0 hmem).2.2 rfl, fun hmem => (h 32 hmem).1 rfl⟩

/-- At a separator the token so far, if there is one, becomes an element, and the buffer is done up
to the NUL that ends it. -/
lemma addToken_readsAs {done token : List UInt8} {elems : List CmdlineElem}
    {tokens : List (List UInt8)} (h : List.Forall₂ (ReadsAs done) elems tokens)
    (hbytes : ∀ b ∈ token, IsTokenByte b) (rest : List UInt8) :
    ∃ done' elems', done'.length = done.length + token.length + 1 ∧
      (if 0 < token.length then
        ArgumentScan.addToken ⟨⟨done ++ token ++ 0 :: rest, elems⟩, done.length⟩ token.length
      else ⟨⟨done ++ token ++ 0 :: rest, elems⟩, done.length⟩) =
        ⟨⟨done' ++ rest, elems'⟩, done.length⟩ ∧
      List.Forall₂ (ReadsAs done') elems' (tokens ++ Tokens.words 32 token) := by
  obtain ⟨hnul, hspace⟩ := notMem_of_isTokenByte hbytes
  have hframe : ∀ l, List.Forall₂ (ReadsAs (done ++ l)) elems tokens := fun l =>
    h.imp fun _ _ hreads => hreads.append l
  by_cases hne : token = []
  · subst hne
    refine ⟨done ++ [0], elems, by simp, by simp, ?_⟩
    rw [Tokens.words_nil, List.append_nil]
    exact hframe [0]
  · refine ⟨done ++ (token.map cutByte ++ [0]),
      elems ++ [⟨done.length, cutValue done.length token none⟩], ?_, ?_, ?_⟩
    · simp [Nat.add_assoc]
    · rw [if_pos (List.length_pos_iff.mpr hne), ArgumentScan.addToken, cutToken_eq]
      simp
    · rw [Tokens.words_of_notMem hne hspace]
      apply List.rel_append (hframe _)
      exact .cons (readsAs_cut hnul done) .nil

lemma cmdlineLine_cons_of_term {c : UInt8} (h : c = 10 ∨ c = 0) (rest : List UInt8) :
    cmdlineLine (c :: rest) = [] := by
  rcases h with rfl | rfl <;> simp [cmdlineLine]

lemma cmdlineLine_cons {c : UInt8} (h : ¬ (c = 10 ∨ c = 0)) (rest : List UInt8) :
    cmdlineLine (c :: rest) = c :: cmdlineLine rest := by
  rw [not_or] at h
  simp [cmdlineLine, h]

/-- The loop over the buffer: what is done reads as the tokens before, the token so far has no
separator, and the rest has a terminator. -/
theorem argumentLoop_spec (malloc : ℕ → Bool) {rest done token : List UInt8}
    {elems : List CmdlineElem} {tokens : List (List UInt8)}
    (h : List.Forall₂ (ReadsAs done) elems tokens) (hbytes : ∀ b ∈ token, IsTokenByte b)
    (hends : 0 ∈ rest) :
    let r := argumentLoop malloc rest.length (done.length + token.length)
      ⟨⟨done ++ token ++ rest, elems⟩, done.length⟩
    ((∀ i, malloc i = true) → r.2 = 0) ∧
      (r.2 = 0 → List.Forall₂ (ReadsAs r.1.pu.orgBuf) r.1.pu.argumentList
        (tokens ++ Tokens.words 32 (token ++ cmdlineLine rest))) := by
  induction rest generalizing done token elems tokens with
  | nil => simp at hends
  | cons c rest ih =>
    have hget : (done ++ token ++ c :: rest).getD (done.length + token.length) 0 = c := by
      simp [List.getD]
    rw [List.length_cons, argumentLoop]
    simp only [hget]
    by_cases hsep : c = 32 ∨ c = 10 ∨ c = 0
    · have hset : (done ++ token ++ c :: rest).set (done.length + token.length) 0 =
          done ++ token ++ 0 :: rest := by
        simp
      have hlen : (Procutil.string ⟨done ++ token ++ 0 :: rest, elems⟩ done.length).length =
          token.length := by
        rw [Procutil.string, List.append_assoc, List.drop_left, CString.length,
          CString.ofBytes_terminated (notMem_of_isTokenByte hbytes).1,
          CString.ofBytes_of_notMem (notMem_of_isTokenByte hbytes).1]
      rw [if_pos hsep, hset]
      simp only [hlen]
      by_cases hmalloc : 0 < token.length ∧ ¬ malloc elems.length = true
      · rw [if_pos hmalloc]
        exact ⟨fun hall => absurd (hall _) hmalloc.2, fun hret => absurd hret (by simp)⟩
      · obtain ⟨done', elems', hlen', hadd, hreads⟩ := addToken_readsAs h hbytes rest
        rw [if_neg hmalloc, hadd]
        by_cases hterm : c = 10 ∨ c = 0
        · rw [if_pos hterm, cmdlineLine_cons_of_term hterm, List.append_nil]
          refine ⟨fun _ => rfl, fun _ => ?_⟩
          exact hreads.imp fun _ _ hread => hread.append rest
        · have hc : c = 32 := hsep.resolve_right hterm
          have hrest : 0 ∈ rest := by simpa [hc] using hends
          rw [if_neg hterm, cmdlineLine_cons hterm, hc,
            Tokens.words_append (notMem_of_isTokenByte hbytes).2, ← List.append_assoc, ← hlen']
          simpa using @ih done' [] elems' _ hreads (by simp) hrest
    · have hbytes' : ∀ b ∈ token ++ [c], IsTokenByte b := by
        simp only [List.mem_append, List.mem_singleton]
        rintro b (hb | rfl)
        · exact hbytes b hb
        · simpa [IsTokenByte, not_or] using hsep
      have hrest : 0 ∈ rest := by
        rcases List.mem_cons.mp hends with rfl | hrest
        · simp at hsep
        · exact hrest
      rw [if_neg hsep, cmdlineLine_cons (fun hterm => hsep (.inr hterm))]
      simpa [Nat.add_assoc] using ih h hbytes' hrest

/-! ### The list -/

/-- The list of a command line that is filled up with NULs. -/
def listOf (malloc : ℕ → Bool) (text : List UInt8) (pad : ℕ) : Procutil × ℤ :=
  procutilCreateArgumentList malloc ⟨text ++ List.replicate (pad + 1) 0, []⟩
    (text.length + (pad + 1))

lemma cmdlineLine_padded (text : List UInt8) (pad : ℕ) :
    cmdlineLine (text ++ List.replicate (pad + 1) 0) = cmdlineLine text := by
  induction text with
  | nil => exact cmdlineLine_cons_of_term (.inr rfl) _
  | cons b text ih =>
    rw [List.cons_append]
    by_cases hterm : b = 10 ∨ b = 0
    · rw [cmdlineLine_cons_of_term hterm, cmdlineLine_cons_of_term hterm]
    · rw [cmdlineLine_cons hterm, cmdlineLine_cons hterm, ih]

theorem listOf_spec (malloc : ℕ → Bool) (text : List UInt8) (pad : ℕ) :
    ((∀ i, malloc i = true) → (listOf malloc text pad).2 = 0) ∧
      ((listOf malloc text pad).2 = 0 →
        List.Forall₂ (ReadsAs (listOf malloc text pad).1.orgBuf)
          (listOf malloc text pad).1.argumentList (cmdlineTokens text)) := by
  have hends : 0 ∈ text ++ List.replicate (pad + 1) (0 : UInt8) := by simp
  have hspec := @argumentLoop_spec malloc _ [] [] [] [] .nil (by simp) hends
  have hlen : (text ++ List.replicate (pad + 1) (0 : UInt8)).length = text.length + (pad + 1) := by
    simp
  rw [hlen, List.nil_append, List.nil_append, cmdlineLine_padded] at hspec
  exact hspec

/-- A token with a second `=` has it in its value. -/
lemma eq_mem_value {token : List UInt8} (hnul : 0 ∉ token) (h : ¬ token.count 61 ≤ 1) :
    ∃ value, (argumentOf token).value = some value ∧ 61 ∈ value.bytes := by
  have hmem : 61 ∈ token := List.count_pos_iff.mp (by omega)
  obtain ⟨a, c, rfl, ha⟩ := List.eq_append_cons_of_mem hmem
  have hc : 61 ∈ c := by
    rw [List.count_append, List.count_cons_self, List.count_eq_zero_of_not_mem ha] at h
    exact List.count_pos_iff.mp (by omega)
  have hnulc : 0 ∉ c := fun hzero => hnul (List.mem_append_right _ (List.mem_cons_of_mem _ hzero))
  refine ⟨.ofBytes c, ?_, ?_⟩
  · rw [argumentOf_append_cons ha, if_neg (List.ne_nil_of_mem hc)]
  · rwa [CString.ofBytes_of_notMem hnulc]

/-- An element has the strings of its token exactly when the token has at most one `=`. -/
lemma ReadsAs.argumentAt_eq_iff {buf token : List UInt8} {e : CmdlineElem}
    (h : ReadsAs buf e token) :
    argumentAt buf e = argumentOf token ↔ token.count 61 ≤ 1 := by
  constructor
  · intro heq
    by_contra hcount
    obtain ⟨value, hvalue, hmem⟩ := eq_mem_value h.noNul hcount
    rw [← heq] at hvalue
    obtain ⟨v, hv, rfl⟩ := Option.map_eq_some_iff.mp hvalue
    exact h.noEq v hv hmem
  · intro hcount
    rw [argumentAt, h.var, h.value hcount]

lemma map_argumentAt_eq_iff {buf : List UInt8} {elems : List CmdlineElem}
    {tokens : List (List UInt8)} (h : List.Forall₂ (ReadsAs buf) elems tokens) :
    elems.map (argumentAt buf) = tokens.map argumentOf ↔
      ∀ token ∈ tokens, token.count 61 ≤ 1 := by
  induction h with
  | nil => simp
  | cons hread _ ih =>
    rw [List.map_cons, List.map_cons, List.cons_eq_cons, List.forall_mem_cons, ih,
      hread.argumentAt_eq_iff]

lemma map_var_eq {buf : List UInt8} {elems : List CmdlineElem} {tokens : List (List UInt8)}
    (h : List.Forall₂ (ReadsAs buf) elems tokens) :
    (elems.map (argumentAt buf)).map Argument.var = (tokens.map argumentOf).map Argument.var := by
  induction h with
  | nil => rfl
  | cons hread _ ih =>
    simp only [List.map_cons, ih]
    rw [argumentAt, hread.var]

/-- The variables are those of the tokens, also where a value is cut. -/
theorem listOf_vars {malloc : ℕ → Bool} {text : List UInt8} {pad : ℕ}
    (hret : (listOf malloc text pad).2 = 0) :
    (listOf malloc text pad).1.arguments.map Argument.var =
      (cmdlineArguments text).map Argument.var :=
  map_var_eq ((listOf_spec malloc text pad).2 hret)

lemma procutilTestKeyInCmdline_eq_zero {pu : Procutil} {key : CString} :
    procutilTestKeyInCmdline pu key = 0 ↔ key ∈ pu.arguments.map Argument.var := by
  rw [procutilTestKeyInCmdline, Procutil.arguments, List.map_map, List.mem_map]
  split_ifs with hany
  · simpa using hany
  · simpa using hany

/-- The test for a key is right for every command line. -/
theorem testKey_listOf {malloc : ℕ → Bool} {text : List UInt8} {pad : ℕ}
    (hret : (listOf malloc text pad).2 = 0) (key : CString) :
    procutilTestKeyInCmdline (listOf malloc text pad).1 key = 0 ↔
      key ∈ (cmdlineArguments text).map Argument.var := by
  rw [procutilTestKeyInCmdline_eq_zero, listOf_vars hret]

/-! ### Values -/

/-- A number in the range is not clamped, and `errno` is the one from before. -/
lemma convertInt64_of_inRange {errno : ℕ} {value : CString} {k : ℤ}
    (hnumber : value.number = some k) (hrange : -2 ^ 63 ≤ k ∧ k ≤ 2 ^ 63 - 1) :
    convertInt64 errno value =
      if (2 ^ 63 - 1 ≤ k ∨ k ≤ -2 ^ 63) ∧ errno = erange then (-1, none) else (0, some k) := by
  have hclamp : max (-2 ^ 63) (min (2 ^ 63 - 1) k) = k := by omega
  have herrno : ¬ (k < -2 ^ 63 ∨ 2 ^ 63 - 1 < k) := by omega
  simp only [convertInt64, CString.strtol, strtolErrno, hnumber, Option.map_some, hclamp,
    if_neg herrno]

/-- A number outside is clamped, and `errno` is set. -/
lemma convertInt64_of_outside {errno : ℕ} {value : CString} {k : ℤ}
    (hnumber : value.number = some k) (hrange : ¬ (-2 ^ 63 ≤ k ∧ k ≤ 2 ^ 63 - 1)) :
    convertInt64 errno value = (-1, none) := by
  have hend : 2 ^ 63 - 1 ≤ max (-2 ^ 63) (min (2 ^ 63 - 1) k) ∨
      max (-2 ^ 63) (min (2 ^ 63 - 1) k) ≤ -2 ^ 63 := by omega
  have herrno : k < -2 ^ 63 ∨ 2 ^ 63 - 1 < k := by omega
  simp only [convertInt64, CString.strtol, strtolErrno, hnumber, Option.map_some, hend,
    if_pos herrno, and_self, if_true]

/-- A conversion goes wrong at the two ends of the range, when `errno` says `ERANGE` from before. -/
lemma convertInt64_eq_iff (errno : ℕ) (value : CString) :
    convertInt64 errno value = parsedInt64 value ↔
      (errno = erange → value.number ≠ some (2 ^ 63 - 1) ∧ value.number ≠ some (-2 ^ 63)) := by
  cases hnumber : value.number with
  | none => simp [convertInt64, CString.strtol, parsedInt64, hnumber]
  | some k =>
    simp only [parsedInt64, hnumber, ne_eq, Option.some.injEq]
    by_cases hrange : -2 ^ 63 ≤ k ∧ k ≤ 2 ^ 63 - 1
    · rw [convertInt64_of_inRange hnumber hrange, if_pos hrange]
      by_cases hend : (2 ^ 63 - 1 ≤ k ∨ k ≤ -2 ^ 63) ∧ errno = erange
      · rw [if_pos hend]
        simp only [Prod.mk.injEq, reduceCtorEq, and_false, false_iff]
        intro hne
        have hk := hne hend.2
        omega
      · rw [if_neg hend]
        simp only [true_iff]
        exact fun herrno => ⟨fun hk => hend ⟨by omega, herrno⟩, fun hk => hend ⟨by omega, herrno⟩⟩
    · rw [convertInt64_of_outside hnumber hrange, if_neg hrange]
      simp only [true_iff]
      intro _
      constructor <;> rintro rfl <;> simp at hrange

/-! ### The whole list -/

/-- For every allocation and every number of NULs behind the text: the creation succeeds when it has
the memory, the list is the arguments of the command line, and a query reads their values. -/
structure TokensListed (errno : ℕ) (text : List UInt8) : Prop where
  creates : ∀ malloc pad, (∀ i, malloc i = true) → (listOf malloc text pad).2 = 0
  arguments : ∀ malloc pad, (listOf malloc text pad).2 = 0 →
    (listOf malloc text pad).1.arguments = cmdlineArguments text
  value : ∀ malloc pad key, (listOf malloc text pad).2 = 0 →
    procutilGetCmdlineValueInt64 errno (listOf malloc text pad).1 key =
      valueInt64Of (cmdlineArguments text) key

/-- No token has a second `=`; and when `errno` is `ERANGE` before the query, no value that can be
asked for is an end of the range. -/
structure CutOnce (errno : ℕ) (text : List UInt8) : Prop where
  tokens : ∀ token ∈ cmdlineTokens text, token.count 61 ≤ 1
  values : errno = erange → ∀ key value, firstValue (cmdlineArguments text) key = some value →
    value.number ≠ some (2 ^ 63 - 1) ∧ value.number ≠ some (-2 ^ 63)

lemma query_eq_iff (errno : ℕ) (pu : Procutil) (key : CString) :
    procutilGetCmdlineValueInt64 errno pu key = valueInt64Of pu.arguments key ↔
      (errno = erange → ∀ value, firstValue pu.arguments key = some value →
        value.number ≠ some (2 ^ 63 - 1) ∧ value.number ≠ some (-2 ^ 63)) := by
  rw [procutilGetCmdlineValueInt64_eq, valueInt64Of]
  cases firstValue pu.arguments key with
  | none => simp
  | some value => simp [convertInt64_eq_iff]

/-- The list of the command line is the arguments of its tokens, and their values are read, exactly
when no token has a second `=` and no value meets an old `ERANGE`. -/
theorem tokensListed_iff (errno : ℕ) (text : List UInt8) :
    TokensListed errno text ↔ CutOnce errno text := by
  constructor
  · intro h
    obtain ⟨hcreates, hreads⟩ := listOf_spec (fun _ => true) text 0
    have hret := hcreates fun _ => rfl
    have harguments := h.arguments _ 0 hret
    refine ⟨(map_argumentAt_eq_iff (hreads hret)).mp harguments, fun herrno key => ?_⟩
    have hvalue := h.value _ 0 key hret
    rw [← harguments, query_eq_iff] at hvalue
    rw [← harguments]
    exact hvalue herrno
  · intro h
    have harguments : ∀ malloc pad, (listOf malloc text pad).2 = 0 →
        (listOf malloc text pad).1.arguments = cmdlineArguments text := fun malloc pad hret =>
      (map_argumentAt_eq_iff ((listOf_spec malloc text pad).2 hret)).mpr h.tokens
    refine ⟨fun malloc pad => (listOf_spec malloc text pad).1, harguments, ?_⟩
    intro malloc pad key hret
    rw [← harguments malloc pad hret, query_eq_iff, harguments malloc pad hret]
    exact fun herrno => h.values herrno key

/-- `aglabboot=1=0`. -/
def doubledText : List UInt8 := [97, 103, 108, 97, 98, 98, 111, 111, 116, 61, 49, 61, 48]

/-- The value of `aglabboot=1=0` begins with 1, and 0 is read. -/
theorem doubled_not_tokensListed : ¬ TokensListed 0 doubledText := by
  intro h
  have hvalue := h.value (fun _ => true) 0 (.ofBytes (doubledText.take 9)) (by decide)
  revert hvalue
  decide

end ContainerManager

import ContainerManager.Devices.Injection

/-!
# The injected uevent is a complete encoding

The buffer holds the strings printed so far, each with its NUL, and `remain` is what is left of it
without the last byte. From a buffer like that a string fits exactly when its bytes and its NUL do.
-/

namespace ContainerManager

/-! ### What is encoded -/

/-- The string of a property. A device name goes without its `/dev/`. -/
def propertyText (elem : CString × CString) : CString :=
  elem.1 ++ .ofString "=" ++
    (if elem.1 = .ofString "DEVNAME" then elem.2.drop (CString.ofString "/dev/").length else elem.2)

/-- The strings of the properties, without the sequence number. -/
def propertyTexts (le : UdevProperties) : List CString :=
  (le.filter fun elem => elem.1 ≠ .ofString "SEQNUM").map propertyText

/-- The strings of a uevent. -/
def ueventTexts (action devpath : CString) (le : UdevProperties) : List CString :=
  (action ++ .ofString "@" ++ devpath) :: propertyTexts le

/-- Every device name starts with `/dev/`. -/
def DevnamesTrimmable (le : UdevProperties) : Prop :=
  ∀ elem ∈ le, elem.1 = .ofString "DEVNAME" → (CString.ofString "/dev/").IsPrefix elem.2

/-- The strings and their NULs. -/
def encodedSize (texts : List CString) : ℕ := (texts.map fun s => s.length + 1).sum

@[simp] lemma encodedSize_nil : encodedSize [] = 0 := rfl

@[simp] lemma encodedSize_cons (s : CString) (texts : List CString) :
    encodedSize (s :: texts) = s.length + 1 + encodedSize texts := by
  simp [encodedSize]

lemma encodedSize_append (texts texts' : List CString) :
    encodedSize (texts ++ texts') = encodedSize texts + encodedSize texts' := by
  simp [encodedSize]

/-! ### The buffer -/

namespace InjectionBuffer

/-- Nothing behind the message was written, and no size was negative. -/
structure Safe (mem : ℕ → UInt8) (b : InjectionBuffer) : Prop where
  outside : ∀ a, 2048 ≤ a → b.mem a = mem a
  sizes : ∀ size ∈ b.sizes, 0 ≤ size

/-- The buffer holds these strings. -/
structure Holds (mem : ℕ → UInt8) (texts : List CString) (b : InjectionBuffer) : Prop
    extends Safe mem b where
  usage : b.usage = encodedSize texts
  remain : b.remain = 2047 - encodedSize texts
  fits : encodedSize texts ≤ 2047
  content : CString.load b.mem b.usage = CString.block texts

variable {mem : ℕ → UInt8} {texts : List CString} {b : InjectionBuffer}

lemma holds_empty (mem : ℕ → UInt8) : Holds mem [] { mem := mem } where
  outside _ _ := rfl
  sizes := by simp
  usage := rfl
  remain := rfl
  fits := by simp
  content := rfl

/-- The bytes one printing writes, from a buffer that holds strings. -/
lemma Holds.snprintf_mem (h : b.Holds mem texts) (text : CString) :
    (CString.snprintf b.mem b.usage b.remain text).1 =
      CString.store b.mem b.usage (if 2047 - encodedSize texts = 0 then []
        else text.bytes.take (2047 - encodedSize texts - 1) ++ [0]) := by
  have hfits := h.fits
  have hbound : (b.remain % 2 ^ 64).toNat = 2047 - encodedSize texts := by
    rw [h.remain, Int.emod_eq_of_lt (by omega) (by omega)]
    omega
  simp only [CString.snprintf, hbound]

lemma Holds.safe_print (h : b.Holds mem texts) (text : CString) : (b.print text).1.Safe mem := by
  have hfits := h.fits
  have hmem : ∀ a, 2048 ≤ a → (CString.snprintf b.mem b.usage b.remain text).1 a = mem a := by
    intro a ha
    rw [h.snprintf_mem, CString.store_of_le, h.outside a ha]
    rw [h.usage]
    split_ifs with hzero
    · simp only [List.length_nil]
      omega
    · simp only [List.length_append, List.length_take, List.length_singleton]
      omega
  have hsizes : ∀ size ∈ b.sizes ++ [b.remain], 0 ≤ size := by
    intro size hs
    rcases List.mem_append.mp hs with hs | hs
    · exact h.sizes size hs
    · rw [List.mem_singleton.mp hs, h.remain]
      omega
  simp only [print]
  split_ifs <;> exact ⟨hmem, hsizes⟩

lemma encodedSize_concat (texts : List CString) (text : CString) :
    encodedSize (texts ++ [text]) = encodedSize texts + text.length + 1 := by
  simp [encodedSize_append, add_assoc]

/-- The buffer after a string that fits. -/
lemma Holds.print_eq (h : b.Holds mem texts) {text : CString}
    (hfit : encodedSize (texts ++ [text]) ≤ 2047) :
    b.print text = ({
      mem := CString.store b.mem b.usage (text.bytes ++ [0])
      usage := b.usage + (text.length + 1)
      remain := 2047 - encodedSize (texts ++ [text])
      sizes := b.sizes ++ [b.remain] }, true) := by
  rw [encodedSize_concat] at hfit
  have hint : ¬ 2 ^ 31 ≤ text.length := by omega
  have hret : (CString.snprintf b.mem b.usage b.remain text).2 = text.length := by
    simp only [CString.snprintf, hint, if_false]
  have hno : ¬ (b.remain ≤ text.length ∨ (text.length : ℤ) < 0) := by
    rw [h.remain]
    omega
  have hwhole : text.bytes.take (2047 - encodedSize texts - 1) = text.bytes := by
    apply List.take_of_length_le
    simp only [CString.length] at hfit
    omega
  have hmem : (CString.snprintf b.mem b.usage b.remain text).1 =
      CString.store b.mem b.usage (text.bytes ++ [0]) := by
    rw [h.snprintf_mem, if_neg (by omega), hwhole]
  have hremain : ueventInjectionBufferSize - 1 - ((b.usage + (text.length + 1) : ℕ) : ℤ) =
      2047 - encodedSize (texts ++ [text]) := by
    rw [h.usage, encodedSize_concat, ueventInjectionBufferSize]
    push_cast
    omega
  have hnonneg : (0 : ℤ) ≤ 2047 - encodedSize (texts ++ [text]) := by
    rw [encodedSize_concat]
    omega
  simp only [InjectionBuffer.print, hret, hno, if_false, Int.toNat_natCast, hremain, hnonneg,
    decide_true, hmem, add_assoc]

/-- A string fits when its bytes and its NUL do, and then the buffer holds it as well. -/
lemma Holds.print_of_fits (h : b.Holds mem texts) {text : CString}
    (hfit : encodedSize (texts ++ [text]) ≤ 2047) :
    (b.print text).2 = true ∧ (b.print text).1.Holds mem (texts ++ [text]) := by
  have hsafe := h.safe_print text
  rw [h.print_eq hfit] at hsafe ⊢
  refine ⟨rfl, hsafe, ?_, rfl, hfit, ?_⟩
  · simp only [h.usage, encodedSize_concat, add_assoc]
  · have hlen : b.usage + (text.length + 1) = b.usage + (text.bytes ++ [0]).length := by
      simp [CString.length]
    simp only [hlen]
    rw [CString.load_store, h.content, CString.block_append]
    simp

lemma Holds.print_of_not_fits (h : b.Holds mem texts) {text : CString}
    (hno : ¬ encodedSize (texts ++ [text]) ≤ 2047) : (b.print text).2 = false := by
  have hfits := h.fits
  rw [encodedSize_concat] at hno
  have hfail : b.remain ≤ (CString.snprintf b.mem b.usage b.remain text).2 ∨
      (CString.snprintf b.mem b.usage b.remain text).2 < 0 := by
    simp only [CString.snprintf, h.remain]
    split_ifs
    · right
      omega
    · left
      omega
  simp only [InjectionBuffer.print, hfail, if_true]

/-! ### The loop -/

lemma trimmedDevname_eq (value : CString) : trimmedDevname value =
    if (CString.ofString "/dev/").IsPrefix value then
      some (value.drop (CString.ofString "/dev/").length) else none := by
  simp only [trimmedDevname, CString.strncmpEq_length_right]

lemma devnamesTrimmable_cons (elem : CString × CString) (le : UdevProperties) :
    DevnamesTrimmable (elem :: le) ↔
      (elem.1 = .ofString "DEVNAME" → (CString.ofString "/dev/").IsPrefix elem.2) ∧
        DevnamesTrimmable le := by
  simp only [DevnamesTrimmable, List.forall_mem_cons]

section Pass

variable (b) {elem : CString × CString} (le : UdevProperties)

/-- The sequence number is skipped. -/
lemma printProperties_seqnum (h : elem.1 = .ofString "SEQNUM") :
    b.printProperties (elem :: le) = b.printProperties le := by
  obtain ⟨name, value⟩ := elem
  simp only [InjectionBuffer.printProperties, show name = _ from h, if_true]

/-- A device name that is none ends the loop. -/
lemma printProperties_untrimmable (h : elem.1 = .ofString "DEVNAME")
    (hno : ¬ (CString.ofString "/dev/").IsPrefix elem.2) :
    b.printProperties (elem :: le) = (b, false) := by
  obtain ⟨name, value⟩ := elem
  have hne : (CString.ofString "DEVNAME") ≠ .ofString "SEQNUM" := by decide
  simp only [InjectionBuffer.printProperties, show name = _ from h, hne, if_false, if_true,
    trimmedDevname_eq, show ¬ (CString.ofString "/dev/").IsPrefix value from hno]

/-- Any other property is printed as its text. -/
lemma printProperties_text (hs : elem.1 ≠ .ofString "SEQNUM")
    (ht : elem.1 = .ofString "DEVNAME" → (CString.ofString "/dev/").IsPrefix elem.2) :
    b.printProperties (elem :: le) =
      if (b.print (propertyText elem)).2 then (b.print (propertyText elem)).1.printProperties le
      else ((b.print (propertyText elem)).1, false) := by
  obtain ⟨name, value⟩ := elem
  have hs : name ≠ .ofString "SEQNUM" := hs
  by_cases hd : name = .ofString "DEVNAME"
  · have hprefix : (CString.ofString "/dev/").IsPrefix value := ht hd
    simp only [InjectionBuffer.printProperties, hd ▸ hs, if_false, hd, if_true,
      trimmedDevname_eq, hprefix, propertyText]
  · simp only [InjectionBuffer.printProperties, hs, if_false, hd, propertyText]

end Pass

/-- The loop over the properties: when it succeeds, and what the buffer holds then. -/
lemma Holds.printProperties (h : b.Holds mem texts) (le : UdevProperties) :
    (b.printProperties le).1.Safe mem ∧
      ((b.printProperties le).2 = true ↔
        DevnamesTrimmable le ∧ encodedSize (texts ++ propertyTexts le) ≤ 2047) ∧
      ((b.printProperties le).2 = true →
        (b.printProperties le).1.Holds mem (texts ++ propertyTexts le)) := by
  induction le generalizing texts b with
  | nil =>
    have hfits := h.fits
    simpa [InjectionBuffer.printProperties, propertyTexts, DevnamesTrimmable, hfits, h] using
      h.toSafe
  | cons elem le ih =>
    rw [devnamesTrimmable_cons]
    by_cases hs : elem.1 = .ofString "SEQNUM"
    · have hne : (CString.ofString "SEQNUM") ≠ .ofString "DEVNAME" := by decide
      have htexts : propertyTexts (elem :: le) = propertyTexts le := by simp [propertyTexts, hs]
      rw [printProperties_seqnum b le hs, htexts]
      simpa [hs, hne] using ih h
    · have htexts : texts ++ propertyTexts (elem :: le) =
          texts ++ [propertyText elem] ++ propertyTexts le := by simp [propertyTexts, hs]
      by_cases ht : elem.1 = .ofString "DEVNAME" → (CString.ofString "/dev/").IsPrefix elem.2
      · rw [printProperties_text b le hs ht, htexts]
        by_cases hfit : encodedSize (texts ++ [propertyText elem]) ≤ 2047
        · obtain ⟨hok, hholds⟩ := h.print_of_fits hfit
          rw [if_pos hok, and_iff_right ht]
          exact ih hholds
        · have hfail := h.print_of_not_fits hfit
          have hlong : ¬ encodedSize (texts ++ [propertyText elem] ++ propertyTexts le) ≤ 2047 := by
            rw [encodedSize_append]
            omega
          rw [hfail]
          refine ⟨h.safe_print _, ⟨by simp, ?_⟩, by simp⟩
          rintro ⟨-, hshort⟩
          exact absurd hshort hlong
      · obtain ⟨hd, hno⟩ := Classical.not_imp.mp ht
        rw [printProperties_untrimmable b le hd hno]
        simpa [ht] using h.toSafe

end InjectionBuffer

/-- The whole function: what is never written, when it succeeds, and what the message holds then. -/
lemma createInjectionBody_holds (mem : ℕ → UInt8) (header : CString) (le : UdevProperties) :
    let texts := header :: propertyTexts le
    let r := createInjectionBody (InjectionBuffer.print { mem := mem } header) le
    r.1.Safe mem ∧ (r.2.isSome ↔ DevnamesTrimmable le ∧ encodedSize texts ≤ 2047) ∧
      ∀ used, r.2 = some used → used = r.1.usage ∧ r.1.Holds mem texts := by
  intro texts r
  have hempty := InjectionBuffer.holds_empty mem
  have htexts : texts = [] ++ [header] ++ propertyTexts le := rfl
  by_cases hfit : encodedSize ([] ++ [header]) ≤ 2047
  · obtain ⟨hok, hholds⟩ := hempty.print_of_fits hfit
    obtain ⟨hsafe, hiff, hbody⟩ := hholds.printProperties le
    rw [← htexts] at hiff hbody
    simp only [r, createInjectionBody, hok, if_true]
    refine ⟨hsafe, ?_, ?_⟩
    · rw [← hiff]
      split_ifs with hb <;> simp [hb]
    · intro used hused
      split_ifs at hused with hb
      exact ⟨(Option.some.inj hused).symm, hbody hb⟩
  · have hfail := hempty.print_of_not_fits hfit
    have hlong : ¬ encodedSize texts ≤ 2047 := by
      rw [htexts, encodedSize_append]
      omega
    simp only [r, createInjectionBody, hfail, Bool.false_eq_true, if_false]
    refine ⟨hempty.safe_print _, ⟨by simp, ?_⟩, by simp⟩
    rintro ⟨-, hshort⟩
    exact absurd hshort hlong

/-- The injected message is a complete encoding of the uevent: it is made exactly when the device
names can be trimmed and the strings fit into 2047 bytes, it is then cut at its NULs into exactly
these strings, and in any case nothing outside the message is written and no size is negative. -/
theorem createInjectionMessage_encodes (mem : ℕ → UInt8) (udi : UeventDeviceInfo)
    (action devpath : CString) (le : UdevProperties) :
    let texts := ueventTexts action devpath le
    let r := deviceControlDynamicUdevCreateInjectionMessage mem
      { udi with action := some action, devpath := some devpath } le
    (r.2.isSome ↔ DevnamesTrimmable le ∧ encodedSize texts ≤ 2047) ∧
      (∀ used, r.2 = some used → used = encodedSize texts ∧
        CString.cut (CString.load r.1.mem used) = texts.map CString.bytes) ∧
      (∀ a, 2048 ≤ a → r.1.mem a = mem a) ∧ ∀ size ∈ r.1.sizes, 0 ≤ size := by
  intro texts r
  obtain ⟨hsafe, hiff, hused⟩ :=
    createInjectionBody_holds mem (action ++ .ofString "@" ++ devpath) le
  refine ⟨hiff, ?_, hsafe.outside, hsafe.sizes⟩
  intro used h
  obtain ⟨rfl, hholds⟩ := hused used h
  exact ⟨hholds.usage, (congrArg CString.cut hholds.content).trans (CString.cut_block _)⟩

end ContainerManager

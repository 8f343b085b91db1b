import ContainerManager.External
import ContainerManager.Lib.Feed

/-!
# The interface list mirrors the kernel

The list follows the messages whose name is not blacklisted. A message under a blacklisted name is
dropped before its index is looked at, so an interface that was renamed to such a name stays in the
list under its old name, even when it is removed.
-/

namespace ContainerManager

/-! ### Messages -/

/-- The name is blacklisted. -/
def Blacklisted (ifname : String) : Prop := ∃ b ∈ netIfBlacklist, nameMatches b ifname

instance : DecidablePred Blacklisted := fun ifname =>
  inferInstanceAs (Decidable (∃ b ∈ netIfBlacklist, nameMatches b ifname))

namespace RtnlMessage

/-- The name in the message, at its full length. -/
def ifname (m : RtnlMessage) : Option String :=
  ((m.attrs.find? fun attr => attr.type = iflaIfname).filter LinkAttr.valid).map LinkAttr.str

/-- The message is an `RTM_NEWLINK` or `RTM_DELLINK` that carries a name. -/
def Named (m : RtnlMessage) : Prop := m.type ≠ .other ∧ ∃ ifname, m.ifname = some ifname

/-- The name in the message is blacklisted. -/
def Ignored (m : RtnlMessage) : Prop := ∃ ifname, m.ifname = some ifname ∧ Blacklisted ifname

instance : DecidablePred Ignored := fun m =>
  match h : m.ifname with
  | none => isFalse (by simp [Ignored, h])
  | some ifname => decidable_of_iff (Blacklisted ifname) (by simp [Ignored, h])

end RtnlMessage

/-- The list after these messages, from an empty one. -/
def nllistAfter (ms : List RtnlMessage) : List NetworkInterfaceInfo :=
  ms.foldl (fun nllist m => (dataCb m.read nllist).1) []

/-- The list has the interfaces that the last messages say are there, once each, and every change
of it was notified. -/
structure MirrorsKernel (ms : List RtnlMessage) : Prop where
  unique : ((nllistAfter ms).map NetworkInterfaceInfo.ifindex).Nodup
  exact : ∀ ifindex ifname, ⟨ifindex, ifname⟩ ∈ nllistAfter ms ↔
    ∃ m, lastFor RtnlMessage.ifindex ifindex ms = some m ∧ m.type = .newlink ∧
      m.ifname = some ifname ∧ ¬ Blacklisted ifname
  notified : ∀ done m rest, ms = done ++ m :: rest → nllistAfter (done ++ [m]) ≠ nllistAfter done →
    (dataCb m.read (nllistAfter done)).2 = true

/-- An index whose last message has a blacklisted name has no `RTM_NEWLINK` as its last message
under another name. The name of a last `RTM_NEWLINK` fits into `IFNAMSIZ` bytes. -/
structure RenamesRemoved (ms : List RtnlMessage) : Prop where
  removed : ∀ ifindex m, lastFor RtnlMessage.ifindex ifindex ms = some m → m.Ignored →
    ∀ m', lastFor RtnlMessage.ifindex ifindex (ms.filter fun m => ¬ m.Ignored) = some m' →
      m'.type ≠ .newlink
  fits : ∀ ifindex m ifname, lastFor RtnlMessage.ifindex ifindex ms = some m → m.type = .newlink →
    m.ifname = some ifname → ¬ Blacklisted ifname → ifname.utf8ByteSize ≤ 16

/-! ### The name that is read -/

/-- What the buffer holds of a name. -/
def bufferedName (ifname : String) : String := CString.clip 16 ifname

/-- The blacklisted prefixes are short enough to be seen in the buffer. -/
lemma blacklisted_bufferedName (ifname : String) :
    Blacklisted (bufferedName ifname) ↔ Blacklisted ifname := by
  have hb : ∀ b ∈ netIfBlacklist, b.utf8ByteSize ≤ 16 := by decide
  have key : ∀ b ∈ netIfBlacklist, nameMatches b (bufferedName ifname) ↔ nameMatches b ifname := by
    intro b hmem
    simp only [nameMatches, bufferedName, CString.clip, String.toList_ofList,
      List.isPrefixOf_iff_prefix]
    rw [CString.prefix_clipChars_iff, String.ofList_toList]
    exact and_iff_left (hb b hmem)
  constructor
  · rintro ⟨b, hmem, h⟩
    exact ⟨b, hmem, (key b hmem).mp h⟩
  · rintro ⟨b, hmem, h⟩
    exact ⟨b, hmem, (key b hmem).mpr h⟩

namespace RtnlMessage

variable {m : RtnlMessage}

lemma read_ifname (m : RtnlMessage) : m.read.ifname = m.ifname.map bufferedName := by
  simp only [read, sdutilGetIfname, ifname]
  cases m.attrs.find? fun attr => attr.type = iflaIfname with
  | none => rfl
  | some attr => cases h : attr.valid <;> simp [h, bufferedName]

end RtnlMessage

/-! ### The feed of link messages -/

/-- What a message does to the entry of its index. -/
def RtnlMessage.effect (m : RtnlMessage) : Option (Option NetworkInterfaceInfo) :=
  match m.ifname with
  | none => none
  | some ifname =>
    if Blacklisted ifname then none
    else match m.type with
      | .newlink => some (some ⟨m.ifindex, bufferedName ifname⟩)
      | .dellink => some none
      | .other => none

lemma RtnlMessage.effect_eq_some {m : RtnlMessage} {e : NetworkInterfaceInfo} :
    m.effect = some (some e) ↔ ∃ ifname, m.type = .newlink ∧ m.ifname = some ifname ∧
      ¬ Blacklisted ifname ∧ e = ⟨m.ifindex, bufferedName ifname⟩ := by
  simp only [effect]
  cases hname : m.ifname with
  | none => simp
  | some ifname =>
    by_cases hb : Blacklisted ifname
    · simp [hb]
    · cases htype : m.type <;> simp [hb, eq_comm]

/-- A message with a name is ignored because of its name only. -/
lemma RtnlMessage.Named.effect_eq_none {m : RtnlMessage} (h : m.Named) :
    m.effect = none ↔ m.Ignored := by
  obtain ⟨htype, ifname, hname⟩ := h
  simp only [effect, Ignored, hname]
  by_cases hb : Blacklisted ifname
  · simp [hb]
  · cases ht : m.type with
    | newlink => simp [hb]
    | dellink => simp [hb]
    | other => exact absurd ht htype

def linkFeed : Feed RtnlMessage ℤ NetworkInterfaceInfo where
  key := RtnlMessage.ifindex
  entryKey := NetworkInterfaceInfo.ifindex
  effect := RtnlMessage.effect
  entryKey_effect m e h := by
    obtain ⟨ifname, -, -, -, rfl⟩ := RtnlMessage.effect_eq_some.mp h
    rfl

lemma dataCb_read (m : RtnlMessage) (nllist : List NetworkInterfaceInfo) :
    (dataCb m.read nllist).1 = linkFeed.step nllist m ∧
      ((dataCb m.read nllist).2 = true ↔ m.effect ≠ none) := by
  have hb : ∀ ifname, (netIfBlacklist.any fun b => nameMatches b (bufferedName ifname)) = true ↔
      Blacklisted ifname := by
    intro ifname
    rw [← blacklisted_bufferedName, Blacklisted, List.any_eq_true]
  simp only [dataCb, m.read_ifname, Feed.step, linkFeed, RtnlMessage.effect]
  cases m.ifname with
  | none => simp
  | some ifname =>
    simp only [Option.map_some, hb]
    by_cases hbl : Blacklisted ifname
    · simp [hbl]
    · simp only [hbl, if_false, RtnlMessage.read]
      cases m.type with
      | newlink => exact ⟨rfl, by simp⟩
      | dellink => exact ⟨rfl, by simp⟩
      | other => exact ⟨rfl, by simp⟩

lemma nllistAfter_eq_run (ms : List RtnlMessage) : nllistAfter ms = linkFeed.run ms := by
  rw [nllistAfter, Feed.run]
  congr 1
  funext nllist m
  exact (dataCb_read m nllist).1

/-! ### Every sequence of messages -/

section Messages

variable {ms : List RtnlMessage}

/-- Among messages with names, those that are taken are those that are not blacklisted. -/
lemma lastTaken_eq (hm : ∀ m ∈ ms, m.Named) (ifindex : ℤ) :
    linkFeed.lastTaken ifindex ms =
      lastFor RtnlMessage.ifindex ifindex (ms.filter fun m => ¬ m.Ignored) := by
  have hfilter : (ms.filter fun m => (linkFeed.effect m).isSome) =
      ms.filter fun m => ¬ m.Ignored := by
    apply List.filter_congr
    intro m hmem
    rw [Bool.eq_iff_iff, decide_eq_true_iff,
      ← (hm m hmem).effect_eq_none, Option.isSome_iff_ne_none]
    exact Iff.rfl
  rw [Feed.lastTaken, hfilter]
  rfl

/-- A message changes the list only when it notifies an update. -/
lemma nllistAfter_notified (done : List RtnlMessage) (m : RtnlMessage)
    (h : nllistAfter (done ++ [m]) ≠ nllistAfter done) :
    (dataCb m.read (nllistAfter done)).2 = true := by
  rw [(dataCb_read m _).2]
  intro he
  apply h
  rw [nllistAfter_eq_run, nllistAfter_eq_run, Feed.run_concat, Feed.step]
  have he : linkFeed.effect m = none := he
  rw [he]

lemma RenamesRemoved.mirrors (hm : ∀ m ∈ ms, m.Named) (h : RenamesRemoved ms) :
    MirrorsKernel ms := by
  have hmem : ∀ {ifindex m}, lastFor RtnlMessage.ifindex ifindex ms = some m → m ∈ ms :=
    fun hl => List.mem_reverse.mp (List.mem_of_find?_eq_some hl)
  -- no ignored message leaves an entry behind
  have hlast : ∀ e, e ∈ linkFeed.run ms ↔
      ∃ m, lastFor RtnlMessage.ifindex e.ifindex ms = some m ∧ m.effect = some (some e) := by
    apply Feed.mem_run_iff_last.mpr
    intro ifindex m hl hignored m' htaken e he
    rw [lastTaken_eq hm] at htaken
    obtain ⟨ifname, htype, -⟩ := RtnlMessage.effect_eq_some.mp he
    exact h.removed ifindex m hl ((hm m (hmem hl)).effect_eq_none.mp hignored) m' htaken htype
  refine ⟨nllistAfter_eq_run ms ▸ Feed.run_nodup (F := linkFeed), ?_, ?_⟩
  · intro ifindex ifname
    rw [nllistAfter_eq_run, hlast]
    constructor
    · rintro ⟨m, hl, he⟩
      obtain ⟨ifname', htype, hname, hb, he⟩ := RtnlMessage.effect_eq_some.mp he
      obtain ⟨-, rfl⟩ := NetworkInterfaceInfo.mk.inj he
      rw [bufferedName, CString.clip_of_le (h.fits ifindex m ifname' hl htype hname hb)]
      exact ⟨m, hl, htype, hname, hb⟩
    · rintro ⟨m, hl, htype, hname, hb⟩
      have hfits : bufferedName ifname = ifname :=
        CString.clip_of_le (h.fits ifindex m ifname hl htype hname hb)
      have hindex : m.ifindex = ifindex := Feed.key_of_lastFor hl
      refine ⟨m, hl, RtnlMessage.effect_eq_some.mpr ⟨ifname, htype, hname, hb, ?_⟩⟩
      rw [hfits, hindex]
  · rintro done m rest -
    exact nllistAfter_notified done m

lemma MirrorsKernel.renamesRemoved (hm : ∀ m ∈ ms, m.Named) (h : MirrorsKernel ms) :
    RenamesRemoved ms := by
  constructor
  · rintro ifindex m hl ⟨ifname, hname, hb⟩ m' htaken htype
    -- the entry of the last message that was taken is still there
    have hnot : ¬ m'.Ignored := by
      have hmem := List.mem_reverse.mp (List.mem_of_find?_eq_some htaken)
      simpa using (List.mem_filter.mp hmem).2
    obtain ⟨-, ifname', hname'⟩ : m'.Named := by
      have hmem := List.mem_reverse.mp (List.mem_of_find?_eq_some htaken)
      exact hm m' (List.mem_of_mem_filter hmem)
    have hindex : m'.ifindex = ifindex := Feed.key_of_lastFor htaken
    have he : m'.effect = some (some ⟨m'.ifindex, bufferedName ifname'⟩) :=
      RtnlMessage.effect_eq_some.mpr
        ⟨ifname', htype, hname', fun hb => hnot ⟨ifname', hname', hb⟩, rfl⟩
    have hentry : ⟨ifindex, bufferedName ifname'⟩ ∈ nllistAfter ms := by
      rw [nllistAfter_eq_run, ← hindex]
      refine Feed.mem_run.mpr ⟨m', ?_, he⟩
      show linkFeed.lastTaken m'.ifindex ms = some m'
      rw [lastTaken_eq hm, hindex, htaken]
    obtain ⟨m'', hl'', -, hname'', hb''⟩ := (h.exact ifindex _).mp hentry
    obtain rfl := Option.some.inj (hl.symm.trans hl'')
    obtain rfl := Option.some.inj (hname.symm.trans hname'')
    exact hb'' hb
  · intro ifindex m ifname hl htype hname hb
    have hentry := (h.exact ifindex ifname).mpr ⟨m, hl, htype, hname, hb⟩
    rw [nllistAfter_eq_run] at hentry
    obtain ⟨m', -, he⟩ := Feed.mem_run.mp hentry
    obtain ⟨ifname', -, -, -, he⟩ := RtnlMessage.effect_eq_some.mp he
    obtain ⟨-, rfl⟩ := NetworkInterfaceInfo.mk.inj he
    exact CString.utf8ByteSize_clip 16 ifname'

end Messages

/-- The list mirrors the kernel exactly when every interface that was renamed to a blacklisted name
was removed before. -/
theorem interface_list_mirrors_iff {ms : List RtnlMessage} (hm : ∀ m ∈ ms, m.Named) :
    MirrorsKernel ms ↔ RenamesRemoved ms :=
  ⟨fun h => h.renamesRemoved hm, fun h => h.mirrors hm⟩

/-- A message with this name. -/
def linkMessage (type : LinkMessageType) (ifindex : ℤ) (ifname : String) : RtnlMessage :=
  ⟨type, ifindex, [⟨iflaIfname, true, ifname⟩]⟩

/-- An interface that is removed and comes back under a blacklisted name. -/
def replugged : List RtnlMessage :=
  [linkMessage .newlink 3 "eth0", linkMessage .newlink 4 "eth1", linkMessage .dellink 3 "eth0",
    linkMessage .newlink 3 "veth0"]

/-- The removal is the last message of the index that is taken. -/
theorem interface_list_mirrors_replugged : MirrorsKernel replugged := by
  have hmem : ∀ m ∈ replugged, m = linkMessage .newlink 3 "eth0" ∨
      m = linkMessage .newlink 4 "eth1" ∨ m = linkMessage .dellink 3 "eth0" ∨
      m = linkMessage .newlink 3 "veth0" := fun m hm => by simpa [replugged] using hm
  have hlast : ∀ ifindex m, lastFor RtnlMessage.ifindex ifindex replugged = some m →
      m ∈ replugged ∧ m.ifindex = ifindex := fun ifindex m hl =>
    ⟨List.mem_reverse.mp (List.mem_of_find?_eq_some hl), Feed.key_of_lastFor hl⟩
  refine (interface_list_mirrors_iff fun m hm => ?_).mpr ⟨?_, ?_⟩
  · rcases hmem m hm with rfl | rfl | rfl | rfl
    all_goals exact ⟨nofun, _, rfl⟩
  · intro ifindex m hl hignored m' hl'
    obtain ⟨hm, rfl⟩ := hlast ifindex m hl
    have htaken : lastFor RtnlMessage.ifindex 3 (replugged.filter fun m => ¬ m.Ignored) =
        some (linkMessage .dellink 3 "eth0") := by decide
    rcases hmem m hm with rfl | rfl | rfl | rfl
    case inr.inr.inr =>
      obtain rfl := Option.some.inj (htaken.symm.trans hl')
      exact nofun
    all_goals exact absurd hignored (by decide)
  · intro ifindex m ifname hl _ hname _
    obtain ⟨hm, -⟩ := hlast ifindex m hl
    rcases hmem m hm with rfl | rfl | rfl | rfl
    all_goals
      obtain rfl := Option.some.inj hname
      decide

/-- An interface that is renamed to a blacklisted name and removed. -/
def renamed : List RtnlMessage :=
  [linkMessage .newlink 3 "eth0", linkMessage .newlink 3 "veth0", linkMessage .dellink 3 "veth0"]

/-- It stays in the list under its old name. -/
theorem renamed_interface_stays : (∀ m ∈ renamed, m.Named) ∧
    ⟨3, "eth0"⟩ ∈ nllistAfter renamed ∧ ¬ MirrorsKernel renamed := by
  have hstays : ⟨3, "eth0"⟩ ∈ nllistAfter renamed := by decide
  refine ⟨?_, hstays, fun h => ?_⟩
  · intro m hm
    simp only [renamed, List.mem_cons, List.not_mem_nil, or_false] at hm
    rcases hm with rfl | rfl | rfl
    all_goals exact ⟨nofun, _, rfl⟩
  · obtain ⟨m, hl, htype, -⟩ := (h.exact 3 "eth0").mp hstays
    obtain rfl : linkMessage .dellink 3 "veth0" = m := Option.some.inj hl
    cases htype

end ContainerManager

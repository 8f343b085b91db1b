import ContainerManager.ConfigDir
import ContainerManager.ProcUtil
import ContainerManager.Properties.GracePeriod

/-!
# The paths of the guest configs

The path of an entry is the directory, a slash unless it ends in one, and the name. The buffer holds
a path of at most 1023 bytes. What does not fit is cut off and opened all the same, and when the
directory itself leaves no byte for its slash, the size that remains wraps.
-/

namespace ContainerManager

/-! ### Paths -/

def slash : CString := .ofString "/"

/-- The directory with a slash at its end. -/
def dirPrefix (confdir : CString) : CString :=
  if confdir.bytes.getLast? = some 47 then confdir else confdir ++ slash

/-- The path of an entry. -/
def wholePath (confdir name : CString) : CString := dirPrefix confdir ++ name

/-- What the buffer holds of the directory. -/
def keptDir (confdir : CString) : CString := dirPrefix (confdir.take 1023)

/-- What the buffer holds of the path of an entry. -/
def cutPath (confdir name : CString) : CString :=
  keptDir confdir ++ name.take (1024 - (keptDir confdir).length - 1)

lemma slash_bytes : slash.bytes = [47] := by decide

lemma dirPrefix_length (confdir : CString) :
    (dirPrefix confdir).length =
      confdir.length + if confdir.bytes.getLast? = some 47 then 0 else 1 := by
  rw [dirPrefix]
  split_ifs
  · rfl
  · rw [CString.length_append]
    rfl

lemma take_of_length_le {s : CString} {k : ℕ} (h : s.length ≤ k) : s.take k = s :=
  CString.ext (List.take_of_length_le h)

/-- The directory and its slash leave the last byte of the buffer when the directory is short, or
when the last byte that is copied is a slash. -/
lemma keptDir_length_lt_iff (confdir : CString) :
    (keptDir confdir).length < 1024 ↔
      confdir.length < 1023 ∨ confdir.bytes[1022]? = some 47 := by
  rw [keptDir, dirPrefix_length]
  rcases Nat.lt_or_ge confdir.length 1023 with hlt | hge
  · rw [take_of_length_le hlt.le]
    simp only [hlt, true_or, iff_true]
    split_ifs <;> omega
  · have hlen : (confdir.take 1023).length = 1023 := List.length_take_of_le hge
    have hlast : (confdir.take 1023).bytes.getLast? = confdir.bytes[1022]? := by
      rw [List.getLast?_eq_getElem?]
      have hlen' : (confdir.take 1023).bytes.length = 1023 := hlen
      rw [hlen']
      exact List.getElem?_take_of_lt (by omega)
    rw [hlen, hlast]
    simp only [not_lt.mpr hge, false_or]
    split_ifs with hslash <;> simp [hslash]

lemma isJsonName_pos {name : CString} (h : IsJsonName name) : 0 < name.length := by
  have hle := List.IsInfix.length_le h
  have hjson : (CString.ofString ".json").bytes.length = 5 := by decide
  rw [hjson] at hle
  exact Nat.lt_of_lt_of_le (by omega) hle

/-- What the buffer holds is the path of an entry exactly when the path is short enough. -/
lemma cutPath_eq_iff {confdir name : CString} (hkept : (keptDir confdir).length < 1024)
    (hname : 0 < name.length) :
    cutPath confdir name = wholePath confdir name ↔ (wholePath confdir name).length < 1024 := by
  constructor
  · intro heq
    rw [← heq, cutPath, CString.length_append]
    have hcut : (name.take (1024 - (keptDir confdir).length - 1)).length ≤
        1024 - (keptDir confdir).length - 1 := List.length_take_le _ _
    omega
  · intro hlt
    rw [wholePath, CString.length_append] at hlt
    have hdir : confdir.take 1023 = confdir := by
      have hlen := dirPrefix_length confdir
      apply take_of_length_le
      omega
    have hkeep : keptDir confdir = dirPrefix confdir := by rw [keptDir, hdir]
    rw [cutPath, wholePath, hkeep, take_of_length_le (by omega)]

/-! ### The directory in the buffer -/

/-- The prefix of the paths is what the buffer holds of the directory. -/
structure PathPrefix.HoldsDir (p : PathPrefix) (confdir : CString) : Prop where
  slen : p.slen = (keptDir confdir).length
  buflen : p.buflen = 1023 - p.slen
  begins : p.buf.BeginsWith (keptDir confdir)
  inBounds : ∀ a ∈ p.buf.accesses, a.InBounds 1024

lemma text_copied (confdir : CString) :
    ((Buffer.zero : Buffer 1024).strncpy 0 confdir (1024 - 1)).text = confdir.take 1023 := by
  have hempty : (Buffer.zero : Buffer 1024).BeginsWith .empty := fun k hk => by
    simp [CString.empty] at hk
  exact hempty.text_strncpy Buffer.zero_sealed (by decide) (by decide) confdir

lemma pos_of_pathPrefix {confdir : CString} {p : PathPrefix} (h : pathPrefix confdir = some p) :
    0 < confdir.length := by
  by_contra hzero
  have hlen : (confdir.take 1023).length = 0 := by
    rw [take_of_length_le (by omega)]
    omega
  simp only [pathPrefix, text_copied, hlen, if_true] at h
  simp at h

lemma pathPrefix_holdsDir {confdir : CString} (hne : 0 < confdir.length) :
    ∃ p, pathPrefix confdir = some p ∧ p.HoldsDir confdir := by
  let buf := (Buffer.zero : Buffer 1024).strncpy 0 confdir (1024 - 1)
  have htext : buf.text = confdir.take 1023 := text_copied confdir
  have hbegins : buf.BeginsWith (confdir.take 1023) := htext ▸ buf.beginsWith_text
  have hlen : (confdir.take 1023).length = min 1023 confdir.length := List.length_take
  have hlast : buf.mem ((confdir.take 1023).length - 1) = 47 ↔
      (confdir.take 1023).bytes.getLast? = some 47 := hbegins.mem_last (by omega)
  have hcopied : ∀ a ∈ buf.accesses, a.InBounds 1024 := by
    show ∀ a ∈ [(⟨0, 1024 - 1⟩ : Access)], a.InBounds 1024
    decide
  have hkept := dirPrefix_length (confdir.take 1023)
  simp only [pathPrefix]
  rw [show (Buffer.zero : Buffer 1024).strncpy 0 confdir (1024 - 1) = buf from rfl, htext,
    if_neg (by omega)]
  by_cases hslash : (confdir.take 1023).bytes.getLast? = some 47
  · have hkeep : keptDir confdir = confdir.take 1023 := if_pos hslash
    rw [if_pos (hlast.mpr hslash)]
    exact ⟨_, rfl, by rw [hkeep], by simp, hkeep ▸ hbegins, hcopied⟩
  · have hkeep : keptDir confdir = confdir.take 1023 ++ slash := if_neg hslash
    rw [if_neg (mt hlast.mp hslash)]
    refine ⟨_, rfl, ?_, by simp, ?_, ?_⟩
    · rw [hkeep, CString.length_append]
      rfl
    · rw [hkeep]
      exact hbegins.put_append slash_bytes
    · intro a ha
      simp only [Buffer.put, List.mem_append, List.mem_singleton] at ha
      rcases ha with ha | rfl
      · exact hcopied a ha
      · refine ⟨?_, ?_, ?_⟩ <;> dsimp only <;> omega

lemma holdsDir_of_pathPrefix {confdir : CString} {p : PathPrefix}
    (h : pathPrefix confdir = some p) : p.HoldsDir confdir := by
  obtain ⟨q, hq, hdir⟩ := pathPrefix_holdsDir (pos_of_pathPrefix h)
  rw [h] at hq
  rwa [Option.some.inj hq]

/-! ### The scan -/

/-- What an entry adds to the paths that were opened. -/
def openedOf (confdir : CString) (names : List CString) : List OpenedPath :=
  (names.filter IsJsonName).map fun name => ⟨name, cutPath confdir name⟩

lemma openedOf_cons (confdir name : CString) (names : List CString) :
    openedOf confdir (name :: names) = openedOf confdir [name] ++ openedOf confdir names := by
  simp only [openedOf, List.filter_cons, List.filter_nil]
  split_ifs <;> rfl

lemma cmparserCreateFromFile_ret {json : CJson} {cc : ContainerConfig}
    (h : (cmparserCreateFromFile json).1 = some cc) :
    cmparserCreateFromFile json = (some cc, 0) := by
  rw [cmparserCreateFromFile] at h ⊢
  cases hname : json.getString "name" with
  | none => simp [hname] at h
  | some name =>
    cases hbase : json.getObject "base" with
    | none => simp [hname, hbase] at h
    | some base =>
      cases hfs : json.getObject "fs" with
      | none => simp [hname, hbase, hfs] at h
      | some fs =>
        simp only [hname, hbase, hfs] at h ⊢
        split_ifs at h ⊢
        exact congrArg (·, 0) h

/-- What the scan makes of a document that is accepted. -/
lemma loadedFrom_setStatus {json : CJson} {cc : ContainerConfig}
    (h : (cmparserCreateFromFile json).1 = some cc) (mutexInit : ℤ) :
    LoadedFrom json (ContainerConfig.setStatus
      { cc with workqueue := (containerWorkqueueInitialize mutexInit).1 } .disable) := by
  have hret := cmparserCreateFromFile_ret h
  obtain ⟨-, -, -, hstat, -⟩ := cmparserCreateFromFile_base hret
  refine ⟨cc, mutexInit, cc.baseconfig.abboot, hret, ?_⟩
  have hstatus : cc.runtimeStat.status = .disable := by rw [hstat]
  rw [ContainerConfig.setStatus, ← hstatus]

/-- The directory stands in the buffer, everything was written inside the buffer, and every guest
was loaded from a path that was opened. -/
structure ScanInv (sys : ConfigSys) (confdir : CString) (s : ConfigScan) : Prop where
  begins : s.buf.BeginsWith (keptDir confdir)
  inBounds : ∀ a ∈ s.buf.accesses, a.InBounds 1024
  loaded : ∀ cc ∈ s.ca, ∃ o ∈ s.opened, ∃ json, sys.files o.path = some json ∧ LoadedFrom json cc

section Scan

variable {sys : ConfigSys} {p : PathPrefix} {confdir : CString} {s : ConfigScan}

/-- The buffer after an entry. -/
lemma entryBuf_spec (hp : p.HoldsDir confdir) (hkept : (keptDir confdir).length < 1024)
    (hbegins : s.buf.BeginsWith (keptDir confdir)) (hs : ∀ a ∈ s.buf.accesses, a.InBounds 1024)
    (name : CString) :
    (p.entryBuf s.buf name).text = cutPath confdir name ∧
      (p.entryBuf s.buf name).BeginsWith (keptDir confdir) ∧
      ∀ a ∈ (p.entryBuf s.buf name).accesses, a.InBounds 1024 := by
  have hslen := hp.slen
  have hbuflen : p.buflen = (1024 : ℕ) - (keptDir confdir).length - 1 := by
    rw [hp.buflen, hslen]
    omega
  have hput : ((s.buf.put p.slen 0).put (1024 - 1) 0).BeginsWith (keptDir confdir) :=
    (hbegins.put (by rw [hslen]) 0).put (by omega) 0
  have hseal : ((s.buf.put p.slen 0).put (1024 - 1) 0).Sealed := by
    simp [Buffer.Sealed, Buffer.put]
  rw [hslen] at hput hseal
  rw [PathPrefix.entryBuf, hslen, hbuflen]
  refine ⟨?_, ?_, ?_⟩
  · exact hput.text_strncpy hseal hkept (by decide) name
  · exact hput.strncpy name _
  · intro a ha
    simp only [Buffer.strncpy, Buffer.put, List.mem_append, List.mem_singleton] at ha
    rcases ha with ((ha | rfl) | rfl) | rfl
    · exact hs a ha
    all_goals refine ⟨?_, ?_, ?_⟩ <;> dsimp only <;> omega

/-- An entry is opened with what the buffer holds of its path, whatever the entries before were. -/
theorem scanEntry_spec (hp : p.HoldsDir confdir) (hkept : (keptDir confdir).length < 1024)
    (h : ScanInv sys confdir s) (name : CString) :
    ScanInv sys confdir (scanEntry sys p s name) ∧
      (scanEntry sys p s name).opened = s.opened ++ openedOf confdir [name] := by
  obtain ⟨htext, hbegins, hbounds⟩ := entryBuf_spec hp hkept h.begins h.inBounds name
  by_cases hjson : IsJsonName name
  · have hopened : openedOf confdir [name] = [⟨name, cutPath confdir name⟩] := by
      simp [openedOf, hjson]
    have hkeep : ∀ cc ∈ s.ca, ∃ o ∈ s.opened ++ openedOf confdir [name],
        ∃ json, sys.files o.path = some json ∧ LoadedFrom json cc := by
      intro cc hcc
      obtain ⟨o, ho, hload⟩ := h.loaded cc hcc
      exact ⟨o, List.mem_append_left _ ho, hload⟩
    rw [scanEntry, if_pos hjson]
    simp only [htext]
    rw [← hopened]
    cases hparsed : (sys.files (cutPath confdir name)).bind fun json =>
        (cmparserCreateFromFile json).1 with
    | none => exact ⟨⟨hbegins, hbounds, hkeep⟩, rfl⟩
    | some cc =>
      refine ⟨⟨hbegins, hbounds, ?_⟩, rfl⟩
      obtain ⟨json, hfile, hcreate⟩ := Option.bind_eq_some_iff.mp hparsed
      intro cc' hcc'
      rcases List.mem_append.mp hcc' with hold | hnew
      · exact hkeep cc' hold
      · rw [List.mem_singleton] at hnew
        refine ⟨_, List.mem_append_right _ (hopened ▸ List.mem_singleton_self _), json, hfile, ?_⟩
        rw [hnew]
        exact loadedFrom_setStatus hcreate _
  · have hsame : scanEntry sys p s name = s := if_neg hjson
    have hopened : openedOf confdir [name] = [] := by simp [openedOf, hjson]
    rw [hsame, hopened, List.append_nil]
    exact ⟨h, rfl⟩

/-- The entries up to some one of them are handled, and this is all of them while there is room. -/
theorem scanEntries_spec (hp : p.HoldsDir confdir) (hkept : (keptDir confdir).length < 1024)
    (h : ScanInv sys confdir s) (names : List CString) :
    ScanInv sys confdir (scanEntries sys p names s) ∧
      ∃ handled, handled <+: names ∧
        (scanEntries sys p names s).opened = s.opened ++ openedOf confdir handled ∧
        ((scanEntries sys p names s).ca.length < guestContainerLimit → handled = names) := by
  induction names generalizing s with
  | nil => exact ⟨h, [], List.prefix_refl _, by simp [scanEntries, openedOf], fun _ => rfl⟩
  | cons name names ih =>
    rw [scanEntries]
    split_ifs with hroom
    · obtain ⟨hentry, hopened⟩ := scanEntry_spec hp hkept h name
      obtain ⟨hinv, handled, hhandled, hopened', hall⟩ := ih hentry
      refine ⟨hinv, name :: handled, ?_, ?_, ?_⟩
      · exact List.cons_prefix_cons.mpr ⟨rfl, hhandled⟩
      · rw [hopened', hopened, openedOf_cons confdir name handled, List.append_assoc]
      · intro hlt
        rw [hall hlt]
    · refine ⟨h, [], List.nil_prefix, by simp [openedOf], fun hlt => absurd hlt hroom⟩

end Scan

/-! ### Exact paths -/

/-- The size that remains does not wrap, everything is written inside the buffer, every path that is
opened is the whole path of its entry, and the entries are opened in the order of the directory:
all of them whose path fits, while there is room for their guests. -/
structure ScanExact (confdir : CString) (names : List CString) (p : PathPrefix) (s : ConfigScan) :
    Prop where
  noWrap : 0 ≤ p.buflen
  inBounds : ∀ a ∈ s.buf.accesses, a.InBounds 1024
  paths : ∀ o ∈ s.opened, o.path = wholePath confdir o.entry
  order : (s.opened.map OpenedPath.entry).Sublist names
  complete : s.ca.length < guestContainerLimit → s.opened.map OpenedPath.entry =
    names.filter fun name => IsJsonName name ∧ (wholePath confdir name).length < 1024

/-- Whatever the files are, the paths are exact. -/
def PathsExact (confdir : CString) (names : List CString) : Prop :=
  ∀ sys : ConfigSys, sys.entries = some names →
    ∃ p s, scanConfigDir sys confdir = some (p, s) ∧ ScanExact confdir names p s

/-- The directory leaves room for its slash, or is cut at one; and the path of every config file
leaves room for its NUL. -/
structure PathsFit (confdir : CString) (names : List CString) : Prop where
  dir : confdir.length < 1023 ∨ confdir.bytes[1022]? = some 47
  paths : ∀ name ∈ names, IsJsonName name → (wholePath confdir name).length < 1024

/-- The size that remains wraps exactly when the buffer is full of the directory and its slash. -/
lemma PathPrefix.HoldsDir.noWrap_iff {p : PathPrefix} {confdir : CString} (h : p.HoldsDir confdir) :
    0 ≤ p.buflen ↔ (keptDir confdir).length < 1024 := by
  rw [h.buflen, h.slen]
  omega

lemma map_entry_openedOf (confdir : CString) (names : List CString) :
    (openedOf confdir names).map OpenedPath.entry = names.filter IsJsonName := by
  rw [openedOf, List.map_map]
  exact List.map_id'' (fun _ => rfl) _

lemma mem_openedOf {confdir : CString} {names : List CString} {o : OpenedPath} :
    o ∈ openedOf confdir names ↔
      ∃ name ∈ names, IsJsonName name ∧ o = ⟨name, cutPath confdir name⟩ := by
  simp [openedOf, and_assoc, eq_comm]

/-- The scan of a directory with these entries. -/
lemma scanConfigDir_eq {sys : ConfigSys} {confdir : CString} {names : List CString} {p : PathPrefix}
    (hp : pathPrefix confdir = some p) (hentries : sys.entries = some names) :
    scanConfigDir sys confdir = some (p, scanEntries sys p names ⟨p.buf, [], []⟩) := by
  rw [scanConfigDir, hp, hentries]
  rfl

lemma scanInv_start (sys : ConfigSys) {confdir : CString} {p : PathPrefix}
    (hp : p.HoldsDir confdir) : ScanInv sys confdir ⟨p.buf, [], []⟩ :=
  ⟨hp.begins, hp.inBounds, by simp⟩

/-- A directory of files that cannot be read. -/
def ConfigSys.unreadable (names : List CString) : ConfigSys where
  manager := none
  entries := some names
  files := fun _ => none
  mutexInit := fun _ => 0
  qsort := id
  malloc := true

/-- With no file that can be read, every entry is handled. -/
lemma scanEntries_unreadable {confdir : CString} {names : List CString} {p : PathPrefix}
    (hp : p.HoldsDir confdir) (hkept : (keptDir confdir).length < 1024) :
    (scanEntries (.unreadable names) p names ⟨p.buf, [], []⟩).opened = openedOf confdir names := by
  obtain ⟨hinv, handled, -, hopened, hall⟩ :=
    scanEntries_spec hp hkept (scanInv_start (.unreadable names) hp) names
  have hnone : (scanEntries (.unreadable names) p names ⟨p.buf, [], []⟩).ca = [] := by
    apply List.eq_nil_iff_forall_not_mem.mpr
    intro cc hcc
    obtain ⟨o, ho, json, hfile, hload⟩ := hinv.loaded cc hcc
    simp [ConfigSys.unreadable] at hfile
  rw [hopened, hall (by rw [hnone]; decide)]
  rfl

/-- The paths are exact exactly when the directory and all its config files fit. -/
theorem pathsExact_iff {confdir : CString} (hne : 0 < confdir.length) (names : List CString) :
    PathsExact confdir names ↔ PathsFit confdir names := by
  obtain ⟨p, hfound, hp⟩ := pathPrefix_holdsDir hne
  constructor
  · intro h
    obtain ⟨p', s, hscan, hexact⟩ := h (.unreadable names) rfl
    rw [scanConfigDir_eq hfound rfl] at hscan
    obtain ⟨rfl, rfl⟩ := Prod.mk.inj (Option.some.inj hscan)
    have hkept := hp.noWrap_iff.mp hexact.noWrap
    refine ⟨(keptDir_length_lt_iff confdir).mp hkept, fun name hname hjson => ?_⟩
    have hopened := hexact.paths ⟨name, cutPath confdir name⟩ (by
      rw [scanEntries_unreadable hp hkept]
      exact mem_openedOf.mpr ⟨name, hname, hjson, rfl⟩)
    exact (cutPath_eq_iff hkept (isJsonName_pos hjson)).mp hopened
  · intro h sys hentries
    have hkept := (keptDir_length_lt_iff confdir).mpr h.dir
    obtain ⟨hinv, handled, hhandled, hopened, hall⟩ :=
      scanEntries_spec hp hkept (scanInv_start sys hp) names
    rw [List.nil_append] at hopened
    refine ⟨p, _, scanConfigDir_eq hfound hentries, hp.noWrap_iff.mpr hkept, hinv.inBounds,
      ?_, ?_, ?_⟩
    · intro o ho
      rw [hopened] at ho
      obtain ⟨name, hname, hjson, rfl⟩ := mem_openedOf.mp ho
      have hfits := h.paths name (hhandled.subset hname) hjson
      exact (cutPath_eq_iff hkept (isJsonName_pos hjson)).mpr hfits
    · rw [hopened, map_entry_openedOf]
      exact List.filter_sublist.trans hhandled.sublist
    · intro hroom
      rw [hopened, map_entry_openedOf, hall hroom]
      apply List.filter_congr
      intro name hname
      have hfits := h.paths name hname
      by_cases hjson : IsJsonName name <;> simp [hjson, hfits]

/-- `/etc/guests`. -/
def guestsDir : CString := .ofString "/etc/guests"

/-- In a short directory the paths are exact. -/
theorem guestsDir_pathsExact : PathsExact guestsDir [.ofString "guest.json"] := by
  refine (pathsExact_iff (by decide) _).mpr ⟨by decide, ?_⟩
  intro name hname _
  obtain rfl := List.mem_singleton.mp hname
  decide

/-- A directory of 1023 bytes: `/a` again and again, and one byte more. -/
def fullDir : CString where
  bytes := (List.replicate 511 [47, 97]).flatten ++ [97]
  noNul h := by
    rcases List.mem_append.mp h with hmem | hmem
    · obtain ⟨part, hpart, hzero⟩ := List.mem_flatten.mp hmem
      rw [List.eq_of_mem_replicate hpart] at hzero
      simp at hzero
    · simp at hmem

/-- There the slash is the last byte of the buffer, and the size that remains wraps. -/
theorem fullDir_not_pathsExact : ¬ PathsExact fullDir [.ofString "guest.json"] := by
  intro h
  have hparts : (List.replicate 511 [(47 : UInt8), 97]).flatten.length = 1022 := by
    rw [List.length_flatten, List.map_replicate, List.sum_replicate]
    rfl
  have hlen : fullDir.length = 1023 := by
    rw [CString.length, fullDir, List.length_append, hparts]
    rfl
  have hlast : fullDir.bytes[1022]? = some 97 := by
    rw [fullDir, List.getElem?_append_right hparts.le, hparts]
    rfl
  have hpos : 0 < fullDir.length := by omega
  obtain ⟨p, hfound, hp⟩ := pathPrefix_holdsDir hpos
  obtain ⟨p', s, hscan, hexact⟩ := h (.unreadable _) rfl
  rw [scanConfigDir_eq hfound rfl] at hscan
  obtain ⟨rfl, -⟩ := Prod.mk.inj (Option.some.inj hscan)
  rcases (keptDir_length_lt_iff fullDir).mp (hp.noWrap_iff.mp hexact.noWrap) with hlt | hslash
  · omega
  · rw [hlast] at hslash
    simp at hslash

/-! ### The guests -/

lemma scanEntry_length_le (sys : ConfigSys) (p : PathPrefix) (s : ConfigScan) (name : CString) :
    (scanEntry sys p s name).ca.length ≤ s.ca.length + 1 := by
  rw [scanEntry]
  split_ifs
  · dsimp only
    split <;> simp
  · omega

/-- The array of the guests has room for all of them. -/
lemma scanEntries_length_le (sys : ConfigSys) (p : PathPrefix) (names : List CString)
    {s : ConfigScan} (h : s.ca.length ≤ guestContainerLimit) :
    (scanEntries sys p names s).ca.length ≤ guestContainerLimit := by
  induction names generalizing s with
  | nil => exact h
  | cons name names ih =>
    rw [scanEntries]
    split_ifs with hroom
    · apply ih
      have hle := scanEntry_length_le sys p s name
      omega
    · exact h

/-- The guests that were created are those of the scan, in another order. -/
lemma createContainerConfigs_cases {sys : ConfigSys} {cm : ContainerManagerConfig}
    {guests : List ContainerConfig} (h : createContainerConfigs sys = some (cm, guests)) :
    ∃ p s, scanConfigDir sys (.ofString cm.configdir) = some (p, s) ∧ guests = sys.qsort s.ca := by
  rw [createContainerConfigs] at h
  cases hcm : sys.manager.bind fun json => (cmparserManagerCreateFromFile json).1 with
  | none => simp [hcm] at h
  | some cm' =>
    cases hscan : scanConfigDir sys (.ofString cm'.configdir) with
    | none => simp [hcm, hscan] at h
    | some r =>
      simp only [hcm, hscan] at h
      split_ifs at h
      obtain ⟨rfl, rfl⟩ := Prod.mk.inj (Option.some.inj h)
      exact ⟨r.1, r.2, hscan, rfl⟩

/-- A guest that was created was loaded from the file of an entry of the directory, and there are at
most as many as the limit says. -/
theorem createContainerConfigs_loaded {sys : ConfigSys} {names : List CString}
    {cm : ContainerManagerConfig} {guests : List ContainerConfig}
    (h : createContainerConfigs sys = some (cm, guests)) (hentries : sys.entries = some names)
    (hsort : ∀ l, (sys.qsort l).Perm l) (hfit : PathsFit (.ofString cm.configdir) names) :
    guests.length ≤ guestContainerLimit ∧ ∀ cc ∈ guests, ∃ name ∈ names, ∃ json,
      sys.files (wholePath (.ofString cm.configdir) name) = some json ∧ LoadedFrom json cc := by
  obtain ⟨p, s, hscan, rfl⟩ := createContainerConfigs_cases h
  obtain ⟨q, hfound, hq⟩ := Option.map_eq_some_iff.mp hscan
  obtain ⟨rfl, rfl⟩ := Prod.mk.inj hq
  have hdir := holdsDir_of_pathPrefix hfound
  have hkept := (keptDir_length_lt_iff _).mpr hfit.dir
  rw [hentries, Option.getD_some]
  obtain ⟨hinv, handled, hhandled, hopened, -⟩ :=
    scanEntries_spec hdir hkept (scanInv_start sys hdir) names
  constructor
  · rw [(hsort _).length_eq]
    exact scanEntries_length_le sys q names (Nat.zero_le _)
  · intro cc hcc
    obtain ⟨o, ho, json, hfile, hload⟩ := hinv.loaded cc ((hsort _).mem_iff.mp hcc)
    rw [hopened] at ho
    obtain ⟨name, hname, hjson, rfl⟩ := mem_openedOf.mp ho
    have hmem := hhandled.subset hname
    have hwhole := (cutPath_eq_iff hkept (isJsonName_pos hjson)).mpr (hfit.paths name hmem hjson)
    exact ⟨name, hmem, json, hwhole ▸ hfile, hload⟩

/-- Choosing the side of the boot leaves the guests as they were loaded. -/
theorem containerMngsmAbBootSetup_loaded {size : CommandLineSize} {sys : ProcutilSys} {errno : ℕ}
    {content : List UInt8} {containers : List ContainerConfig}
    (h : ∀ cc ∈ containers, ∃ json, LoadedFrom json cc) :
    ∀ cc ∈ (containerMngsmAbBootSetup size sys errno content containers).1,
      ∃ json, LoadedFrom json cc := by
  rw [containerMngsmAbBootSetup]
  split
  · exact h
  · intro cc hcc
    obtain ⟨cc, hmem, rfl⟩ := List.mem_map.mp hcc
    obtain ⟨json, parsed, mutexInit, abboot, hparsed, rfl⟩ := h cc hmem
    exact ⟨json, parsed, mutexInit, _, hparsed, rfl⟩

end ContainerManager

import ContainerManager.Cmcontrol
import ContainerManager.Lib.JsonText
import ContainerManager.Plugin
import ContainerManager.System

/-!
# The JSON list of the guests

The client opens a brace for a guest whose status it knows and closes one for every guest. The text
is a JSON text exactly when no guest runs a worker: the manager reports that status as unknown.
-/

namespace ContainerManager

open JsonText

variable {n : ℕ}

/-! ### What the list should say -/

/-- The name of a status that the client knows. -/
def ContainerStatus.reported : ContainerStatus → Option String
  | .disable => some "disable"
  | .notStarted => some "not started"
  | .started => some "started"
  | .reboot => some "reboot"
  | .shutdown => some "shutdown"
  | .dead => some "dead"
  | .exit => some "exit"
  | .runWorker => none

/-- The object of a guest. -/
def guestObject (name role status : String) : Value :=
  .object [("guest-name".toList, .string name.toList), ("role-name".toList, .string role.toList),
    ("status".toList, .string status.toList)]

/-- One object for each guest whose status is known, in their order. -/
def guestListing (cs : Containers n) : Value :=
  .object [("guest-status".toList, .array ((List.finRange n).filterMap fun i =>
    let cc := cs.containers i
    cc.runtimeStat.status.reported.map (guestObject cc.name cc.role)))]

/-- What the client prints as JSON for these guests. -/
def printedListing (cs : Containers n) : Option (List Char) :=
  cmGetGuestList 1 (containerExternalInterfaceGetGuestInfo cs .blank)

/-- No array is read outside of its bounds, and the printed text is a JSON text of the list. -/
def ListingWellFormed (cs : Containers n) : Prop :=
  ∃ text, printedListing cs = some text ∧ Denotes text (guestListing cs)

/-- The text needs no escaping and leaves room for the NUL in its field. -/
def FieldText (s : String) : Prop := s.utf8ByteSize < 128 ∧ IsVerbatim s.toList

instance : DecidablePred FieldText := fun _ => inferInstanceAs (Decidable (_ ∧ _))

/-! ### The response -/

lemma nameField_eq {s : String} (h : s.utf8ByteSize < 128) : nameField s = s :=
  CString.clip_of_le h.le

/-- What is reported of all guests. -/
def guestInfos (cs : Containers n) : List ExtifGuestInfo :=
  (List.finRange n).map fun i => extifGuestInfo (cs.containers i)

section Response

variable (cs : Containers n)

lemma getGuestInfo_guests (hn : n ≤ extifGuestsMax) (i : Fin n) :
    (containerExternalInterfaceGetGuestInfo cs .blank).guests[(i : ℕ)]? =
      some (extifGuestInfo (cs.containers i)) := by
  have hi : (i : ℕ) < extifGuestsMax := i.isLt.trans_le hn
  have hat : (Loop.forEach (reportGuest cs) (ExtifGetResponse.blank.guests, 0)).1.length =
      extifGuestsMax ∧
      (Loop.forEach (reportGuest cs) (ExtifGetResponse.blank.guests, 0)).1[(i : ℕ)]? =
        some (extifGuestInfo (cs.containers i)) := by
    apply Loop.forEach_at (P := fun s : List ExtifGuestInfo × ℤ => s.1.length = extifGuestsMax)
      (Q := fun s : List ExtifGuestInfo × ℤ => s.1.length = extifGuestsMax ∧
        s.1[(i : ℕ)]? = some (extifGuestInfo (cs.containers i))) i
    · intro s j _ hs
      simpa [reportGuest] using hs
    · intro s hs
      refine ⟨by simpa [reportGuest] using hs, ?_⟩
      rw [reportGuest, List.getElem?_set_self (by rwa [hs])]
    · rintro s j hj ⟨hs, hget⟩
      refine ⟨by simpa [reportGuest] using hs, ?_⟩
      have hne : (j : ℕ) ≠ i := fun e => hj (Fin.ext e)
      rwa [reportGuest, List.getElem?_set_ne hne]
    · simp [ExtifGetResponse.blank]
  exact hat.2

lemma getGuestInfo_numOfGuests :
    (containerExternalInterfaceGetGuestInfo cs .blank).numOfGuests = n := by
  have hcount : ∀ (l : List (Fin n)) (s : List ExtifGuestInfo × ℤ),
      (l.foldl (reportGuest cs) s).2 = s.2 + l.length := by
    intro l
    induction l with
    | nil => simp
    | cons i l ih =>
      intro s
      rw [List.foldl_cons, ih, reportGuest, List.length_cons]
      omega
  show (Loop.forEach (reportGuest cs) (ExtifGetResponse.blank.guests, 0)).2 = _
  rw [Loop.forEach, hcount]
  simp

end Response

/-! ### The printed text -/

/-- The lines of a guest but for the closing brace. -/
def guestLines (guest : ExtifGuestInfo) : List Char :=
  if guest.Known then
    "\t\t\x7b\n".toList ++
      ("\t\t\t\"guest-name\": \"".toList ++ guest.guestName.toList ++ "\",\n".toList) ++
      ("\t\t\t\"role-name\": \"".toList ++ guest.roleName.toList ++ "\",\n".toList) ++
      ("\t\t\t\"status\": \"".toList ++ (statusString[guest.status.toNat]?.getD "").toList ++
        "\"\n".toList)
  else []

/-- The lines of all guests. -/
def guestListLines : List ExtifGuestInfo → List Char
  | [] => []
  | [guest] => guestLines guest ++ "\t\t\x7d\n".toList
  | guest :: guests => guestLines guest ++ "\t\t\x7d,\n".toList ++ guestListLines guests

/-- The names of the statuses are read inside of their array, whatever the status is. -/
lemma printGuestJson_eq (guest : ExtifGuestInfo) :
    printGuestJson guest = some (guestLines guest) := by
  rw [printGuestJson, guestLines]
  by_cases hk : guest.Known
  · have hlt : guest.status.toNat < statusString.length := by
      have h6 := hk.2
      simp only [statusString, List.length_cons, List.length_nil]
      omega
    rw [if_pos hk, if_pos hk, List.getElem?_eq_getElem hlt]
    rfl
  · rw [if_neg hk, if_neg hk]

lemma printGuestsJson_eq {response : ExtifGetResponse} {guests : List ExtifGuestInfo}
    (hnum : response.numOfGuests = guests.length)
    (hget : ∀ i, i < guests.length → response.guests[i]? = guests[i]?) {i : ℕ}
    (hi : i < guests.length) :
    printGuestsJson response i = some (guestListLines (guests.drop i)) := by
  obtain ⟨k, hk⟩ := Nat.exists_eq_add_of_lt hi
  induction k generalizing i with
  | zero =>
    have hlast : ¬ ((i + 1 : ℕ) : ℤ) < response.numOfGuests := by omega
    rw [printGuestsJson, hget i hi, List.getElem?_eq_getElem hi, List.drop_eq_getElem_cons hi,
      List.drop_eq_nil_of_le (by omega)]
    simp only [Option.bind_eq_bind, Option.bind_some, printGuestJson_eq, if_neg hlast]
    rfl
  | succ k ih =>
    have hmore : ((i + 1 : ℕ) : ℤ) < response.numOfGuests := by omega
    have hi' : i + 1 < guests.length := by omega
    rw [printGuestsJson, hget i hi, List.getElem?_eq_getElem hi, List.drop_eq_getElem_cons hi]
    simp only [Option.bind_eq_bind, Option.bind_some, printGuestJson_eq, if_pos hmore,
      ih hi' (by omega)]
    rw [List.drop_eq_getElem_cons hi']
    rfl

/-- The text around the lines of the guests. -/
def listingText (guests : List ExtifGuestInfo) : List Char :=
  "\x7b\n".toList ++ "\t\"guest-status\": [\n".toList ++ guestListLines guests ++ "\t]\n".toList ++
    "\x7d\n".toList

lemma printedListing_eq (cs : Containers n) (h0 : 0 < n) (hn : n ≤ extifGuestsMax) :
    printedListing cs = some (listingText (guestInfos cs)) := by
  have hlen : (guestInfos cs).length = n := by simp [guestInfos]
  have hguests : printGuestsJson (containerExternalInterfaceGetGuestInfo cs .blank) 0 =
      some (guestListLines ((guestInfos cs).drop 0)) := by
    apply printGuestsJson_eq
    · rw [getGuestInfo_numOfGuests, hlen]
    · intro i hi
      rw [hlen] at hi
      rw [getGuestInfo_guests cs hn ⟨i, hi⟩]
      simp [guestInfos, hi]
    · omega
  rw [printedListing, cmGetGuestList, hguests]
  rfl

/-! ### The guests as JSON -/

/-- The names in the packet are written as they are in a JSON string. -/
structure ExtifGuestInfo.Verbatim (guest : ExtifGuestInfo) : Prop where
  guestName : IsVerbatim guest.guestName.toList
  roleName : IsVerbatim guest.roleName.toList

/-- The name the client has for the status. -/
def ExtifGuestInfo.statusName (guest : ExtifGuestInfo) : String :=
  statusString[guest.status.toNat]?.getD ""

lemma statusName_verbatim (guest : ExtifGuestInfo) : IsVerbatim guest.statusName.toList := by
  have hall : ∀ s ∈ statusString, IsVerbatim s.toList := by decide
  rw [ExtifGuestInfo.statusName]
  cases h : statusString[guest.status.toNat]? with
  | none => simp [IsVerbatim]
  | some s => exact hall s (List.mem_of_getElem? h)

/-- The members of the object of a guest, as they are printed. -/
def guestMembers (guest : ExtifGuestInfo) : List Member :=
  [⟨"\n\t\t\t".toList, "guest-name".toList, [], ' ' :: quoted guest.guestName.toList,
      .string guest.guestName.toList⟩,
    ⟨"\n\t\t\t".toList, "role-name".toList, [], ' ' :: quoted guest.roleName.toList,
      .string guest.roleName.toList⟩,
    ⟨"\n\t\t\t".toList, "status".toList, [],
      ' ' :: quoted guest.statusName.toList ++ "\n\t\t".toList, .string guest.statusName.toList⟩]

/-- The text of the object of a guest. -/
def guestText (guest : ExtifGuestInfo) : List Char :=
  openBrace :: [','].intercalate ((guestMembers guest).map Member.render) ++ [closeBrace]

lemma named_of_verbatim {before name text : List Char} {value : Value} (hb : IsSpace before)
    (hn : IsVerbatim name) : (Member.mk before name [] text value).Named :=
  ⟨hb, hn.isString, by simp [IsSpace]⟩

lemma guestText_denotes {guest : ExtifGuestInfo} (h : guest.Verbatim) : Denotes (guestText guest)
    (guestObject guest.guestName guest.roleName guest.statusName) := by
  have hstring : ∀ {s : List Char}, IsVerbatim s → Denotes (quoted s) (.string s) :=
    fun hs => .string hs.isString
  show Denotes _ (.object ((guestMembers guest).map fun m => (m.name, m.value)))
  refine .object (by simp [guestMembers]) ?_ ?_
  · intro m hm
    simp only [guestMembers, List.mem_cons, List.not_mem_nil, or_false] at hm
    rcases hm with rfl | rfl | rfl
    all_goals exact named_of_verbatim (by decide) (by decide)
  · intro m hm
    simp only [guestMembers, List.mem_cons, List.not_mem_nil, or_false] at hm
    rcases hm with rfl | rfl | rfl
    · exact (hstring h.guestName).behind (w := [' ']) (by decide)
    · exact (hstring h.roleName).behind (w := [' ']) (by decide)
    · exact .space (w := [' ']) (by decide) (by decide) (hstring (statusName_verbatim guest))

/-- The lines of a known guest with the closing brace are its object. -/
lemma guestLines_known {guest : ExtifGuestInfo} (hk : guest.Known) :
    guestLines guest ++ "\t\t\x7d".toList = "\t\t".toList ++ guestText guest := by
  rw [guestLines, if_pos hk]
  simp [guestText, guestMembers, Member.render, quoted, quote, openBrace, closeBrace,
    ExtifGuestInfo.statusName]

/-! ### Braces -/

/-- A guest closes its brace, whether or not it was opened. -/
lemma opens_guestLines {guest : ExtifGuestInfo} (h : guest.Verbatim) :
    Opens (if guest.Known then 0 else -1) (guestLines guest ++ "\t\t\x7d".toList) := by
  by_cases hk : guest.Known
  · rw [if_pos hk, guestLines_known hk]
    exact (IsPlain.opens (by decide)).append (guestText_denotes h).balanced
  · rw [if_neg hk, guestLines, if_neg hk]
    exact (IsPlain.opens (t := "\t\t".toList) (by decide)).append opens_closeBrace

lemma opens_guestListLines {guests : List ExtifGuestInfo} (h : ∀ g ∈ guests, g.Verbatim) :
    Opens (-(guests.countP fun g => ¬ g.Known)) (guestListLines guests) := by
  induction guests with
  | nil => exact fun d => by simp [guestListLines]
  | cons g guests ih =>
    have hg := opens_guestLines (h g List.mem_cons_self)
    have ih := ih fun g hg => h g (List.mem_cons_of_mem _ hg)
    have hcount : (-((g :: guests).countP fun g => ¬ g.Known : ℕ) : ℤ) =
        (if g.Known then 0 else -1) + -(guests.countP fun g => ¬ g.Known : ℕ) := by
      by_cases hk : g.Known
      · simp [hk]
      · simp [hk, add_comm]
    rw [hcount]
    cases guests with
    | nil =>
      have hend := hg.append (IsPlain.opens (t := ['\n']) (by decide))
      simpa [guestListLines] using hend
    | cons g' guests =>
      have hend := (hg.append (IsPlain.opens (t := ",\n".toList) (by decide))).append ih
      simpa [guestListLines] using hend

lemma opens_listingText {guests : List ExtifGuestInfo} (h : ∀ g ∈ guests, g.Verbatim) :
    Opens (-(guests.countP fun g => ¬ g.Known)) (listingText guests) := by
  have hname : Opens 0 (quoted "guest-status".toList) :=
    opens_quoted (IsVerbatim.isString (by decide))
  have hhead := (opens_openBrace.append (IsPlain.opens (t := "\n\t".toList) (by decide))).append
    (hname.append (IsPlain.opens (t := ": [\n".toList) (by decide)))
  have hend := (IsPlain.opens (t := "\t]\n".toList) (by decide)).append
    (opens_closeBrace.append (IsPlain.opens (t := ['\n']) (by decide)))
  have hall := (hhead.append (opens_guestListLines h)).append hend
  simpa [listingText, quoted, quote, openBrace, closeBrace] using hall

/-! ### The list as JSON -/

/-- The value of a known guest. -/
def guestValue (guest : ExtifGuestInfo) : Value :=
  guestObject guest.guestName guest.roleName guest.statusName

/-- The elements of the array, as they are printed. -/
def guestItems : List ExtifGuestInfo → List (List Char × Value)
  | [] => []
  | [g] => [("\n\t\t".toList ++ guestText g ++ "\n\t".toList, guestValue g)]
  | g :: guests => ("\n\t\t".toList ++ guestText g ++ [], guestValue g) :: guestItems guests

lemma guestItems_denotes {guests : List ExtifGuestInfo} (h : ∀ g ∈ guests, g.Verbatim) :
    ∀ p ∈ guestItems guests, Denotes p.1 p.2 := by
  induction guests with
  | nil => simp [guestItems]
  | cons g guests ih =>
    have hg := guestText_denotes (h g List.mem_cons_self)
    cases guests with
    | nil =>
      intro p hp
      obtain rfl := List.mem_singleton.mp hp
      exact .space (by decide) (by decide) hg
    | cons g' guests =>
      intro p hp
      rcases List.mem_cons.mp hp with rfl | hp
      · exact .space (by decide) (by decide) hg
      · exact ih (fun g hg => h g (List.mem_cons_of_mem _ hg)) p hp

lemma guestItems_values (guests : List ExtifGuestInfo) :
    (guestItems guests).map Prod.snd = guests.map guestValue := by
  induction guests with
  | nil => rfl
  | cons g guests ih =>
    cases guests with
    | nil => rfl
    | cons g' guests => simpa [guestItems] using ih

/-- The lines of known guests are the elements of an array. -/
lemma guestListLines_known {guests : List ExtifGuestInfo} (hk : ∀ g ∈ guests, g.Known)
    (hne : guests ≠ []) : '\n' :: guestListLines guests ++ ['\t'] =
      [','].intercalate ((guestItems guests).map Prod.fst) := by
  induction guests with
  | nil => exact absurd rfl hne
  | cons g guests ih =>
    have hg := guestLines_known (hk g List.mem_cons_self)
    cases guests with
    | nil =>
      have hlines : guestListLines [g] = guestLines g ++ "\t\t\x7d".toList ++ ['\n'] := by
        simp [guestListLines]
      rw [hlines, hg]
      simp [guestItems]
    | cons g' guests =>
      have ih := ih (fun g hg => hk g (List.mem_cons_of_mem _ hg)) (by simp)
      have hlines : guestListLines (g :: g' :: guests) =
          guestLines g ++ "\t\t\x7d".toList ++ ",\n".toList ++ guestListLines (g' :: guests) := by
        simp [guestListLines]
      have hitems : (guestItems (g :: g' :: guests)).map Prod.fst =
          ("\n\t\t".toList ++ guestText g) :: (guestItems (g' :: guests)).map Prod.fst := by
        simp [guestItems]
      rw [hlines, hg, hitems, List.intercalate_cons_of_ne_nil, ← ih]
      · simp
      · cases guests <;> simp [guestItems]

/-- The only member of the list, as it is printed. -/
def listMember (guests : List ExtifGuestInfo) : Member where
  before := "\n\t".toList
  name := "guest-status".toList
  after := []
  text := [' '] ++ ('[' :: ('\n' :: guestListLines guests ++ ['\t']) ++ [']']) ++ ['\n']
  value := .array (guests.map guestValue)

/-- The text of known guests denotes the list of their objects. -/
lemma listingText_denotes {guests : List ExtifGuestInfo} (h : ∀ g ∈ guests, g.Verbatim)
    (hk : ∀ g ∈ guests, g.Known) (hne : guests ≠ []) : Denotes (listingText guests)
      (.object [("guest-status".toList, .array (guests.map guestValue))]) := by
  have hitems : guestItems guests ≠ [] := by
    intro e
    have hmap := guestItems_values guests
    rw [e] at hmap
    exact hne (List.map_eq_nil_iff.mp hmap.symm)
  have harray : Denotes ('[' :: ('\n' :: guestListLines guests ++ ['\t']) ++ [']'])
      (.array (guests.map guestValue)) := by
    rw [guestListLines_known hk hne, ← guestItems_values]
    exact .array hitems (guestItems_denotes h)
  have hmember : Denotes
      (openBrace :: [','].intercalate ([listMember guests].map Member.render) ++ [closeBrace])
      (.object [("guest-status".toList, .array (guests.map guestValue))]) := by
    show Denotes _ (.object ([listMember guests].map fun m => (m.name, m.value)))
    refine .object (by simp) ?_ ?_
    · intro m hm
      obtain rfl := List.mem_singleton.mp hm
      exact named_of_verbatim (by decide) (by decide)
    · intro m hm
      obtain rfl := List.mem_singleton.mp hm
      exact .space (by decide) (by decide) harray
  have htext := hmember.before (w := ['\n']) (by decide)
  simpa [listingText, listMember, Member.render, quoted, quote, openBrace, closeBrace] using htext

/-! ### Every list -/

lemma FieldText.verbatim {cc : ContainerConfig} (hname : FieldText cc.name)
    (hrole : FieldText cc.role) : (extifGuestInfo cc).Verbatim := by
  constructor
  · rw [extifGuestInfo, nameField_eq hname.1]
    exact hname.2
  · rw [extifGuestInfo, nameField_eq hrole.1]
    exact hrole.2

/-- The client knows the statuses that have a name. -/
lemma known_extifGuestInfo (cc : ContainerConfig) :
    (extifGuestInfo cc).Known ↔ cc.runtimeStat.status ≠ .runWorker := by
  rw [ExtifGuestInfo.Known, extifGuestInfo]
  cases cc.runtimeStat.status <;> simp [containerExternalInterfaceConvertStatus]

/-- The client has the right name for a status. -/
lemma reported_eq {cc : ContainerConfig} (h : cc.runtimeStat.status ≠ .runWorker) :
    cc.runtimeStat.status.reported = some (extifGuestInfo cc).statusName := by
  rw [ExtifGuestInfo.statusName, extifGuestInfo]
  cases hs : cc.runtimeStat.status
  case runWorker => exact absurd hs h
  all_goals rfl

lemma guestListing_eq {cs : Containers n} (hname : ∀ i, FieldText (cs.containers i).name)
    (hrole : ∀ i, FieldText (cs.containers i).role)
    (h : ∀ i, (cs.containers i).runtimeStat.status ≠ .runWorker) : guestListing cs =
      .object [("guest-status".toList, .array ((guestInfos cs).map guestValue))] := by
  have hvalues : ((List.finRange n).filterMap fun i =>
      (cs.containers i).runtimeStat.status.reported.map
        (guestObject (cs.containers i).name (cs.containers i).role)) =
      (guestInfos cs).map guestValue := by
    rw [guestInfos, List.map_map, ← List.filterMap_eq_map]
    apply List.filterMap_congr
    intro i _
    rw [reported_eq (h i)]
    show some (guestObject _ _ _) = some (guestObject (nameField _) (nameField _) _)
    rw [nameField_eq (hname i).1, nameField_eq (hrole i).1]
  rw [guestListing, hvalues]

lemma guestInfos_verbatim {cs : Containers n} (hname : ∀ i, FieldText (cs.containers i).name)
    (hrole : ∀ i, FieldText (cs.containers i).role) : ∀ g ∈ guestInfos cs, g.Verbatim := by
  intro g hg
  obtain ⟨i, -, rfl⟩ := List.mem_map.mp hg
  exact (hname i).verbatim (hrole i)

/-- A guest that runs a worker closes a brace that it did not open. -/
lemma ListingWellFormed.status_ne {cs : Containers n} (h : ListingWellFormed cs)
    (hn : n ≤ extifGuestsMax) (hname : ∀ i, FieldText (cs.containers i).name)
    (hrole : ∀ i, FieldText (cs.containers i).role) (i : Fin n) :
    (cs.containers i).runtimeStat.status ≠ .runWorker := by
  obtain ⟨text, htext, hd⟩ := h
  rw [printedListing_eq cs (Fin.pos i) hn] at htext
  obtain rfl := Option.some.inj htext
  intro hi
  have hcount := (opens_listingText (guestInfos_verbatim hname hrole)).unique hd.balanced
  have hpos : 0 < (guestInfos cs).countP fun g => ¬ g.Known := by
    refine List.countP_pos_iff.mpr ⟨extifGuestInfo (cs.containers i), ?_, ?_⟩
    · exact List.mem_map.mpr ⟨i, List.mem_finRange i, rfl⟩
    · simpa [known_extifGuestInfo] using hi
  omega

lemma listingWellFormed_of_status_ne {cs : Containers n} (h0 : 0 < n) (hn : n ≤ extifGuestsMax)
    (hname : ∀ i, FieldText (cs.containers i).name)
    (hrole : ∀ i, FieldText (cs.containers i).role)
    (h : ∀ i, (cs.containers i).runtimeStat.status ≠ .runWorker) : ListingWellFormed cs := by
  refine ⟨_, printedListing_eq cs h0 hn, ?_⟩
  rw [guestListing_eq hname hrole h]
  apply listingText_denotes (guestInfos_verbatim hname hrole)
  · intro g hg
    obtain ⟨i, -, rfl⟩ := List.mem_map.mp hg
    exact (known_extifGuestInfo _).mpr (h i)
  · intro e
    have hlen : (guestInfos cs).length = n := by simp [guestInfos]
    rw [e, List.length_nil] at hlen
    omega

/-- The printed list is well formed and complete exactly when no guest runs a worker. -/
theorem listing_well_formed_iff {cs : Containers n} (h0 : 0 < n) (hn : n ≤ extifGuestsMax)
    (hname : ∀ i, FieldText (cs.containers i).name)
    (hrole : ∀ i, FieldText (cs.containers i).role) :
    ListingWellFormed cs ↔ ∀ i, (cs.containers i).runtimeStat.status ≠ .runWorker :=
  ⟨fun h => h.status_ne hn hname hrole, listingWellFormed_of_status_ne h0 hn hname hrole⟩

theorem listing_well_formed_ivi : ListingWellFormed (setupManager iviGuests []) := by
  have hname : ∀ i, FieldText ((setupManager iviGuests []).containers i).name := by decide
  have hrole : ∀ i, FieldText ((setupManager iviGuests []).containers i).role := by decide
  exact (listing_well_formed_iff (by decide) (by decide) hname hrole).mpr (by decide)

/-- A guest that runs a worker. -/
def workerGuests : Containers 1 :=
  setupManager (fun i => { clusterGuest i with runtimeStat := { status := .runWorker } }) []

/-- Its brace is closed and was not opened. -/
theorem worker_listing_malformed :
    printedListing workerGuests =
      some "\x7b\n\t\"guest-status\": [\n\t\t\x7d\n\t]\n\x7d\n".toList ∧
    ¬ ListingWellFormed workerGuests := by
  have hname : ∀ i, FieldText (workerGuests.containers i).name := by decide
  have hrole : ∀ i, FieldText (workerGuests.containers i).role := by decide
  refine ⟨?_, fun h => h.status_ne (by decide) hname hrole 0 rfl⟩
  rw [printedListing_eq workerGuests (by decide) (by decide)]
  rfl

end ContainerManager

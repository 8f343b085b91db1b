import ContainerManager.Properties.ParserMemory.Sections

/-!
# What the dynamic devices hold

The items of the dynamic devices are built in several steps. When a failed allocation breaks the
parsing of an item off, the rest of the item is lost; after an item without a rule, the parser reads
what it has just freed.
-/

namespace ContainerManager.Memory

open Ownership

variable {mem : ℕ → Bool} {E : Fault → Prop}

/-- The strings of `rule.devtype`. -/
def devtypesOwn (l : List ℕ) : Blocks := (l.map fun pli => {(Block.devtype, pli)}).sum

def ItemMem.own (p : ItemMem) : Blocks :=
  {(.dynamicItem, p.self)} + one .string p.subsystem + devtypesOwn p.devtypeList +
    nodesOwn .ruleExtra p.extraList + one .string p.permission

/-- The items of a device. -/
def itemsOwn (l : List ItemMem) : Blocks := (l.map ItemMem.own).sum

def EntryMem.own (dde : EntryMem) : Blocks :=
  {(.dynamicEntry, dde.self)} + one .string dde.devpath + itemsOwn dde.items

/-- The devices of a list. -/
def entriesOwn (l : List EntryMem) : Blocks := (l.map EntryMem.own).sum

/-- The kinds of an item. -/
def itemKinds (p : DeviceItem) : Multiset Block :=
  {.dynamicItem} + stringKind p.subsystem.isSome +
    listKinds (fun _ => {.devtype}) p.rule.devtypeList +
    listKinds (fun _ => recordKinds .ruleExtra [true, true]) p.rule.extraList +
    stringKind p.behavior.permission.isSome

/-- The kinds of a device. -/
def entryKinds (dde : DeviceEntry) : Multiset Block :=
  {.dynamicEntry} + stringKind dde.devpath.isSome + listKinds itemKinds dde.items

/-- The kinds of the dynamic devices of a config. -/
def dynamicKinds : List DeviceEntry → Multiset Block := listKinds entryKinds

/-- What is lost while the numbers go from `n` to `m`: items without the strings of `rule.devtype`.
The parsing of each was broken off by a failed allocation of its own. -/
def LostItems (mem : ℕ → Bool) (n m : ℕ) (L : Blocks) : Prop :=
  ∃ lost : List ItemMem, L = itemsOwn lost ∧ lost.length ≤ failures mem n m ∧
    ∀ p ∈ lost, p.devtypeList = [] ∧ p.permission = none

lemma lostItems_zero (n m : ℕ) : LostItems mem n m 0 := ⟨[], rfl, Nat.zero_le _, by simp⟩

lemma lostItems_add (n m k : ℕ) (L L' : Blocks) (hnm : n ≤ m) (hmk : m ≤ k)
    (h : LostItems mem n m L) (h' : LostItems mem m k L') : LostItems mem n k (L + L') := by
  obtain ⟨lost, rfl, hlength, hlost⟩ := h
  obtain ⟨lost', rfl, hlength', hlost'⟩ := h'
  refine ⟨lost ++ lost', by simp [itemsOwn], ?_, fun p hp => ?_⟩
  · rw [failures_add mem hnm hmk, List.length_append]
    exact Nat.add_le_add hlength hlength'
  · rcases List.mem_append.mp hp with hp | hp
    · exact hlost p hp
    · exact hlost' p hp

/-- What was lost before and after something that loses nothing. -/
lemma LostItems.widen {n n' m m' : ℕ} {L : Blocks} (h : LostItems mem n m L) (hn : n' ≤ n)
    (hnm : n ≤ m) (hm : m ≤ m') : LostItems mem n' m' L := by
  have hright := lostItems_add n m m' L 0 hnm hm h (lostItems_zero m m')
  have hleft := lostItems_add n' n m' 0 _ hn (hnm.trans hm) (lostItems_zero n' n) hright
  rwa [zero_add, add_zero] at hleft

lemma lostItems_singleton {n m : ℕ} {p : ItemMem} (hfails : 0 < failures mem n m)
    (h : p.devtypeList = []) (h' : p.permission = none) : LostItems mem n m p.own :=
  ⟨[p], by simp [itemsOwn], hfails, by simp [h, h']⟩

/-- An item that has a subsystem, and no rule. -/
def RulelessItem (item : CJson) : Prop :=
  (item.getString "subsystem").isSome ∧ item.getObject "rule" = none

/-- A device with an item that has no rule. -/
def RulelessEntry (elem : CJson) : Prop :=
  (elem.getString "devpath").isSome ∧ ∃ item ∈ elem.elements "items", RulelessItem item

lemma freeDevtypes_owns (l : List ℕ) :
    Owns (devtypesOwn l) (freeDevtypes l) (fun _ R => R = 0) E :=
  Owns.forM_reverse (Owns.release_last Block.devtype) l

/-- The error exit frees the strings of `rule.devtype`, and loses the rest of the item. -/
lemma itemErrRet_owns (p : ItemMem) (h : p.permission = none) :
    Owns p.own (itemErrRet p)
      (fun m R => m = .skipped ∧ R = { p with devtypeList := [] }.own) E := by
  apply Owns.access (by simp [ItemMem.own])
  have hsplit : p.own = devtypesOwn p.devtypeList + { p with devtypeList := [] }.own := by
    simp only [ItemMem.own, devtypesOwn, List.map_nil, List.sum_nil]
    abel
  apply (freeDevtypes_owns p.devtypeList).call hsplit fun _ he => he
  rintro _ _ rfl
  rw [h]
  exact Owns.pure ⟨rfl, zero_add _⟩

/-- After a failed allocation the rest of the item is what is lost. -/
lemma itemErrRet_lost {n m : ℕ} {p : ItemMem} {kinds : Multiset Block}
    {Good : Made ItemMem → Prop} (h : p.permission = none) (hnm : n ≤ m)
    (hfails : 0 < failures mem n m) :
    OwnsFrom p.own m (itemErrRet p)
      (fun r R k => Built (LostItems mem n k) (NeverFails mem) (Made.own ItemMem.own) kinds Good
        r R) E := by
  apply ((itemErrRet_owns p h).from_next m).mono _ fun _ he => he
  rintro r _ k hk ⟨rfl, rfl⟩
  have hfails' : 0 < failures mem n k := by
    rw [failures_add mem hnm hk]
    exact Nat.add_pos_left hfails _
  have hlost : LostItems mem n k { p with devtypeList := [] }.own :=
    lostItems_singleton hfails' rfl h
  refine ⟨⟨_, hlost, (zero_add _).symm⟩, fun hfull => ?_⟩
  exact absurd (hfull.failures_eq_zero n m) hfails.ne'

/-- The kinds of `rule.devtype` are those of its strings. -/
lemma devtypes_kinds (l : List CJson) :
    (l.map fun devtype =>
        if (CJson.string? (some devtype)).isSome then {Block.devtype} else 0).sum =
      listKinds (fun _ => {.devtype}) (l.foldl parseDevtypeElem []) := by
  have hpass (s : List ShortString) (devtype : CJson) :
      listKinds (fun _ => ({.devtype} : Multiset Block)) (parseDevtypeElem s devtype) =
        listKinds (fun _ => {.devtype}) s +
          if (CJson.string? (some devtype)).isSome then {Block.devtype} else 0 := by
    rw [parseDevtypeElem]
    cases CJson.string? (some devtype) <;> simp
  rw [kinds_foldl hpass, listKinds_nil, zero_add]

/-- The kinds of `rule.extra` are those of its entries. -/
lemma extras_kinds (l : List CJson) :
    (l.map fun extra => (extraRecord extra).elim 0 (recordKinds .ruleExtra)).sum =
      listKinds (fun _ => recordKinds .ruleExtra [true, true]) (l.foldl parseExtraElem []) := by
  have hpass (s : List DeviceRuleExtra) (extra : CJson) :
      listKinds (fun _ => recordKinds .ruleExtra [true, true]) (parseExtraElem s extra) =
        listKinds (fun _ => recordKinds .ruleExtra [true, true]) s +
          (extraRecord extra).elim 0 (recordKinds .ruleExtra) := by
    rw [parseExtraElem, extraRecord]
    cases extra with
    | object items =>
      simp only [CJson.object?]
      cases (CJson.object items).getString "checker" <;>
        cases (CJson.object items).getString "value" <;> simp
    | _ => simp [CJson.object?, CJson.getString, CJson.getObjectItemCaseSensitive, CJson.string?]
  rw [kinds_foldl hpass, listKinds_nil, zero_add]

lemma newDevtype_owns (devtype : CJson) :
    Owns 0 (newDevtype mem devtype)
      (Built Nothing (NeverFails mem) (Made.own fun pli => {(Block.devtype, pli)})
        (if (CJson.string? (some devtype)).isSome then {.devtype} else 0)
        fun m => m ≠ .aborted ∧ True) E := by
  rw [newDevtype]
  cases CJson.string? (some devtype) with
  | none => exact Owns.pure (.mk_nothing rfl fun _ => ⟨rfl, by simp⟩)
  | some s =>
    simp only [map_eq_pure_bind, Option.isSome_some, if_true]
    apply malloc_bind
    intro p hp
    refine Owns.pure (.mk_nothing ?_ fun hfull => ⟨?_, orAbort_ne_aborted (hp hfull), trivial⟩)
    · rw [orAbort_own, add_zero]
      rfl
    · obtain ⟨pli, rfl⟩ := Option.ne_none_iff_exists'.mp (hp hfull)
      rfl

/-- A device type is given up only when it could not be allocated. -/
lemma newDevtype_quits (devtype : CJson) (n : ℕ) :
    OwnsFrom 0 n (newDevtype mem devtype)
      (fun r _ k => r = .aborted → 0 < failures mem n k) E := by
  rw [newDevtype]
  cases CJson.string? (some devtype) with
  | none => exact OwnsFrom.pure (by simp)
  | some s =>
    simp only [map_eq_pure_bind]
    apply OwnsFrom.tryAcquire
    · exact fun _ => OwnsFrom.pure (by simp [orAbort])
    · exact fun hfails => OwnsFrom.pure fun _ => by simp [failures_succ hfails]

/-- So is a record. -/
lemma makeNode_quits (k : Block) (strings : Option (List Bool)) (n : ℕ) :
    OwnsFrom 0 n (makeNode mem k strings orAbort)
      (fun r _ m => r = .aborted → 0 < failures mem n m) E := by
  cases strings with
  | none => exact OwnsFrom.pure (by simp)
  | some strings =>
    rw [makeNode, newNode, map_eq_pure_bind, bind_assoc]
    apply OwnsFrom.tryAcquire
    · intro _
      simp only [bind_assoc, pure_bind]
      apply ((strings_owns strings).from_next (n + 1)).call (zero_add _).symm fun _ he => he
      exact fun l R m _ _ => OwnsFrom.pure (by simp [orAbort])
    · intro hfails
      rw [pure_bind]
      exact OwnsFrom.pure fun _ => by simp [failures_succ hfails]

/-- A list that is not complete is so after a failed allocation. -/
lemma collectList_quits {β ι : Type} {new : ι → Owning Block (Made β)} {own' : β → Blocks}
    {kinds : ι → Multiset Block} (h : ∀ i, Owns 0 (new i)
      (Built Nothing (NeverFails mem) (Made.own own') (kinds i) fun m => m ≠ .aborted ∧ True) E)
    (hquits : ∀ i n, OwnsFrom 0 n (new i)
      (fun r _ m => r = .aborted → 0 < failures mem n m) E) (items : List ι) (n : ℕ) :
    OwnsFrom 0 n (collect new addTail items [])
      (fun r R m => Built Nothing (NeverFails mem) (fun r => (r.1.map own').sum)
          (items.map kinds).sum (fun r => r.2 = true) r R ∧
        (r.2 = false → 0 < failures mem n m)) E :=
  ((collectList_owns h items).from_next n).and (OwnsFrom.collect_quits hquits items [])

/-- The item that a rule and a behavior make. -/
def ruleItem (subsystem : CString) (rule : CJson) (behavior : Option CJson) : DeviceItem where
  subsystem := some subsystem
  rule := parseDeviceRule rule
  behavior := (behavior.map parseDeviceBehavior).getD {}

lemma parseRule_owns {p : ItemMem} (hdevtypes : p.devtypeList = []) (hextras : p.extraList = [])
    (hpermission : p.permission = none) (hsubsystem : NeverFails mem → p.subsystem.isSome = true)
    (subsystem : CString) (rule : CJson) (behavior : Option CJson) (n : ℕ) :
    OwnsFrom p.own n (parseRule mem p rule behavior)
      (fun r R m => Built (LostItems mem n m) (NeverFails mem) (Made.own ItemMem.own)
        (itemKinds (ruleItem subsystem rule behavior)) (fun r => r ≠ .aborted) r R) E := by
  apply (collectList_quits newDevtype_owns newDevtype_quits (rule.elements "devtype") n).call
    (zero_add _).symm fun _ he => he
  rintro ⟨devtypes, complete⟩ R m hm ⟨hR, hquit⟩
  rw [hR.eq]
  -- the item holds the strings that were made
  have hown : (devtypes.map fun pli => {(Block.devtype, pli)}).sum + p.own =
      { p with devtypeList := devtypes }.own := by
    simp only [ItemMem.own, hdevtypes, devtypesOwn, List.map_nil, List.sum_nil]
    abel
  rw [hown]
  cases complete with
  | false =>
    exact itemErrRet_lost (p := { p with devtypeList := devtypes }) hpermission hm (hquit rfl)
  | true =>
    have hextra (extra : CJson) := @makeNode_owns mem E .ruleExtra
      (extraRecord extra) _ (orAbort_own _) fun _ => orAbort_ne_aborted
    apply (collectList_quits hextra (fun extra => makeNode_quits .ruleExtra (extraRecord extra))
      (rule.elements "extra") m).call (zero_add _).symm fun _ he => he
    rintro ⟨extras, complete⟩ R' k hk ⟨hR', hquit'⟩
    rw [hR'.eq]
    have hown' : (extras.map (Node.own .ruleExtra)).sum + { p with devtypeList := devtypes }.own =
        { p with devtypeList := devtypes, extraList := extras }.own := by
      simp only [ItemMem.own, hextras, nodesOwn, List.map_nil, List.sum_nil]
      abel
    rw [hown']
    cases complete with
    | false =>
      have hfails : 0 < failures mem n k := by
        rw [failures_add mem hm hk]
        exact Nat.add_pos_right _ (hquit' rfl)
      exact itemErrRet_lost (p := { p with devtypeList := devtypes, extraList := extras })
        hpermission (hm.trans hk) hfails
    | true =>
      apply ((strdup_owns _).from_next k).call (zero_add _).symm fun _ he => he
      rintro permission _ _ - ⟨rfl, hgiven⟩
      apply OwnsFrom.pure
      have hown'' : one .string permission +
          { p with devtypeList := devtypes, extraList := extras }.own =
          { p with devtypeList := devtypes, extraList := extras, permission }.own := by
        simp only [ItemMem.own, hpermission, one_none, add_zero]
        abel
      rw [hown'']
      apply Built.of_nothing (lostItems_zero _ _)
      refine .mk_nothing rfl fun hfull => ⟨?_, by simp⟩
      have hdevtypeKinds : (devtypesOwn devtypes).map Prod.fst = _ := hR.kinds_own hfull
      have hextraKinds : (nodesOwn .ruleExtra extras).map Prod.fst = _ := hR'.kinds_own hfull
      have hpermissionKinds : ((behavior.map parseDeviceBehavior).getD {}).permission.isSome =
          (behavior.bind fun b => b.getString "permission").isSome := by
        cases behavior <;> simp [parseDeviceBehavior]
      simp only [ItemMem.own, Multiset.map_add, Multiset.map_singleton, hdevtypeKinds, hextraKinds,
        kinds_string, hsubsystem hfull, hgiven hfull, devtypes_kinds, extras_kinds, itemKinds,
        ruleItem, hpermissionKinds]
      rfl

/-- Only an object has members. -/
lemma object_of_getString {json : CJson} {name s : String} (h : json.getString name = some s) :
    CJson.object? (some json) = some json := by
  cases json with
  | object items => rfl
  | _ => simp [CJson.getString, CJson.getObjectItemCaseSensitive, CJson.string?] at h

/-- The items that an element makes. -/
def parsedItems (item : CJson) : List DeviceItem :=
  (parseDynamicDevItems { devpath := none } item).items

lemma parsedItems_none {item : CJson} (h : item.getString "subsystem" = none) :
    parsedItems item = [] := by
  rw [parsedItems, parseDynamicDevItems]
  cases item with
  | object items => simp [CJson.object?, ContainerManager.cmparserParseDynamicDevItem, h]
  | _ => rfl

lemma parsedItems_rule {item rule : CJson} {subsystem : String}
    (hs : item.getString "subsystem" = some subsystem) (hr : item.getObject "rule" = some rule) :
    parsedItems item = [ruleItem (.ofString subsystem) rule (item.getObject "behavior")] := by
  rw [parsedItems, parseDynamicDevItems, object_of_getString hs]
  simp [ContainerManager.cmparserParseDynamicDevItem, hs, hr, ruleItem]

/-- After an item without a rule the parser reads what it has just freed. -/
lemma rulelessItem_faults {item : CJson} (h : RulelessItem item) :
    Owns 0 (cmparserParseDynamicDevItem mem item)
      (fun m R => m = .skipped ∧ R = 0 ∧ ¬ NeverFails mem) (fun f => f = .dangling) := by
  obtain ⟨hs, hr⟩ := h
  obtain ⟨subsystem, hs⟩ := Option.isSome_iff_exists.mp hs
  rw [cmparserParseDynamicDevItem, hs]
  intro F
  apply Runs.tryAcquire
  intro p hp hfresh
  cases p with
  | none => exact Runs.pure ⟨0, ⟨rfl, rfl, fun hfull => hp hfull rfl⟩, by simp⟩
  | some self =>
    rw [hr]
    apply (strdup_owns true).run (zero_add _).symm fun _ he => he
    rintro p _ ⟨rfl, -⟩
    apply (Owns.releaseOpt Block.string p).run rfl fun _ he => he
    rintro _ _ rfl
    apply (Owns.release_last Block.dynamicItem self).run (add_left_comm _ _ _) fun _ he => he
    rintro _ _ rfl
    rw [itemErrRet]
    apply Runs.access_dangling
    · simpa using hfresh self rfl Block.dynamicItem
    · rfl

lemma cmparserParseDynamicDevItem_owns (item : CJson) (n : ℕ) :
    OwnsFrom 0 n (cmparserParseDynamicDevItem mem item)
      (fun r R m => Built (LostItems mem n m) (NeverFails mem) (Made.own ItemMem.own)
        (listKinds itemKinds (parsedItems item)) (fun r => r ≠ .aborted ∧ ¬ RulelessItem item) r R)
      (fun f => f = .dangling ∧ RulelessItem item) := by
  by_cases hruleless : RulelessItem item
  · apply ((rulelessItem_faults hruleless).from_next n).mono _ fun f hf => ⟨hf, hruleless⟩
    rintro r _ m - ⟨rfl, rfl, hfails⟩
    exact ⟨⟨0, lostItems_zero n m, rfl⟩, fun hfull => absurd hfull hfails⟩
  · rw [cmparserParseDynamicDevItem]
    cases hs : item.getString "subsystem" with
    | none =>
      apply OwnsFrom.pure
      apply Built.of_nothing (lostItems_zero n n)
      refine .mk_nothing rfl fun _ => ⟨?_, by simp, hruleless⟩
      rw [parsedItems_none hs]
      rfl
    | some subsystem =>
      cases hr : item.getObject "rule" with
      | none => exact absurd ⟨by rw [hs]; rfl, hr⟩ hruleless
      | some rule =>
        apply OwnsFrom.tryAcquire
        · intro _
          apply ((strdup_owns true).from_next (n + 1)).call (zero_add _).symm fun _ he => he
          rintro q _ m hm ⟨rfl, hq⟩
          have hown : one .string q + ({(.dynamicItem, n)} + 0) =
              ({ self := n, subsystem := q } : ItemMem).own := by
            simp [ItemMem.own, devtypesOwn, add_comm]
          rw [hown]
          apply (parseRule_owns rfl rfl rfl hq (.ofString subsystem) rule
            (item.getObject "behavior") m).mono _ fun _ he => he
          intro r R k hk hitem
          rw [parsedItems_rule hs hr, listKinds_singleton]
          obtain ⟨L, hL, hR⟩ := hitem.lost
          refine ⟨⟨L, hL.widen (by omega) hk le_rfl, hR⟩, fun hfull => ?_⟩
          obtain ⟨hR, hkinds, hmade⟩ := hitem.exact hfull
          exact ⟨hR, hkinds, hmade, hruleless⟩
        · intro hfails
          apply OwnsFrom.pure
          apply Built.of_nothing (lostItems_zero _ _)
          exact .mk_nothing rfl fun hfull => by simp [hfull n] at hfails

lemma dynamicItems_kinds (dde : DeviceEntry) (item : CJson) :
    entryKinds (parseDynamicDevItems dde item) =
      entryKinds dde + listKinds itemKinds (parsedItems item) := by
  cases hs : item.getString "subsystem" with
  | none =>
    rw [parsedItems_none hs, parseDynamicDevItems]
    cases item with
    | object items => simp [CJson.object?, ContainerManager.cmparserParseDynamicDevItem, hs]
    | _ => simp [CJson.object?]
  | some subsystem =>
    simp only [parsedItems, parseDynamicDevItems, object_of_getString hs,
      ContainerManager.cmparserParseDynamicDevItem, hs]
    cases item.getObject "rule" with
    | none => simp
    | some rule => simp [entryKinds, add_assoc]

/-- The devices that an element makes. -/
def parsedEntries (elem : CJson) : List DeviceEntry := parseDynamicDevElem [] elem

lemma parsedEntries_none {elem : CJson} (h : elem.getString "devpath" = none) :
    parsedEntries elem = [] := by
  rw [parsedEntries, parseDynamicDevElem]
  cases elem with
  | object items => simp [CJson.object?, h]
  | _ => rfl

lemma parsedEntries_some {elem : CJson} {devpath : String}
    (h : elem.getString "devpath" = some devpath) : parsedEntries elem =
      [(elem.elements "items").foldl parseDynamicDevItems
        { devpath := some (.ofString devpath) }] := by
  rw [parsedEntries, parseDynamicDevElem, object_of_getString h]
  simp [h, CJson.elements]

lemma dynamicEntries_kinds (l : List DeviceEntry) (elem : CJson) :
    dynamicKinds (parseDynamicDevElem l elem) =
      dynamicKinds l + dynamicKinds (parsedEntries elem) := by
  rw [parsedEntries, parseDynamicDevElem, parseDynamicDevElem]
  cases elem with
  | object items =>
    cases h : (CJson.object items).getString "devpath" <;>
      simp [CJson.object?, h, dynamicKinds]
  | _ => simp [CJson.object?, dynamicKinds]

lemma newEntry_owns (elem : CJson) (n : ℕ) :
    OwnsFrom 0 n (newEntry mem elem)
      (fun r R m => Built (LostItems mem n m) (NeverFails mem) (Made.own EntryMem.own)
        (dynamicKinds (parsedEntries elem)) (fun r => r ≠ .aborted ∧ ¬ RulelessEntry elem) r R)
      (fun f => f = .dangling ∧ RulelessEntry elem) := by
  rw [newEntry]
  cases hdevpath : elem.getString "devpath" with
  | none =>
    apply OwnsFrom.pure
    apply Built.of_nothing (lostItems_zero n n)
    refine .mk_nothing rfl fun _ => ⟨?_, by simp, fun hr => by simp [RulelessEntry, hdevpath] at hr⟩
    rw [parsedEntries_none hdevpath]
    rfl
  | some devpath =>
    apply OwnsFrom.tryAcquire
    · intro _
      apply ((strdup_owns true).from_next (n + 1)).call (zero_add _).symm fun _ he => he
      rintro q _ m hm ⟨rfl, hq⟩
      have hitems := OwnsFrom.collect (LostItems mem) itemsOwn
        (E := fun f => f = .dangling ∧ RulelessEntry elem)
        (fun n => lostItems_zero n n) lostItems_add (sum_addTail ItemMem.own)
        (elem.elements "items")
        (fun item hitem n => (@cmparserParseDynamicDevItem_owns mem item n).mono
          (fun _ _ _ _ h => h) fun f hf => ⟨hf.1, by rw [hdevpath]; rfl, item, hitem, hf.2⟩) [] m
      apply hitems.call (zero_add _).symm fun _ he => he
      intro r R k hk hr
      obtain ⟨L, hL, rfl, hnone⟩ := hr.split
      apply OwnsFrom.pure
      have hown : itemsOwn r.1 + (one .string q + ({(.dynamicEntry, n)} + 0)) =
          ({ self := n, devpath := q, items := r.1 } : EntryMem).own := by
        simp only [EntryMem.own]
        abel
      have hsplit : itemsOwn r.1 + L + (one .string q + ({(.dynamicEntry, n)} + 0)) =
          ({ self := n, devpath := q, items := r.1 } : EntryMem).own + L := by
        rw [← hown]
        abel
      rw [hsplit]
      refine ⟨⟨L, hL.widen (by omega) hk le_rfl, rfl⟩, fun hfull => ?_⟩
      obtain ⟨-, hkinds, -, hrules⟩ := hr.exact hfull
      rw [hnone hfull, add_zero] at hkinds ⊢
      refine ⟨rfl, ?_, by simp, fun hr => ?_⟩
      · rw [parsedEntries_some hdevpath, dynamicKinds, listKinds_singleton,
          kinds_foldl dynamicItems_kinds]
        simp only [EntryMem.own, Multiset.map_add, hkinds, kinds_string, hq hfull, entryKinds]
        simp [itemsOwn]
      · obtain ⟨-, item, hitem, hi⟩ := hr
        exact hrules item hitem hi
    · intro hfails
      apply OwnsFrom.pure
      apply Built.of_nothing (lostItems_zero _ _)
      exact .mk_nothing rfl fun hfull => by simp [hfull n] at hfails

/-- The dynamic devices of a list. -/
lemma cmparserParseDynamicDev_owns (dd : List CJson) (n : ℕ) :
    OwnsFrom 0 n (cmparserParseDynamicDev mem dd)
      (fun r R m => Built (LostItems mem n m) (NeverFails mem) (fun r => entriesOwn r.1)
        (dynamicKinds (dd.foldl parseDynamicDevElem []))
        (fun r => r.2 = 0 ∧ ∀ elem ∈ dd, ¬ RulelessEntry elem) r R)
      (fun f => f = .dangling ∧ ∃ elem ∈ dd, RulelessEntry elem) := by
  have hentries := OwnsFrom.collect (LostItems mem) entriesOwn
    (E := fun f => f = .dangling ∧ ∃ elem ∈ dd, RulelessEntry elem)
    (fun n => lostItems_zero n n) lostItems_add (sum_addTail EntryMem.own) dd
    (fun elem helem n => (@newEntry_owns mem elem n).mono
      (fun _ _ _ _ h => h) fun f hf => ⟨hf.1, elem, helem, hf.2⟩) [] n
  apply hentries.call (zero_add _).symm fun _ he => he
  intro r R m hm hr
  rw [add_zero]
  apply OwnsFrom.pure
  refine ⟨hr.lost, fun hfull => ?_⟩
  obtain ⟨hR, hkinds, hcomplete, hrules⟩ := hr.exact hfull
  refine ⟨hR, ?_, by rw [if_pos hcomplete], hrules⟩
  rw [hkinds, kinds_foldl dynamicEntries_kinds]
  rfl

lemma ItemMem.free_owns (p : ItemMem) : Owns p.own p.free (fun _ R => R = 0) E := by
  have hsplit : p.own = devtypesOwn p.devtypeList + (nodesOwn .ruleExtra p.extraList +
      (one .string p.permission + (one .string p.subsystem + {(.dynamicItem, p.self)}))) := by
    rw [ItemMem.own]
    abel
  apply (freeDevtypes_owns _).call hsplit fun _ he => he
  rintro _ _ rfl
  apply (freeNodes_owns _ _).call (zero_add _) fun _ he => he
  rintro _ _ rfl
  apply (Owns.releaseOpt _ _).call (zero_add _) fun _ he => he
  rintro _ _ rfl
  apply (Owns.releaseOpt _ _).call (zero_add _) fun _ he => he
  rintro _ _ rfl
  rw [zero_add]
  exact Owns.release_last _ _

lemma EntryMem.free_owns (dde : EntryMem) : Owns dde.own dde.free (fun _ R => R = 0) E := by
  have hitems : Owns (itemsOwn dde.items) (dde.items.reverse.forM ItemMem.free)
      (fun _ R => R = 0) E :=
    Owns.forM_reverse ItemMem.free_owns dde.items
  have hsplit : dde.own =
      itemsOwn dde.items + (one .string dde.devpath + {(.dynamicEntry, dde.self)}) := by
    rw [EntryMem.own]
    abel
  apply hitems.call hsplit fun _ he => he
  rintro _ _ rfl
  apply (Owns.releaseOpt _ _).call (zero_add _) fun _ he => he
  rintro _ _ rfl
  rw [zero_add]
  exact Owns.release_last _ _

end ContainerManager.Memory

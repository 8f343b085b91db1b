import ContainerManager.CmUtils

/-!
# The directories of a path

`mkdir_p` creates what is in front of the last slash of its argument, from the root on, and changes
nothing else. It goes on where a node exists already, so it succeeds over a leaf when that is the
last of them.
-/

namespace ContainerManager

/-- The names in front of the last slash that `mkdir_p` sees. -/
def parentNames (dir : CString) : List (List UInt8) :=
  Path.parents pathSeparator (dir.bytes.take (pathMax - 1))

/-! ### Reading on -/

/-- Reading on completes names and takes none back. -/
lemma parents_grow (text more : List UInt8) :
    Path.parents pathSeparator text <+: Path.parents pathSeparator (text ++ more) := by
  induction more using List.reverseRecOn with
  | nil => simp
  | append_singleton more c ih =>
    apply ih.trans
    rw [← List.append_assoc]
    by_cases hc : c = pathSeparator
    · rw [hc, Path.parents_slash]
      rcases Path.components_eq pathSeparator (text ++ more) with h | ⟨name, h⟩
      · exact ⟨[], by rw [h, List.append_nil]⟩
      · exact ⟨[name], h.symm⟩
    · exact ⟨[], by rw [Path.parents_other _ _ hc, List.append_nil]⟩

/-- The first character of a path completes no name. -/
lemma parents_take_one (text : List UInt8) : Path.parents pathSeparator (text.take 1) = [] := by
  cases text with
  | nil => rfl
  | cons c text =>
    by_cases hc : c = pathSeparator <;> simp [Path.parents, Path.scan, Path.Scan.read, hc]

/-! ### The loop -/

/-- From these files, only directories in front of the last slash of the text were created. -/
structure MadeWithin (files : Files) (text : List UInt8) (files' : Files) : Prop where
  kept : ∀ p, files.node p ≠ none → files'.node p = files.node p
  made : ∀ p, files.node p = none → files'.node p ≠ none →
    p <+: Path.parents pathSeparator text ∧ files'.node p = some .directory

/-- And there is a node for all that is in front of it. -/
structure MadeUpTo (files : Files) (text : List UInt8) (files' : Files) : Prop
    extends MadeWithin files text files' where
  reached : files'.node (Path.parents pathSeparator text) ≠ none

lemma MadeWithin.mono {files files' : Files} {text : List UInt8} (h : MadeWithin files text files')
    (more : List UInt8) : MadeWithin files (text ++ more) files' where
  kept := h.kept
  made p hnone hsome := by
    obtain ⟨hp, hdir⟩ := h.made p hnone hsome
    exact ⟨hp.trans (parents_grow text more), hdir⟩

/-- One call of `mkdir`. -/
lemma MadeUpTo.create {files files' : Files} {text : List UInt8} (h : MadeUpTo files text files')
    (fails : Bool) :
    let r := files'.create fails (Path.components pathSeparator text) .directory
    MadeWithin files (text ++ [pathSeparator]) r.1 ∧
      (r.2 ≠ some .other → MadeUpTo files (text ++ [pathSeparator]) r.1) := by
  intro r
  have hwithin : MadeWithin files (text ++ [pathSeparator]) r.1 := by
    have hmono := h.toMadeWithin.mono [pathSeparator]
    constructor
    · intro p hp
      rw [← h.kept p hp]
      apply FileTree.create_node_of_some
      rwa [h.kept p hp]
    · intro p hnone hsome
      by_cases hold : files'.node p = none
      · have hnode := FileTree.create_node files' fails
          (Path.components pathSeparator text) .directory p
        split_ifs at hnode with hp
        · rw [Path.parents_slash, hp.2]
          exact ⟨List.prefix_refl _, hp.2 ▸ hnode⟩
        · exact absurd (hnode.trans hold) hsome
      · rw [FileTree.create_node_of_some _ _ _ _ hold]
        exact hmono.made p hnone hold
  refine ⟨hwithin, fun hok => ⟨hwithin, ?_⟩⟩
  rw [Path.parents_slash]
  exact FileTree.create_node_ne_none _ _ _ _ hok

/-- No leaf stands in front of these names. -/
def NoLeafBefore (files : Files) (names : List (List UInt8)) : Prop :=
  ∀ p, p <+: names → p ≠ names → files.node p = none ∨ files.node p = some .directory

/-- Where no leaf is in the way, `mkdir` has a directory to create the next one in. -/
lemma MadeUpTo.create_ok {files files' : Files} {text more : List UInt8}
    (h : MadeUpTo files text files')
    (hleaf : NoLeafBefore files (Path.parents pathSeparator (text ++ pathSeparator :: more))) :
    (files'.create false (Path.components pathSeparator text) .directory).2 ≠ some .other := by
  by_cases hnone : files'.node (Path.components pathSeparator text) = none
  · rcases Path.components_eq pathSeparator text with hsame | ⟨name, hname⟩
    · rw [hsame] at hnone
      exact absurd hnone h.reached
    · have hdir : files'.node (Path.parents pathSeparator text) = some .directory := by
        by_cases hold : files.node (Path.parents pathSeparator text) = none
        · exact (h.made _ hold h.reached).2
        · rw [h.kept _ hold]
          refine (hleaf _ (parents_grow text _) ?_).resolve_left hold
          intro heq
          have hlong := parents_grow (text ++ [pathSeparator]) more
          rw [Path.parents_slash, hname, List.append_assoc, List.singleton_append, ← heq] at hlong
          have hlen := hlong.length_le
          simp only [List.length_append, List.length_singleton] at hlen
          omega
      have hok : (files'.create false (Path.components pathSeparator text)
          (.directory : FileNode DeviceNode)).2 = none := by
        rw [FileTree.create_eq_none_iff, hname, List.dropLast_concat, ← hname]
        exact ⟨hnone, hdir, rfl⟩
      rw [hok]
      simp
  · rw [(FileTree.create_eq_exists_iff _ _ _ _).mpr hnone]
    simp

section Loop

variable (fails : ℕ → Bool) (dir : CString) {files files' : Files}

/-- What the passes from an index on leave. -/
lemma mkdirPLoop_made {i k : ℕ} (hik : i + k ≤ dir.length)
    (h : MadeUpTo files (dir.bytes.take i) files') :
    let r := mkdirPLoop fails dir files' (List.range' i k)
    MadeWithin files (dir.bytes.take (i + k)) r.1 ∧ (r.2 = 0 ∨ r.2 = -1) ∧
      (r.2 = 0 → MadeUpTo files (dir.bytes.take (i + k)) r.1) := by
  induction k generalizing i files' with
  | zero => exact ⟨h.toMadeWithin, Or.inl rfl, fun _ => h⟩
  | succ k ih =>
    have hi : i < dir.bytes.length := by
      simp only [CString.length] at hik
      omega
    have hnext : dir.bytes.take (i + 1) = dir.bytes.take i ++ [dir.bytes[i]] := by simp
    have hrest : i + 1 + k = i + (k + 1) := by omega
    simp only [List.range'_succ, mkdirPLoop, List.getElem?_eq_getElem hi, Option.some.injEq]
    by_cases hsep : dir.bytes[i] = pathSeparator
    · rw [if_pos hsep]
      set r := files'.create (fails i) (pathNames (dir.take i)) .directory with hr
      obtain ⟨hwithin, hmade⟩ : MadeWithin files (dir.bytes.take i ++ [pathSeparator]) r.1 ∧
          (r.2 ≠ some .other → MadeUpTo files (dir.bytes.take i ++ [pathSeparator]) r.1) :=
        h.create (fails i)
      rw [← hsep, ← hnext] at hwithin hmade
      split_ifs with hother
      · refine ⟨?_, Or.inr rfl, by simp⟩
        have hmono := hwithin.mono ((dir.bytes.drop (i + 1)).take k)
        rwa [← List.take_add, hrest] at hmono
      · rw [← hrest]
        exact ih (by omega) (hmade hother)
    · rw [if_neg hsep, ← hrest]
      apply ih (by omega)
      have hsame : Path.parents pathSeparator (dir.bytes.take (i + 1)) =
          Path.parents pathSeparator (dir.bytes.take i) := by
        rw [hnext, Path.parents_other _ _ hsep]
      exact ⟨⟨h.kept, by rw [hsame]; exact h.made⟩, by rw [hsame]; exact h.reached⟩

/-- Without other failures and leaves in the way, no pass fails. -/
lemma mkdirPLoop_ok {i k : ℕ} (hik : i + k ≤ dir.length)
    (h : MadeUpTo files (dir.bytes.take i) files')
    (hleaf : NoLeafBefore files (Path.parents pathSeparator (dir.bytes.take (i + k)))) :
    (mkdirPLoop (fun _ => false) dir files' (List.range' i k)).2 = 0 := by
  induction k generalizing i files' with
  | zero => rfl
  | succ k ih =>
    have hi : i < dir.bytes.length := by
      simp only [CString.length] at hik
      omega
    have hnext : dir.bytes.take (i + 1) = dir.bytes.take i ++ [dir.bytes[i]] := by simp
    have hrest : i + 1 + k = i + (k + 1) := by omega
    simp only [List.range'_succ, mkdirPLoop, List.getElem?_eq_getElem hi, Option.some.injEq]
    rw [← hrest] at hleaf
    by_cases hsep : dir.bytes[i] = pathSeparator
    · rw [if_pos hsep]
      have hsplit : dir.bytes.take (i + 1 + k) =
          dir.bytes.take i ++ pathSeparator :: (dir.bytes.drop (i + 1)).take k := by
        rw [List.take_add, hnext, hsep, List.append_assoc, List.singleton_append]
      have hok : (files'.create false (pathNames (dir.take i)) .directory).2 ≠ some .other :=
        h.create_ok (hsplit ▸ hleaf)
      rw [if_neg hok]
      apply ih (by omega) _ hleaf
      rw [hnext, hsep]
      exact (h.create false).2 hok
    · rw [if_neg hsep]
      apply ih (by omega) _ hleaf
      have hsame : Path.parents pathSeparator (dir.bytes.take (i + 1)) =
          Path.parents pathSeparator (dir.bytes.take i) := by
        rw [hnext, Path.parents_other _ _ hsep]
      exact ⟨⟨h.kept, by rw [hsame]; exact h.made⟩, by rw [hsame]; exact h.reached⟩

end Loop

/-- The start of the loop: no name is complete. -/
lemma madeUpTo_start (dir : CString) (files : Files) {i : ℕ} (hi : i ≤ 1) :
    MadeUpTo files (dir.bytes.take i) files := by
  have hnil : Path.parents pathSeparator (dir.bytes.take i) = [] := by
    apply List.prefix_nil.mp
    have htake : dir.bytes.take 1 = dir.bytes.take i ++ (dir.bytes.drop i).take (1 - i) := by
      rw [← List.take_add, Nat.add_sub_cancel' hi]
    rw [← parents_take_one dir.bytes, htake]
    exact parents_grow _ _
  refine ⟨⟨fun p _ => rfl, fun p hnone hsome => absurd hnone hsome⟩, ?_⟩
  rw [hnil, files.root]
  simp

/-- The bytes that `mkdir_p` looks at. -/
lemma take_len (dir : CString) :
    dir.bytes.take (min dir.length (pathMax - 1)) = dir.bytes.take (pathMax - 1) := by
  rw [min_comm]
  exact (List.take_eq_take_min (l := dir.bytes) (i := pathMax - 1)).symm

lemma mkdirP_made (fails : ℕ → Bool) (dir : CString) (files : Files) :
    let r := mkdirP fails dir files
    MadeWithin files (dir.bytes.take (pathMax - 1)) r.1 ∧ (r.2 = 0 ∨ r.2 = -1) ∧
      (r.2 = 0 → MadeUpTo files (dir.bytes.take (pathMax - 1)) r.1) := by
  simp only [mkdirP, ← take_len]
  rcases Nat.eq_zero_or_pos (min dir.length (pathMax - 1)) with hzero | hpos
  · have hstart := madeUpTo_start dir files (i := 0) (by omega)
    rw [hzero]
    exact ⟨hstart.toMadeWithin, Or.inl rfl, fun _ => hstart⟩
  · have hstart := madeUpTo_start dir files (i := 1) le_rfl
    have hlen : 1 + (min dir.length (pathMax - 1) - 1) = min dir.length (pathMax - 1) := by omega
    have hloop :=
      mkdirPLoop_made fails dir (k := min dir.length (pathMax - 1) - 1) (by omega) hstart
    rwa [hlen] at hloop

lemma mkdirP_ok (dir : CString) {files : Files} (hleaf : NoLeafBefore files (parentNames dir)) :
    (mkdirP (fun _ => false) dir files).2 = 0 := by
  simp only [mkdirP]
  rw [parentNames, ← take_len] at hleaf
  rcases Nat.eq_zero_or_pos (min dir.length (pathMax - 1)) with hzero | hpos
  · rw [hzero]
    rfl
  · have hlen : 1 + (min dir.length (pathMax - 1) - 1) = min dir.length (pathMax - 1) := by omega
    apply mkdirPLoop_ok dir (by omega) (madeUpTo_start dir files le_rfl)
    rwa [hlen]

/-- Whatever else makes `mkdir` fail, nothing but directories in front of the last slash of the
argument is created, and what was there stays. On success all of them are there, and all but the
last are directories. When nothing else fails, it succeeds exactly if no leaf is in the way of
another one. -/
theorem mkdirP_directories (dir : CString) (files : Files) :
    (∀ fails : ℕ → Bool,
      let r := mkdirP fails dir files
      (∀ p, files.node p ≠ none → r.1.node p = files.node p) ∧
      (∀ p, files.node p = none → r.1.node p ≠ none →
        p <+: parentNames dir ∧ r.1.node p = some .directory) ∧
      (r.2 = 0 → r.1.node (parentNames dir) ≠ none ∧
        ∀ p, p <+: parentNames dir → p ≠ parentNames dir → r.1.node p = some .directory) ∧
      (r.2 = 0 ∨ r.2 = -1)) ∧
    ((mkdirP (fun _ => false) dir files).2 = 0 ↔ NoLeafBefore files (parentNames dir)) := by
  have hdirs (fails : ℕ → Bool) (hret : (mkdirP fails dir files).2 = 0) (p : List (List UInt8))
      (hp : p <+: parentNames dir) (hne : p ≠ parentNames dir) :
      (mkdirP fails dir files).1.node p = some .directory := by
    obtain ⟨-, -, hmade⟩ := mkdirP_made fails dir files
    exact FileTree.directory_of_prefix _ (hmade hret).reached hp hne
  constructor
  · intro fails r
    obtain ⟨hwithin, hret, hmade⟩ := mkdirP_made fails dir files
    exact ⟨hwithin.kept, hwithin.made, fun h0 => ⟨(hmade h0).reached, hdirs fails h0⟩, hret⟩
  · constructor
    · intro hret p hp hne
      obtain ⟨hwithin, -, -⟩ := mkdirP_made (fun _ => false) dir files
      by_cases hold : files.node p = none
      · exact Or.inl hold
      · right
        rw [← hwithin.kept p hold]
        exact hdirs _ hret p hp hne
    · exact mkdirP_ok dir

end ContainerManager

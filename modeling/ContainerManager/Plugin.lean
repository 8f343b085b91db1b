import ContainerManager.Workqueue
import ContainerManager.Lib.CString
import ContainerManager.Lib.Tokens

/-!
# Arguments of the worker plugins

`cm_worker_set_args` of the three plugins in `plugin/`. Each of them looks for the device in a
string of options that are separated by blanks; their bodies are the same.
-/

namespace ContainerManager

namespace Plugin

/-- `struct s_fsck_plugin`, `struct s_mkfs_plugin` and `struct s_erase_mkfs_plugin`. -/
structure PluginHandle where
  blkdevPath : Option String := none
  cancelRequest : ℤ := 0
deriving DecidableEq, Repr

/-- `cstr_option_device`. -/
def cstrOptionDevice : String := "device="

/-- The option names a device. -/
def namesDevice (substr : List Char) : Bool :=
  cstrOptionDevice.toList <+: substr ∧ cstrOptionDevice.length < substr.length

/-- The device that the option names. -/
def optionDevice (substr : List Char) : String :=
  String.ofList (substr.drop cstrOptionDevice.length)

/-- The loop of `cm_worker_set_args`, given its number of passes and the answer of `strtok_r`. -/
def deviceLoop : ℕ → Option (List Char × List Char) → Option String
  | 0, _ => none
  | _ + 1, none => none
  | i + 1, some (substr, saveptr) =>
    if namesDevice substr then some (optionDevice substr)
    else deviceLoop i (Tokens.next ' ' saveptr)

/-- The common body of the plugins' `cm_worker_set_args`, whose buffer is of this size. -/
def setDeviceArgs (bufferSize : ℕ) (handle : PluginHandle) (argStr : String) : PluginHandle × ℤ :=
  if bufferSize ≤ argStr.utf8ByteSize then (handle, -1)
  else
    match deviceLoop 1024 (Tokens.next ' ' argStr.toList) with
    | none => (handle, -1)
    | some device => ({ handle with blkdevPath := some device }, 0)

/-- `cm_worker_set_args` of `fsck-plugin.c`. -/
def Fsck.cmWorkerSetArgs : PluginHandle → String → PluginHandle × ℤ := setDeviceArgs 1024

/-- `cm_worker_set_args` of `mkfs-plugin.c`. -/
def Mkfs.cmWorkerSetArgs : PluginHandle → String → PluginHandle × ℤ := setDeviceArgs 1024

/-- `cm_worker_set_args` of `erase-mkfs-plugin.c`. -/
def EraseMkfs.cmWorkerSetArgs : PluginHandle → String → PluginHandle × ℤ := setDeviceArgs 1024

/-- The `set_args` of the instances that a plugin file creates. -/
def setArgs (module : String) : PluginHandle → String → PluginHandle × ℤ :=
  if module = "cm-worker-fsck.so" then Fsck.cmWorkerSetArgs
  else if module = "cm-worker-erase-mkfs.so" then EraseMkfs.cmWorkerSetArgs
  else Mkfs.cmWorkerSetArgs

/-- All plugins take their arguments the same way. -/
lemma setArgs_eq (module : String) : setArgs module = setDeviceArgs 1024 := by
  simp only [setArgs]
  split_ifs <;> rfl

/-! ### What is taken for the device -/

/-- The loop finds the first option that names a device. -/
lemma deviceLoop_eq {i : ℕ} {s : List Char} (h : (Tokens.words ' ' s).length ≤ i) :
    deviceLoop i (Tokens.next ' ' s) =
      ((Tokens.words ' ' s).find? namesDevice).map optionDevice := by
  induction i generalizing s with
  | zero =>
    rw [List.length_eq_zero_iff.mp (Nat.le_zero.mp h)]
    rfl
  | succ i ih =>
    rw [Tokens.words_eq_next] at h ⊢
    cases hn : Tokens.next ' ' s with
    | none => rfl
    | some r =>
      obtain ⟨substr, saveptr⟩ := r
      rw [hn] at h
      dsimp only at h ⊢
      simp only [deviceLoop]
      cases hd : namesDevice substr with
      | true => simp [hd]
      | false =>
        rw [List.find?_cons_of_neg (by simp [hd]), if_neg (by simp)]
        exact ih (Nat.le_of_succ_le_succ h)

lemma length_le_utf8ByteSize (s : String) : s.toList.length ≤ s.utf8ByteSize := by
  have key : ∀ l : List Char, l.length ≤ (String.ofList l).utf8ByteSize := by
    intro l
    induction l with
    | nil => simp
    | cons c l ih =>
      rw [CString.utf8ByteSize_cons, List.length_cons, add_comm]
      exact Nat.add_le_add c.utf8Size_pos ih
  simpa using key s.toList

/-- The device is that of the first option that names one; without such an option nothing is set. -/
lemma setDeviceArgs_eq {handle : PluginHandle} {argStr : String} (h : argStr.utf8ByteSize < 1024) :
    setDeviceArgs 1024 handle argStr =
      match (Tokens.words ' ' argStr.toList).find? namesDevice with
      | none => (handle, -1)
      | some substr => ({ handle with blkdevPath := some (optionDevice substr) }, 0) := by
  have hwords : (Tokens.words ' ' argStr.toList).length ≤ 1024 :=
    Tokens.length_words_le.trans ((length_le_utf8ByteSize argStr).trans h.le)
  rw [setDeviceArgs, if_neg (not_le.mpr h), deviceLoop_eq hwords]
  cases (Tokens.words ' ' argStr.toList).find? namesDevice <;> rfl

end Plugin

end ContainerManager

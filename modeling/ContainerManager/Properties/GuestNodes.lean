import ContainerManager.Properties.Directories
import ContainerManager.Properties.EventDelivery

/-!
# The device nodes of a guest

Whatever the uevents of all guests do to the root file system of a process, a device node in it is
the one that the last work on its path added. What is worked on elsewhere does not touch it.
-/

namespace ContainerManager

open Relation

variable {n : ℕ}

/-! ### Moves of the world -/

/-- The child process can enter the root, and can remove a node. -/
def NodeSys.Enters (sys : NodeSys) : Prop := sys.chroot ∧ sys.chdir ∧ ¬ sys.unlinkFails

/-- What the handling of uevents is made of. -/
inductive DeviceMove : DeviceWorld n → DeviceWorld n → Prop where
  | guests (w : DeviceWorld n) (guests : Fin n → DynamicGuest) :
      DeviceMove w { w with guests := guests }
  | write (w : DeviceWorld n) (i : Fin n) (path value : CString) :
      DeviceMove w (w.record i (.write path value))
  | inject (w : DeviceWorld n) (i : Fin n) (pid : ℤ) (packet : NetlinkPacket) :
      DeviceMove w (w.record i (.inject pid packet))
  | node (w : DeviceWorld n) (sys : NodeSys) (henters : sys.Enters) (i : Fin n) (pid : ℤ)
      (path : Option CString) (isAdd : Bool) (devnum : ℤ × ℤ) :
      DeviceMove w (lxcutilAddRemoveGuestNode sys i pid path isAdd devnum w).1

lemma writePaths_moves (i : Fin n) (value : CString) (paths : List CString) (w : DeviceWorld n) :
    ReflTransGen DeviceMove w (writePaths i value paths w).1 := by
  induction paths generalizing w with
  | nil => exact .refl
  | cons path paths ih =>
    simp only [writePaths]
    split_ifs
    · exact .refl
    · exact .head (.write w i path value) (ih _)

lemma cgroupDeviceOperation_moves (i : Fin n) (isAdd : Bool) (value : CString)
    (w : DeviceWorld n) :
    ReflTransGen DeviceMove w (lxcutilCgroupDeviceOperation i isAdd value w).1 := by
  simp only [lxcutilCgroupDeviceOperation]
  split_ifs
  · exact .refl
  · exact writePaths_moves i value _ w

lemma allowDevice_moves (i : Fin n) (lddr : DynamicDeviceRequest) (w : DeviceWorld n) :
    ReflTransGen DeviceMove w (allowDevice i lddr w).1 := by
  simp only [allowDevice]
  split_ifs
  all_goals first | exact .refl | exact cgroupDeviceOperation_moves i _ _ w

lemma createDeviceNode_moves {sys : OperationSys} (henters : sys.node.Enters) (i : Fin n)
    (lddr : DynamicDeviceRequest) (w : DeviceWorld n) :
    ReflTransGen DeviceMove w (createDeviceNode sys i lddr w).1 := by
  simp only [createDeviceNode]
  by_cases hdo : lddr.isCreateNode ∧ lddr.operation.IsAddRemove
  · rw [if_pos hdo]
    have hpid : DeviceMove w (w.getInitPid sys.initPid i).1 := .guests w _
    have hnode := DeviceMove.node (w.getInitPid sys.initPid i).1 sys.node henters i
      (w.getInitPid sys.initPid i).2 lddr.devnode (lddr.operation = .add)
      (lddr.devMajor, lddr.devMinor)
    split_ifs <;> exact .tail (.single hpid) hnode
  · rw [if_neg hdo]

lemma dynamicDeviceOperation_moves {sys : OperationSys} (henters : sys.node.Enters) (i : Fin n)
    (lddr : DynamicDeviceRequest) (w : DeviceWorld n) :
    ReflTransGen DeviceMove w (lxcutilDynamicDeviceOperation sys i lddr w).1 := by
  simp only [lxcutilDynamicDeviceOperation]
  have hallow := allowDevice_moves i lddr w
  split_ifs
  · exact .refl
  · exact .refl
  · exact .refl
  · exact hallow
  · exact hallow.trans (createDeviceNode_moves henters i lddr _)

lemma injectionToPid_moves (sys : InjectSys) (i : Fin n) (pid : ℤ) (message : List UInt8)
    (w : DeviceWorld n) :
    ReflTransGen DeviceMove w (ueventInjectionToPid sys i pid message w).1 := by
  simp only [ueventInjectionToPid]
  cases (ueventInjectionChild sys message).1 with
  | none => split_ifs <;> exact .refl
  | some packet =>
    have hsend : ReflTransGen DeviceMove w (w.record i (.inject pid packet)) :=
      .single (.inject w i pid packet)
    split_ifs
    all_goals first | exact .refl | exact hsend

lemma behaviorInjection_moves (sys : InjectSys) (i : Fin n) (behavior : DeviceBehavior)
    (udi : UeventDeviceInfo) (le : UdevProperties) (w : DeviceWorld n) :
    ReflTransGen DeviceMove w (behaviorInjection sys i behavior udi le w).1 := by
  simp only [behaviorInjection]
  have hpid : DeviceMove w (w.getInitPid sys.initPid i).1 := .guests w _
  by_cases hinject : behavior.injection = true
  · rw [if_pos hinject]
    cases (deviceControlDynamicUdevCreateInjectionMessage (fun _ => 0) udi le).2 with
    | none => exact .refl
    | some used =>
      dsimp only
      have hmsg := injectionToPid_moves sys i (w.getInitPid sys.initPid i).2
        (CString.load (deviceControlDynamicUdevCreateInjectionMessage (fun _ => 0) udi le).1.mem
          used) (w.getInitPid sys.initPid i).1
      split_ifs
      · exact .head hpid hmsg
      · exact .head hpid hmsg
      · exact .single hpid
  · rw [if_neg hinject]

lemma applyBehavior_moves {sys : DeveventSys} (henters : sys.operation.node.Enters) (i : Fin n)
    (behavior : DeviceBehavior) (info : UeventDeviceInfo × DynamicDeviceRequest)
    (le : UdevProperties) (w : DeviceWorld n) :
    ReflTransGen DeviceMove w (applyBehavior sys i behavior info le w).1 := by
  have hop : ReflTransGen DeviceMove w (behaviorOperation sys.operation i behavior info.2 w).1 := by
    simp only [behaviorOperation]
    split_ifs
    · exact dynamicDeviceOperation_moves henters i _ w
    · exact .refl
  simp only [applyBehavior]
  split_ifs
  · exact hop
  · exact hop.trans (behaviorInjection_moves sys.inject i behavior _ le _)

/-- The roots can be entered in whatever this action does. -/
def DeviceAction.Enters : DeviceAction n → Prop
  | .uevent _ sys => sys.operation.node.Enters
  | .guests _ => True

lemma DeviceWorld.step_moves (w : DeviceWorld n) {a : DeviceAction n} (henters : a.Enters) :
    ReflTransGen DeviceMove w (w.step a) := by
  cases a with
  | guests guests => exact .single (.guests w guests)
  | uevent pdev sys =>
    cases pdev with
    | none => exact .refl
    | some pdev =>
      simp only [DeviceWorld.step, deviceControlDynamicUdevDevevent]
      by_cases hne : pdev.properties = []
      · rw [if_pos hne]
      · rw [if_neg hne]
        cases deviceControlDynamicUdevGetTargetContainer (fun i => (w.guests i).toDeviceGuest)
            (deviceControlDynamicUdevCreateInfo pdev.properties).1 pdev with
        | error err => exact .refl
        | ok target =>
          cases target with
          | none => exact .refl
          | some target =>
            obtain ⟨i, found⟩ := target
            cases found with
            | none => exact .refl
            | some ref => exact applyBehavior_moves henters i _ _ _ w

/-! ### The last work on a node -/

/-- The last work on the node of these names in the root of a process: whether it was added, and the
node. -/
def lastWork (pid : ℤ) (names : List (List UInt8)) (effects : List (Fin n × DeviceEffect)) :
    Option (Bool × DeviceNode) :=
  effects.foldl (fun last e => match e.2 with
    | .node root (some path) isAdd made =>
      if root = pid ∧ pathNames path = names then some (isAdd, made) else last
    | _ => last) none

/-- The leaf is the one of the last work on it, or it was there and not worked on. -/
def LeafFrom (initial files : Files) (names : List (List UInt8)) :
    Option (Bool × DeviceNode) → Prop
  | none => ∀ made, files.node names = some (.leaf made) ↔ initial.node names = some (.leaf made)
  | some (isAdd, added) => ∀ made, files.node names = some (.leaf made) →
      isAdd = true ∧ made = added

/-- All leaves of all roots are as their last work says. -/
def LeavesAgree (roots : ℤ → Files) (w : DeviceWorld n) : Prop :=
  ∀ pid names, LeafFrom (roots pid) (w.roots pid) names (lastWork pid names w.effects)

lemma MadeWithin.leaf_iff {files files' : Files} {text : List UInt8}
    (h : MadeWithin files text files') (names : List (List UInt8)) (made : DeviceNode) :
    files'.node names = some (.leaf made) ↔ files.node names = some (.leaf made) := by
  by_cases hold : files.node names = none
  · constructor
    · intro hleaf
      have hdir := (h.made names hold (by simp [hleaf])).2
      simp [hleaf] at hdir
    · intro hleaf
      simp [hold] at hleaf
  · rw [h.kept names hold]

/-- The files the child process leaves: it removes, and for an addition it then makes the
directories and the node, unless one of these fails. -/
lemma child_files {sys : NodeSys} (henters : sys.Enters) (path : CString) (isAdd : Bool)
    (made : DeviceNode) (files : Files) :
    let removed := files.unlink (pathNames path)
    let dirs := (mkdirP sys.mkdirFails (path.take (pathMax - 1)) removed).1
    let files' := (lxcutilAddRemoveGuestNodeChild sys (some path) isAdd made files).1
    files' = removed ∨ files' = dirs ∨
      isAdd = true ∧ files' = (dirs.create sys.mknodFails (pathNames path) (.leaf made)).1 := by
  obtain ⟨hroot, hdir, hunlink⟩ := henters
  rw [Bool.not_eq_true] at hunlink
  simp only [lxcutilAddRemoveGuestNodeChild, hroot, hdir, hunlink, not_true, if_false,
    Bool.false_eq_true]
  by_cases hadd : isAdd = true
  · rw [if_neg (not_not.mpr hadd)]
    split_ifs
    · exact Or.inr (Or.inl rfl)
    · exact Or.inr (Or.inr ⟨hadd, rfl⟩)
    · exact Or.inr (Or.inr ⟨hadd, rfl⟩)
  · rw [if_pos hadd]
    exact Or.inl rfl

/-- The child process leaves the leaves of other paths as they are, and at its own path none but the
one it adds. -/
lemma child_leaf {sys : NodeSys} (henters : sys.Enters) (path : CString) (isAdd : Bool)
    (made : DeviceNode) (files : Files) (names : List (List UInt8)) (other : DeviceNode) :
    let files' := (lxcutilAddRemoveGuestNodeChild sys (some path) isAdd made files).1
    (names ≠ pathNames path →
      (files'.node names = some (.leaf other) ↔ files.node names = some (.leaf other))) ∧
    (names = pathNames path → files'.node names = some (.leaf other) →
      isAdd = true ∧ other = made) := by
  have hremoved : (files.unlink (pathNames path)).node names = some (.leaf other) ↔
      names ≠ pathNames path ∧ files.node names = some (.leaf other) := by
    rw [FileTree.unlink_node]
    by_cases hname : names = pathNames path
    · subst hname
      by_cases hd : files.node (pathNames path) = some .directory <;> simp [hd]
    · simp [hname]
  have hdirs := ((mkdirP_made sys.mkdirFails (path.take (pathMax - 1))
    (files.unlink (pathNames path))).1.leaf_iff names other).trans hremoved
  rcases child_files henters path isAdd made files with h | h | ⟨hadd, h⟩ <;> simp only [h]
  · exact ⟨fun hname => by rw [hremoved, and_iff_right hname],
      fun hname hleaf => absurd hname (hremoved.mp hleaf).1⟩
  · exact ⟨fun hname => by rw [hdirs, and_iff_right hname],
      fun hname hleaf => absurd hname (hdirs.mp hleaf).1⟩
  · rw [FileTree.create_node]
    split_ifs with hmade
    · refine ⟨fun hname => absurd hmade.2 hname, fun _ hleaf => ⟨hadd, ?_⟩⟩
      simpa using hleaf.symm
    · exact ⟨fun hname => by rw [hdirs, and_iff_right hname],
        fun hname hleaf => absurd hname (hdirs.mp hleaf).1⟩

/-- Without a path nothing happens. -/
lemma child_none {sys : NodeSys} (isAdd : Bool) (made : DeviceNode) (files : Files) :
    (lxcutilAddRemoveGuestNodeChild sys none isAdd made files).1 = files := by
  simp only [lxcutilAddRemoveGuestNodeChild]
  split_ifs <;> rfl

/-! ### Runs -/

lemma lastWork_concat (pid : ℤ) (names : List (List UInt8)) (effects : List (Fin n × DeviceEffect))
    (i : Fin n) (effect : DeviceEffect) : lastWork pid names (effects ++ [(i, effect)]) =
      match effect with
      | .node root (some path) isAdd made =>
        if root = pid ∧ pathNames path = names then some (isAdd, made)
        else lastWork pid names effects
      | _ => lastWork pid names effects := by
  simp only [lastWork, List.foldl_append, List.foldl_cons, List.foldl_nil]

lemma LeafFrom.congr {initial files files' : Files} {names : List (List UInt8)}
    {last : Option (Bool × DeviceNode)} (h : LeafFrom initial files names last)
    (heq : ∀ made, files'.node names = some (.leaf made) ↔ files.node names = some (.leaf made)) :
    LeafFrom initial files' names last := by
  match last with
  | none => exact fun made => (heq made).trans (h made)
  | some (isAdd, added) => exact fun made hleaf => h made ((heq made).mp hleaf)

lemma addRemoveGuestNode_agrees {roots : ℤ → Files} {w : DeviceWorld n} (h : LeavesAgree roots w)
    {sys : NodeSys} (henters : sys.Enters) (i : Fin n) (pid : ℤ) (path : Option CString)
    (isAdd : Bool) (devnum : ℤ × ℤ) :
    LeavesAgree roots (lxcutilAddRemoveGuestNode sys i pid path isAdd devnum w).1 := by
  simp only [lxcutilAddRemoveGuestNode]
  generalize DeviceNode.mk _ devnum = made
  -- what the child process leaves, and the record of it
  have hchild : LeavesAgree roots (DeviceWorld.record ⟨w.guests, Function.update w.roots pid
      (lxcutilAddRemoveGuestNodeChild sys path isAdd made (w.roots pid)).1, w.effects⟩ i
        (.node pid path isAdd made)) := by
    intro root names
    simp only [DeviceWorld.record]
    rw [lastWork_concat]
    cases path with
    | none =>
      rw [child_none, Function.update_eq_self]
      exact h root names
    | some path =>
      dsimp only
      by_cases hroot : root = pid
      · subst hroot
        rw [Function.update_self]
        by_cases hname : names = pathNames path
        · rw [if_pos ⟨rfl, hname.symm⟩]
          intro other
          exact (child_leaf henters path isAdd made (w.roots root) names other).2 hname
        · rw [if_neg (fun e => hname e.2.symm)]
          apply (h root names).congr
          intro other
          exact (child_leaf henters path isAdd made (w.roots root) names other).1 hname
      · rw [Function.update_of_ne hroot, if_neg (fun e => hroot e.1.symm)]
        exact h root names
  split_ifs
  all_goals first | exact h | exact hchild

lemma DeviceMove.agrees {roots : ℤ → Files} {w w' : DeviceWorld n} (hmove : DeviceMove w w')
    (h : LeavesAgree roots w) : LeavesAgree roots w' := by
  cases hmove with
  | guests guests => exact h
  | write i path value =>
    intro pid names
    simp only [DeviceWorld.record, lastWork_concat]
    exact h pid names
  | inject i root packet =>
    intro pid names
    simp only [DeviceWorld.record, lastWork_concat]
    exact h pid names
  | node sys henters i pid path isAdd devnum =>
    exact addRemoveGuestNode_agrees h henters i pid path isAdd devnum

/-- After every run whose child processes can enter the roots and remove nodes, a device node in a
root is the one that the last work on its path added; after a removal there is none. A path that was
never worked on has the node it had, also where directories were made. -/
theorem leaves_mirror_work {w : DeviceWorld n} (hstart : w.effects = [])
    {as : List (DeviceAction n)} (henters : ∀ a ∈ as, a.Enters) (pid : ℤ)
    (names : List (List UInt8)) :
    let w' := Transition.run DeviceWorld.step w as
    LeafFrom (w.roots pid) (w'.roots pid) names (lastWork pid names w'.effects) := by
  have hguard : Transition.Guarded DeviceWorld.step (fun _ a => a.Enters) w as :=
    Transition.guarded_of_mem henters
  have hinit : LeavesAgree w.roots w := by
    intro pid names
    rw [hstart]
    exact fun made => Iff.rfl
  have hrun := Transition.run_invariant_of_guarded (I := LeavesAgree w.roots)
    (fun w a ha h => Transition.reflTransGen_invariant
      (fun _ _ hmove hagree => hmove.agrees hagree) (w.step_moves ha) h) hinit hguard
  exact hrun pid names

/-- The names of the node of the serial device. -/
def serialNames : List (List UInt8) := pathNames (.ofString "/dev/ttyUSB0")

theorem serialNode_mirrored :
    let w' := Transition.run DeviceWorld.step serialWorld [.uevent (some serialDevice) serialSys]
    LeafFrom (serialWorld.roots 1234) (w'.roots 1234) serialNames
      (lastWork 1234 serialNames w'.effects) ∧
    (w'.roots 1234).node serialNames = some (.leaf ⟨8624, (188, 0)⟩) :=
  ⟨leaves_mirror_work rfl (by simp [DeviceAction.Enters, NodeSys.Enters, serialSys]) 1234
    serialNames, by decide +kernel⟩

end ContainerManager

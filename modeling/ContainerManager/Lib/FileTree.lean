import Mathlib.Data.List.Basic
import Mathlib.Data.List.Induction
import Mathlib.Logic.Function.Basic
import Mathlib.Tactic.Common

/-!
# File trees

A path is cut at its slashes into the names between them. A file tree has a node for some of the
paths: a directory, or a leaf with its content. The root is a directory, and so is the parent of
every node. Nodes are created below a directory where there is none, and leaves are removed. No name
stands for another directory.
-/

/-! ### Paths -/

namespace Path

variable {α : Type*} [DecidableEq α]

/-- The names that are complete, and the name that is being read. -/
structure Scan (α : Type*) where
  names : List (List α) := []
  current : List α := []

/-- Read one character of a path. -/
def Scan.read (slash : α) (s : Scan α) (c : α) : Scan α :=
  if c = slash then ⟨if s.current = [] then s.names else s.names ++ [s.current], []⟩
  else ⟨s.names, s.current ++ [c]⟩

/-- Read a text. -/
def scan (slash : α) (text : List α) : Scan α := text.foldl (Scan.read slash) {}

/-- The names of a path. -/
def components (slash : α) (text : List α) : List (List α) :=
  let s := scan slash text
  if s.current = [] then s.names else s.names ++ [s.current]

/-- The names in front of the last slash. -/
def parents (slash : α) (text : List α) : List (List α) := (scan slash text).names

variable (slash : α) (text : List α)

@[simp] lemma scan_nil : scan slash [] = {} := rfl

lemma scan_concat (c : α) : scan slash (text ++ [c]) = (scan slash text).read slash c := by
  simp [scan, List.foldl_append]

/-- Reading a slash completes the name. -/
lemma scan_slash : scan slash (text ++ [slash]) = ⟨components slash text, []⟩ := by
  simp [scan_concat, Scan.read, components]

lemma scan_other {c : α} (h : c ≠ slash) : (scan slash (text ++ [c])).names =
    (scan slash text).names := by
  simp [scan_concat, Scan.read, h]

lemma parents_slash : parents slash (text ++ [slash]) = components slash text := by
  rw [parents, scan_slash]

lemma parents_other {c : α} (h : c ≠ slash) : parents slash (text ++ [c]) = parents slash text :=
  scan_other slash text h

/-- A path has one name more than its parents, or it ends with a slash. -/
lemma components_eq : components slash text = parents slash text ∨
    ∃ name, components slash text = parents slash text ++ [name] := by
  simp only [components, parents]
  split_ifs
  · exact Or.inl rfl
  · exact Or.inr ⟨_, rfl⟩

end Path

/-! ### Trees -/

/-- A node of a file tree. -/
inductive FileNode (δ : Type*) where
  | directory
  | leaf (content : δ)
deriving DecidableEq

/-- The nodes by their path. -/
structure FileTree (ν δ : Type*) where
  node : List ν → Option (FileNode δ)
  root : node [] = some .directory
  parents : ∀ p a, node (p ++ [a]) ≠ none → node p = some .directory

/-- Why a node is not created. -/
inductive CreateError where
  /-- `EEXIST` -/
  | exists
  | other
deriving DecidableEq, Repr

namespace FileTree

variable {ν δ : Type*} [DecidableEq ν] [DecidableEq δ]

/-- A tree with a root only. -/
def empty : FileTree ν δ where
  node p := if p = [] then some .directory else none
  root := rfl
  parents p a h := by simp at h

/-- Add a node below a directory. -/
def add (t : FileTree ν δ) (p : List ν) (x : FileNode δ) (hnone : t.node p = none)
    (hparent : t.node p.dropLast = some .directory) : FileTree ν δ where
  node := Function.update t.node p (some x)
  root := by
    have hp : [] ≠ p := by
      rintro rfl
      simp [t.root] at hnone
    rw [Function.update_of_ne hp]
    exact t.root
  parents q a h := by
    have hq : q ≠ p := by
      rintro rfl
      rw [Function.update_of_ne (by simp)] at h
      simp [t.parents _ _ h] at hnone
    rw [Function.update_of_ne hq]
    by_cases hqa : q ++ [a] = p
    · rw [← hqa, List.dropLast_concat] at hparent
      exact hparent
    · rw [Function.update_of_ne hqa] at h
      exact t.parents q a h

/-- Create a node; `fails` is any other reason not to. That the node exists is said first. -/
def create (t : FileTree ν δ) (fails : Bool) (p : List ν) (x : FileNode δ) :
    FileTree ν δ × Option CreateError :=
  if hnone : t.node p = none then
    if hparent : t.node p.dropLast = some .directory ∧ ¬ fails then
      (t.add p x hnone hparent.1, none)
    else (t, some .other)
  else (t, some .exists)

/-- Remove a leaf. -/
def unlink (t : FileTree ν δ) (p : List ν) : FileTree ν δ :=
  if hp : t.node p = some .directory then t
  else
    { node := Function.update t.node p none
      root := by
        have hne : [] ≠ p := by
          rintro rfl
          exact hp t.root
        rw [Function.update_of_ne hne]
        exact t.root
      parents := by
        intro q a h
        have hqa : q ++ [a] ≠ p := by
          rintro rfl
          simp at h
        rw [Function.update_of_ne hqa] at h
        have hdir := t.parents q a h
        have hq : q ≠ p := by
          rintro rfl
          exact hp hdir
        rw [Function.update_of_ne hq]
        exact hdir }

variable (t : FileTree ν δ) (fails : Bool) (p : List ν) (x : FileNode δ)

/-! ### Creating -/

/-- A node that is created is there; where it is not, nothing changes. -/
lemma create_node (q : List ν) : (t.create fails p x).1.node q =
    if (t.create fails p x).2 = none ∧ q = p then some x else t.node q := by
  simp only [create]
  split_ifs <;> simp_all [add, Function.update_of_ne]

lemma create_eq_none_iff : (t.create fails p x).2 = none ↔
    t.node p = none ∧ t.node p.dropLast = some .directory ∧ fails = false := by
  simp only [create]
  split_ifs with hnone hparent
  · simpa [hnone] using hparent
  · simpa [hnone] using hparent
  · simp [hnone]

lemma create_eq_exists_iff : (t.create fails p x).2 = some .exists ↔ t.node p ≠ none := by
  simp only [create]
  split_ifs with hnone hparent <;> simp [hnone]

/-- A node that is there stays as it is. -/
lemma create_node_of_some {q : List ν} (h : t.node q ≠ none) :
    (t.create fails p x).1.node q = t.node q := by
  rw [create_node, if_neg]
  rintro ⟨hnone, rfl⟩
  exact h ((create_eq_none_iff t fails q x).mp hnone).1

/-- Unless it fails for another reason, there is a node afterwards. -/
lemma create_node_ne_none (h : (t.create fails p x).2 ≠ some .other) :
    (t.create fails p x).1.node p ≠ none := by
  rw [create_node]
  split_ifs with hnone
  · simp
  · rw [not_and_or] at hnone
    have hsome : (t.create fails p x).2 ≠ none := by simpa using hnone
    have hexists : (t.create fails p x).2 = some .exists := by
      revert h hsome
      rcases (t.create fails p x).2 with _ | ⟨_ | _⟩ <;> simp
    exact (create_eq_exists_iff t fails p x).mp hexists

/-! ### Removing -/

lemma unlink_node (q : List ν) : (t.unlink p).node q =
    if q = p ∧ t.node p ≠ some .directory then none else t.node q := by
  simp only [unlink]
  split_ifs with hdir hq hq
  · exact absurd hdir hq.2
  · rfl
  · simp [hq.1]
  · have hne : q ≠ p := fun e => hq ⟨e, hdir⟩
    simp [Function.update_of_ne hne]

/-! ### Ancestors -/

omit [DecidableEq δ] in
/-- Every path in front of a node is a directory. -/
lemma directory_of_prefix {q : List ν} (h : t.node q ≠ none) {p : List ν} (hp : p <+: q)
    (hne : p ≠ q) : t.node p = some .directory := by
  induction q using List.reverseRecOn with
  | nil => exact absurd (List.prefix_nil.mp hp) hne
  | append_singleton q a ih =>
    have hdir := t.parents q a h
    rcases List.prefix_concat_iff.mp hp with rfl | hpq
    · exact absurd rfl hne
    · by_cases hpq' : p = q
      · rw [hpq', hdir]
      · exact ih (by simp [hdir]) hpq hpq'

end FileTree

import Mathlib.Order.CompletePartialOrder
import Mathlib.Data.Setoid.Basic

/-! # Classes kept by parent pointers

Every index points to its parent, a root to itself. Two indices are in one class if they have the
same root. A search for a root lets the indices on its way point to their grandparents. -/

namespace ParentPointers

variable {ι : Type*}

/-- `child` is no root, and `parent` is what it points to. -/
def IsParent (parents : ι → ι) (parent child : ι) : Prop :=
  parents child = parent ∧ parent ≠ child

variable (ι) in
/-- No index is above itself. -/
structure Forest where
  parents : ι → ι
  wellFounded : WellFounded (IsParent parents)

namespace Forest

def discrete : Forest ι where
  parents index := index
  wellFounded := ⟨fun index => ⟨index, fun _ h => absurd h.1 h.2.symm⟩⟩

variable (forest : Forest ι)

theorem isParent {index : ι} (h : forest.parents index ≠ index) :
    IsParent forest.parents (forest.parents index) index := ⟨rfl, h⟩

theorem induction {motive : ι → Prop} (root : ∀ index, forest.parents index = index → motive index)
    (child : ∀ index, forest.parents index ≠ index → motive (forest.parents index) → motive index)
    (index : ι) : motive index := by
  induction index using forest.wellFounded.induction with
  | h index ih =>
    by_cases hroot : forest.parents index = index
    · exact root index hroot
    · exact child index hroot (ih _ (forest.isParent hroot))

variable [DecidableEq ι]

/-! ## Roots -/

def root : ι → ι :=
  forest.wellFounded.fix fun index above =>
    if h : forest.parents index = index then index
    else above (forest.parents index) (forest.isParent h)

/-- How many indices are above this one. -/
noncomputable def depth : ι → ℕ :=
  forest.wellFounded.fix fun index above =>
    if h : forest.parents index = index then 0
    else above (forest.parents index) (forest.isParent h) + 1

variable {forest} {index other : ι}

theorem root_of_root (h : forest.parents index = index) : forest.root index = index := by
  rw [root, WellFounded.fix_eq, dif_pos h]

theorem root_parents : forest.root (forest.parents index) = forest.root index := by
  by_cases h : forest.parents index = index
  · rw [h]
  · conv_rhs => rw [root, WellFounded.fix_eq, dif_neg h]
    rfl

theorem depth_of_root (h : forest.parents index = index) : forest.depth index = 0 := by
  rw [depth, WellFounded.fix_eq, dif_pos h]

theorem depth_of_child (h : forest.parents index ≠ index) :
    forest.depth index = forest.depth (forest.parents index) + 1 := by
  conv_lhs => rw [depth, WellFounded.fix_eq, dif_neg h]
  rfl

theorem depth_parents_le : forest.depth (forest.parents index) ≤ forest.depth index := by
  by_cases h : forest.parents index = index
  · rw [h]
  · rw [depth_of_child h]
    omega

@[simp] theorem parents_root (forest : Forest ι) (index : ι) :
    forest.parents (forest.root index) = forest.root index := by
  induction index using forest.induction with
  | root index hroot => rw [root_of_root hroot, hroot]
  | child index _ ih => rwa [root_parents] at ih

@[simp] theorem root_root (forest : Forest ι) (index : ι) :
    forest.root (forest.root index) = forest.root index := root_of_root (forest.parents_root index)

@[simp] theorem root_discrete (index : ι) : (discrete : Forest ι).root index = index :=
  root_of_root rfl

variable {changed : Forest ι}

theorem root_eq_of_parents
    (hroots : ∀ index, changed.parents index = index → forest.parents index = index)
    (hparents : ∀ index, forest.root (changed.parents index) = forest.root index) (index : ι) :
    changed.root index = forest.root index := by
  induction index using changed.induction with
  | root index hroot => rw [root_of_root hroot, root_of_root (hroots index hroot)]
  | child index _ ih => rw [← root_parents, ih, hparents]

theorem depth_le_of_parents
    (hparents : ∀ index, changed.parents index ≠ index →
      forest.depth (changed.parents index) < forest.depth index) (index : ι) :
    changed.depth index ≤ forest.depth index := by
  induction index using changed.induction with
  | root index hroot =>
    rw [depth_of_root hroot]
    exact Nat.zero_le _
  | child index hchild ih =>
    rw [depth_of_child hchild]
    exact Nat.lt_of_le_of_lt ih (hparents index hchild)

/-! ## Path halving -/

theorem parents_parents_ne (h : forest.parents index ≠ index) :
    forest.parents (forest.parents index) ≠ index := by
  intro hcycle
  have hdepth := depth_of_child h
  have hle := @depth_parents_le ι forest _ (forest.parents index)
  rw [hcycle] at hle
  omega

/-- `index` points to its grandparent. -/
def halve (forest : Forest ι) (index : ι) : Forest ι where
  parents := Function.update forest.parents index (forest.parents (forest.parents index))
  wellFounded := by
    refine Subrelation.wf ?_ forest.wellFounded.transGen
    rintro parent child ⟨hparent, hne⟩
    by_cases hchild : child = index
    · subst hchild
      rw [Function.update_self] at hparent
      subst hparent
      have hmiddle : forest.parents child ≠ child := fun hroot => hne (by rw [hroot, hroot])
      by_cases hgrand : forest.parents (forest.parents child) = forest.parents child
      · rw [hgrand]
        exact .single (forest.isParent hmiddle)
      · exact .tail (.single (forest.isParent hgrand)) (forest.isParent hmiddle)
    · rw [Function.update_of_ne hchild] at hparent
      exact .single ⟨hparent, hne⟩

@[simp] theorem parents_halve_self :
    (forest.halve index).parents index = forest.parents (forest.parents index) :=
  Function.update_self ..

theorem parents_halve_of_ne (h : other ≠ index) :
    (forest.halve index).parents other = forest.parents other := Function.update_of_ne h ..

@[simp] theorem root_halve : (forest.halve index).root other = forest.root other := by
  refine root_eq_of_parents ?_ ?_ other
  · intro child hchild
    by_cases h : child = index
    · subst h
      rw [parents_halve_self] at hchild
      by_contra hne
      exact parents_parents_ne hne hchild
    · rwa [parents_halve_of_ne h] at hchild
  · intro child
    by_cases h : child = index
    · subst h
      rw [parents_halve_self, root_parents, root_parents]
    · rw [parents_halve_of_ne h, root_parents]

theorem depth_halve_le : (forest.halve index).depth other ≤ forest.depth other := by
  refine depth_le_of_parents ?_ other
  intro child hchild
  by_cases h : child = index
  · subst h
    rw [parents_halve_self] at hchild ⊢
    have hne : forest.parents child ≠ child := fun hroot => hchild (by rw [hroot, hroot])
    have hle := @depth_parents_le ι forest _ (forest.parents child)
    rw [depth_of_child hne]
    omega
  · rw [parents_halve_of_ne h] at hchild ⊢
    rw [depth_of_child hchild]
    omega

theorem depth_grandparent_lt (h : forest.parents index ≠ index) :
    (forest.halve index).depth (forest.parents (forest.parents index)) < forest.depth index := by
  have hhalve := @depth_halve_le ι forest _ index (forest.parents (forest.parents index))
  have hle := @depth_parents_le ι forest _ (forest.parents index)
  rw [depth_of_child h]
  omega

/-! ## Search and union -/

def find (forest : Forest ι) (index : ι) : ι × Forest ι :=
  if forest.parents index = index then (index, forest)
  else (forest.halve index).find (forest.parents (forest.parents index))
termination_by forest.depth index
decreasing_by exact depth_grandparent_lt ‹_›

theorem find_fst : (forest.find index).1 = forest.root index := by
  fun_induction find forest index with
  | case1 forest index hroot => rw [root_of_root hroot]
  | case2 forest index _ ih => rw [ih, root_halve, root_parents, root_parents]

@[simp] theorem root_find : (forest.find index).2.root other = forest.root other := by
  fun_induction find forest index with
  | case1 forest index _ => rfl
  | case2 forest index _ ih => rw [ih, root_halve]

/-- The root `right` becomes a child of the root `left`. -/
def link (forest : Forest ι) (left right : ι) (hleft : forest.parents left = left)
    (hne : left ≠ right) : Forest ι where
  parents := Function.update forest.parents right left
  wellFounded := by
    have hacc : Acc (IsParent (Function.update forest.parents right left)) left := by
      refine ⟨left, fun parent h => ?_⟩
      rw [IsParent, Function.update_of_ne hne, hleft] at h
      exact absurd h.1 h.2.symm
    refine ⟨fun index => ?_⟩
    induction index using forest.wellFounded.induction with
    | h index ih =>
      refine ⟨index, fun parent h => ?_⟩
      by_cases hindex : index = right
      · rw [hindex, IsParent, Function.update_self] at h
        exact h.1 ▸ hacc
      · rw [IsParent, Function.update_of_ne hindex] at h
        exact ih parent h

variable {left right : ι}

theorem root_link {hleft : forest.parents left = left} {hne : left ≠ right}
    (hright : forest.parents right = right) :
    (forest.link left right hleft hne).root index =
      if forest.root index = right then left else forest.root index := by
  have hsame : ∀ child, child ≠ right →
      (forest.link left right hleft hne).parents child = forest.parents child :=
    fun child h => Function.update_of_ne h ..
  have hself : (forest.link left right hleft hne).parents right = left := Function.update_self ..
  induction index using forest.induction with
  | root index hroot =>
    rw [root_of_root hroot]
    split_ifs with h
    · rw [h, ← root_parents, hself, root_of_root ((hsame left hne).trans hleft)]
    · exact root_of_root ((hsame index h).trans hroot)
  | child index hchild ih =>
    have hindex : index ≠ right := fun h => hchild (by rw [h, hright])
    rw [← root_parents, hsame index hindex, ih, root_parents]

def union (forest : Forest ι) (left right : ι) : Forest ι :=
  let foundLeft := forest.find left
  let foundRight := foundLeft.2.find right
  if hne : foundLeft.1 ≠ foundRight.1 then
    foundRight.2.link foundLeft.1 foundRight.1 (by
      have hroot := foundRight.2.parents_root left
      rwa [root_find, root_find, ← find_fst] at hroot) hne
  else foundRight.2

theorem root_union : (forest.union left right).root index =
    if forest.root index = forest.root right then forest.root left else forest.root index := by
  have hleft : (forest.find left).1 = forest.root left := find_fst
  have hright : ((forest.find left).2.find right).1 = forest.root right := by
    rw [find_fst, root_find]
  unfold union
  dsimp only
  split_ifs with hne hclass hclass
  · rw [root_link, root_find, root_find, hright, if_pos hclass, hleft]
    have hroot := ((forest.find left).2.find right).2.parents_root right
    rwa [root_find, root_find, ← hright] at hroot
  · rw [root_link, root_find, root_find, hright, if_neg hclass]
    have hroot := ((forest.find left).2.find right).2.parents_root right
    rwa [root_find, root_find, ← hright] at hroot
  · rw [root_find, root_find, hclass, ← hleft, ← hright]
    exact (not_not.mp hne).symm
  · rw [root_find, root_find]

def classes (forest : Forest ι) : Setoid ι := Setoid.ker forest.root

theorem classes_iff {a b : ι} : forest.classes a b ↔ forest.root a = forest.root b := Iff.rfl

theorem classes_discrete : (discrete : Forest ι).classes = ⊥ := by
  ext a b
  rw [classes_iff, root_discrete, root_discrete]
  rfl

theorem classes_root : forest.classes index (forest.root index) := (forest.root_root index).symm

theorem classes_union {related : ι → ι → Prop}
    (h : forest.classes = Relation.EqvGen.setoid related) :
    (forest.union left right).classes =
      Relation.EqvGen.setoid fun a b => related a b ∨ a = left ∧ b = right := by
  apply le_antisymm
  · have hmono : forest.classes ≤
        Relation.EqvGen.setoid fun a b => related a b ∨ a = left ∧ b = right := by
      rw [h]
      exact Setoid.eqvGen_mono fun a b hab => .inl hab
    have hto : ∀ a, Relation.EqvGen.setoid (fun a b => related a b ∨ a = left ∧ b = right) a
        ((forest.union left right).root a) := by
      intro a
      rw [root_union]
      split_ifs with hclass
      · refine Setoid.trans' _ (hmono (classes_iff.mpr hclass)) ?_
        refine Setoid.trans' _ (Setoid.symm' _ ?_) (hmono classes_root)
        exact .rel _ _ (.inr ⟨rfl, rfl⟩)
      · exact hmono classes_root
    intro a b hab
    have hb := hto b
    rw [← classes_iff.mp hab] at hb
    exact Setoid.trans' _ (hto a) (Setoid.symm' _ hb)
  · apply Setoid.eqvGen_le
    rintro a b (hab | ⟨rfl, rfl⟩)
    · have hclass : forest.classes a b := h ▸ .rel _ _ hab
      rw [classes_iff, root_union, root_union, classes_iff.mp hclass]
    · rw [classes_iff, root_union, root_union, if_pos rfl]
      split_ifs <;> rfl

end Forest

end ParentPointers

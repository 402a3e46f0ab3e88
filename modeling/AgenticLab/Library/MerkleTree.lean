import Mathlib.Data.List.Induction
import Mathlib.Data.Set.Function

/-! # Merkle trees over an arbitrary leaf and node hash

Binary trees, their roots, and what a collision-free hash gives: a root determines its tree,
and two roots climbed from one common subtree make one leaf list a prefix of the other. -/

namespace MerkleTree

inductive HashTree (α : Type*) where
  | leaf (entry : α)
  | node (left right : HashTree α)

variable {α δ : Type*}

def HashTree.leaves : HashTree α → List α
  | .leaf entry => [entry]
  | .node left right => left.leaves ++ right.leaves

/-- The two hash calls of a Merkle tree. -/
structure Hash (α δ : Type*) where
  leaf : α → δ
  node : δ → δ → δ

def Hash.root (H : Hash α δ) : HashTree α → δ
  | .leaf entry => H.leaf entry
  | .node left right => H.node (H.root left) (H.root right)

structure Hash.CollisionFree (H : Hash α δ) (entries : Set α) (digests : Set δ) : Prop where
  leaf_mem : ∀ a ∈ entries, H.leaf a ∈ digests
  node_mem : ∀ l ∈ digests, ∀ r ∈ digests, H.node l r ∈ digests
  leaf_injOn : Set.InjOn H.leaf entries
  node_inj : ∀ l ∈ digests, ∀ r ∈ digests, ∀ l' ∈ digests, ∀ r' ∈ digests,
    H.node l r = H.node l' r' → l = l' ∧ r = r'
  leaf_ne_node : ∀ a ∈ entries, ∀ l ∈ digests, ∀ r ∈ digests, H.leaf a ≠ H.node l r

section

variable {H : Hash α δ} {entries : Set α} {digests : Set δ} (hfree : H.CollisionFree entries digests)

include hfree

theorem root_mem {t : HashTree α} (ht : ∀ a ∈ t.leaves, a ∈ entries) : H.root t ∈ digests := by
  induction t with
  | leaf entry => exact hfree.leaf_mem entry (ht entry (by simp [HashTree.leaves]))
  | node left right ihl ihr =>
    refine hfree.node_mem _ (ihl fun a ha => ?_) _ (ihr fun a ha => ?_)
    · exact ht a (List.mem_append_left _ ha)
    · exact ht a (List.mem_append_right _ ha)

theorem root_injective {t t' : HashTree α} (ht : ∀ a ∈ t.leaves, a ∈ entries)
    (ht' : ∀ a ∈ t'.leaves, a ∈ entries) (h : H.root t = H.root t') : t = t' := by
  induction t generalizing t' with
  | leaf entry =>
    have hentry := ht entry (by simp [HashTree.leaves])
    cases t' with
    | leaf entry' =>
      rw [hfree.leaf_injOn hentry (ht' entry' (by simp [HashTree.leaves])) h]
    | node left' right' =>
      simp only [HashTree.leaves, List.mem_append, or_imp, forall_and] at ht'
      exact absurd h (hfree.leaf_ne_node entry hentry _ (root_mem hfree ht'.1) _
        (root_mem hfree ht'.2))
  | node left right ihl ihr =>
    simp only [HashTree.leaves, List.mem_append, or_imp, forall_and] at ht
    have hleft := root_mem hfree ht.1
    have hright := root_mem hfree ht.2
    cases t' with
    | leaf entry' =>
      exact absurd h.symm (hfree.leaf_ne_node entry' (ht' entry' (by simp [HashTree.leaves])) _
        hleft _ hright)
    | node left' right' =>
      simp only [HashTree.leaves, List.mem_append, or_imp, forall_and] at ht'
      obtain ⟨hl, hr⟩ := hfree.node_inj _ hleft _ hright _ (root_mem hfree ht'.1) _
        (root_mem hfree ht'.2) h
      rw [ihl ht.1 ht'.1 hl, ihr ht.2 ht'.2 hr]

theorem root_eq_node {t : HashTree α} (ht : ∀ a ∈ t.leaves, a ∈ entries) {l r : δ} (hl : l ∈ digests)
    (hr : r ∈ digests) (h : H.root t = H.node l r) :
    ∃ left right, t = .node left right ∧ H.root left = l ∧ H.root right = r := by
  cases t with
  | leaf entry =>
    exact absurd h (hfree.leaf_ne_node entry (ht entry (by simp [HashTree.leaves])) l hl r hr)
  | node left right =>
    simp only [HashTree.leaves, List.mem_append, or_imp, forall_and] at ht
    obtain ⟨hleft, hright⟩ := hfree.node_inj _ (root_mem hfree ht.1) _ (root_mem hfree ht.2)
      l hl r hr h
    exact ⟨left, right, rfl, hleft, hright⟩

end

/-! ## Climbing from a common subtree

A step up the tree joins a sibling on the left, where both trees have it, or on the right,
where only the later tree does. -/

inductive Step (δ : Type*) where
  | left (sibling : δ)
  | right (sibling : δ)

def Step.sibling : Step δ → δ
  | .left sibling => sibling
  | .right sibling => sibling

/-- The earlier root has no right siblings. -/
def Hash.climbOld (H : Hash α δ) (hash : δ) : Step δ → δ
  | .left sibling => H.node sibling hash
  | .right _ => hash

def Hash.climbNew (H : Hash α δ) (hash : δ) : Step δ → δ
  | .left sibling => H.node sibling hash
  | .right sibling => H.node hash sibling

section

variable {H : Hash α δ} {entries : Set α} {digests : Set δ} (hfree : H.CollisionFree entries digests)

include hfree

theorem foldl_climb_mem {steps : List (Step δ)} (hsteps : ∀ s ∈ steps, s.sibling ∈ digests)
    {seed : δ} (hseed : seed ∈ digests) :
    steps.foldl H.climbOld seed ∈ digests ∧ steps.foldl H.climbNew seed ∈ digests := by
  induction steps using List.reverseRecOn with
  | nil => exact ⟨hseed, hseed⟩
  | append_singleton steps step ih =>
    obtain ⟨hold, hnew⟩ := ih fun s hs => hsteps s (List.mem_append_left _ hs)
    have hsibling := hsteps step (by simp)
    rw [List.foldl_append, List.foldl_append]
    cases step with
    | left sibling => exact ⟨hfree.node_mem _ hsibling _ hold, hfree.node_mem _ hsibling _ hnew⟩
    | right sibling => exact ⟨hold, hfree.node_mem _ hnew _ hsibling⟩

/-- Whatever the steps are, two trees whose roots they reach from one seed agree: the leaves
of the first begin the leaves of the second. -/
theorem leaves_prefix_of_climb (steps : List (Step δ))
    (hsteps : ∀ s ∈ steps, s.sibling ∈ digests) (seed : δ) (hseed : seed ∈ digests)
    {old new : HashTree α} (hold : ∀ a ∈ old.leaves, a ∈ entries)
    (hnew : ∀ a ∈ new.leaves, a ∈ entries) (hrootOld : H.root old = steps.foldl H.climbOld seed)
    (hrootNew : H.root new = steps.foldl H.climbNew seed) : old.leaves <+: new.leaves := by
  induction steps using List.reverseRecOn generalizing old new with
  | nil =>
    have heq : H.root old = H.root new := hrootOld.trans hrootNew.symm
    obtain rfl := root_injective hfree hold hnew heq
    exact List.prefix_refl _
  | append_singleton steps step ih =>
    have hbelow : ∀ s ∈ steps, s.sibling ∈ digests :=
      fun s hs => hsteps s (List.mem_append_left _ hs)
    obtain ⟨hmemOld, hmemNew⟩ := foldl_climb_mem hfree hbelow hseed
    have hsibling := hsteps step (by simp)
    rw [List.foldl_append] at hrootOld hrootNew
    cases step with
    | left sibling =>
      -- both trees branch, and their left halves have one root
      obtain ⟨oldLeft, oldRight, rfl, hol, hor⟩ :=
        root_eq_node hfree hold hsibling hmemOld hrootOld
      obtain ⟨newLeft, newRight, rfl, hnl, hnr⟩ :=
        root_eq_node hfree hnew hsibling hmemNew hrootNew
      simp only [HashTree.leaves, List.mem_append, or_imp, forall_and] at hold hnew
      rw [root_injective hfree hold.1 hnew.1 (hol.trans hnl.symm)]
      exact (List.prefix_append_right_inj _).mpr (ih hbelow hold.2 hnew.2 hor hnr)
    | right sibling =>
      -- only the new tree branches, and the old one lies in its left half
      obtain ⟨newLeft, newRight, rfl, hnl, -⟩ :=
        root_eq_node hfree hnew hmemNew hsibling hrootNew
      simp only [HashTree.leaves, List.mem_append, or_imp, forall_and] at hnew
      exact (ih hbelow hold hnew.1 hrootOld hnl).trans (List.prefix_append _ _)

end

end MerkleTree

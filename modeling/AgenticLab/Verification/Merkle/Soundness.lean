import AgenticLab.Library.MerkleTree
import AgenticLab.Verification.Merkle.Consistency

/-! # Soundness of consistency proofs

Every run of the verifier's loop climbs from one seed hash to both roots. When the roots
belong to trees, the climb is one of `MerkleTree`, whatever path it was given. -/

namespace AgenticLab.TransparencyMerkle

open MerkleTree

variable {δ : Type*} {H : MerkleHash δ}

def MerkleHash.treeHash (H : MerkleHash δ) : MerkleTree.Hash δ δ := ⟨H.leaf, H.node⟩

/-- Leaf and node hashing have no collisions and disjoint images on valid digests. -/
def MerkleHash.CollisionFree (H : MerkleHash δ) : Prop :=
  H.treeHash.CollisionFree {e | H.isValid e = true} {d | H.isValid d = true}

/-- Digests that are nothing but the hash calls which made them. -/
inductive FreeDigest where
  | entry (number : ℕ)
  | leaf (entryHash : FreeDigest)
  | node (left right : FreeDigest)
  | empty
  deriving DecidableEq

def freeMerkleHash : MerkleHash FreeDigest where
  isValid _ := true
  leaf := .leaf
  node := .node
  empty := .empty
  leaf_valid _ := rfl
  node_valid _ _ := rfl

theorem freeMerkleHash_collisionFree : freeMerkleHash.CollisionFree where
  leaf_mem _ _ := rfl
  node_mem _ _ _ _ := rfl
  leaf_injOn _ _ _ _ h := FreeDigest.leaf.inj h
  node_inj _ _ _ _ _ _ _ _ h := FreeDigest.node.inj h
  leaf_ne_node _ _ _ _ _ _ := FreeDigest.noConfusion

theorem exists_tree (H : MerkleHash δ) (entryHashes : List δ) (hne : entryHashes ≠ []) :
    ∃ t : HashTree δ, t.leaves = entryHashes ∧
      H.treeHash.root t = merkleRootFromLeafHashes H (entryHashes.map H.leaf) := by
  induction hlen : entryHashes.length using Nat.strong_induction_on generalizing entryHashes with
  | _ n ih =>
    match entryHashes, hne with
    | [e], _ => exact ⟨.leaf e, rfl, by simp [Hash.root, MerkleHash.treeHash]⟩
    | first :: second :: rest, _ =>
      have htwo : 2 ≤ (first :: second :: rest).length := by simp
      generalize first :: second :: rest = entryHashes at hlen htwo ⊢
      have hlt := largestPowerOfTwoLessThan_lt _ htwo
      have hpos := largestPowerOfTwoLessThan_pos entryHashes.length
      generalize hsplit : largestPowerOfTwoLessThan entryHashes.length = split at hlt hpos
      have hleftLen : (entryHashes.take split).length = split := by
        rw [List.length_take]; omega
      have hrightLen : (entryHashes.drop split).length = entryHashes.length - split :=
        List.length_drop
      obtain ⟨left, hleft, hleftRoot⟩ := ih split (by omega) (entryHashes.take split)
        (List.ne_nil_of_length_pos (by omega)) hleftLen
      obtain ⟨right, hright, hrightRoot⟩ := ih (entryHashes.length - split) (by omega)
        (entryHashes.drop split) (List.ne_nil_of_length_pos (by omega)) hrightLen
      refine ⟨.node left right, ?_, ?_⟩
      · rw [HashTree.leaves, hleft, hright, List.take_append_drop]
      · have hroot := merkleRootFromLeafHashes_split H (entryHashes.map H.leaf)
          (by rwa [List.length_map])
        rw [List.length_map, hsplit, ← List.map_take, ← List.map_drop, ← hleftRoot,
          ← hrightRoot] at hroot
        exact hroot.symm

theorem exists_tree_of_root {entryHashes : List δ} {root : δ} (hne : entryHashes ≠ [])
    (h : calculateTransparencyMerkleRoot H entryHashes = .ok root) :
    ∃ t : HashTree δ, t.leaves = entryHashes ∧ H.treeHash.root t = root := by
  obtain ⟨t, hleaves, hroot⟩ := exists_tree H entryHashes hne
  rw [calculateTransparencyMerkleRoot_eq H hne (valid_of_calculateTransparencyMerkleRoot H h)] at h
  injection h with h
  exact ⟨t, hleaves, hroot.trans h⟩

theorem consistencyStep_climb (cursor : ConsistencyCursor δ) (proofHash : δ) :
    ∃ step : Step δ, step.sibling = proofHash ∧
      (consistencyStep H cursor proofHash).oldHash = H.treeHash.climbOld cursor.oldHash step ∧
      (consistencyStep H cursor proofHash).newHash = H.treeHash.climbNew cursor.newHash step := by
  by_cases hside : cursor.fn % 2 = 1 ∨ cursor.fn = cursor.sn
  · exact ⟨.left proofHash, rfl, by simp [consistencyStep, hside, Hash.climbOld, Hash.climbNew,
      MerkleHash.treeHash]⟩
  · exact ⟨.right proofHash, rfl, by simp [consistencyStep, hside, Hash.climbOld, Hash.climbNew,
      MerkleHash.treeHash]⟩

theorem foldl_consistencyStep_climb (path : List δ) (cursor : ConsistencyCursor δ) :
    ∃ steps : List (Step δ), steps.map Step.sibling = path ∧
      (path.foldl (consistencyStep H) cursor).hashes =
        (steps.foldl H.treeHash.climbOld cursor.oldHash,
          steps.foldl H.treeHash.climbNew cursor.newHash) := by
  induction path generalizing cursor with
  | nil => exact ⟨[], rfl, rfl⟩
  | cons proofHash rest ih =>
    obtain ⟨step, hsibling, hold, hnew⟩ := consistencyStep_climb (H := H) cursor proofHash
    obtain ⟨steps, hmap, hfold⟩ := ih (consistencyStep H cursor proofHash)
    refine ⟨step :: steps, by rw [List.map_cons, hsibling, hmap], ?_⟩
    rw [List.foldl_cons, hfold, hold, hnew, List.foldl_cons, List.foldl_cons]

theorem consistencySeed_mem {fn : ℕ} {oldRootHash seed : δ} {path rest : List δ}
    (h : consistencySeed fn oldRootHash path = some (seed, rest)) :
    (seed = oldRootHash ∨ seed ∈ path) ∧ ∀ x ∈ rest, x ∈ path := by
  unfold consistencySeed at h
  split at h
  · obtain ⟨rfl, rfl⟩ : oldRootHash = seed ∧ path = rest := by simpa using h
    exact ⟨Or.inl rfl, fun _ hx => hx⟩
  · cases path with
    | nil => simp at h
    | cons first others =>
      obtain ⟨rfl, rfl⟩ : first = seed ∧ others = rest := by simpa using h
      exact ⟨Or.inr List.mem_cons_self, fun _ hx => List.mem_cons_of_mem _ hx⟩

/-- Soundness for genuine roots: when the verifier accepts any path between the root of `a`
and the root of `b`, the log `b` extends `a`. -/
theorem prefix_of_verifyConsistencyPath [DecidableEq δ] (hfree : H.CollisionFree) {a b : List δ}
    (oldRoot newRoot : δ) (hne : a ≠ []) (hlen : a.length ≤ b.length)
    (hold : calculateTransparencyMerkleRoot H a = .ok oldRoot)
    (hnew : calculateTransparencyMerkleRoot H b = .ok newRoot) (path : List δ)
    (hverify : verifyConsistencyPath H a.length b.length oldRoot newRoot path = true) :
    a <+: b := by
  have hpos : 1 ≤ a.length := List.length_pos_iff.mpr hne
  have hvalidOld := valid_of_calculateTransparencyMerkleRoot H hold
  have hvalidNew := valid_of_calculateTransparencyMerkleRoot H hnew
  obtain ⟨old, rfl, hrootOld⟩ := exists_tree_of_root hne hold
  obtain ⟨new, rfl, hrootNew⟩ :=
    exists_tree_of_root (List.ne_nil_of_length_pos (by omega)) hnew
  rcases Nat.eq_or_lt_of_le hlen with heq | hlt
  · have hroots : oldRoot = newRoot := by
      rw [verifyConsistencyPath, heq, if_neg (by omega)] at hverify
      by_contra hdiff
      simp [hdiff] at hverify
    obtain rfl := root_injective hfree hvalidOld hvalidNew (by rw [hrootOld, hrootNew, hroots])
    exact List.prefix_refl _
  · rw [verifyConsistencyPath_iff H hpos hlt] at hverify
    obtain ⟨hvalid, -, -, hpath, seed, rest, hseed, hfold⟩ := hverify
    obtain ⟨hseedMem, hrest⟩ := consistencySeed_mem hseed
    obtain ⟨steps, hsteps, hclimb⟩ := foldl_consistencyStep_climb (H := H) rest
      ⟨(stripOnes (old.leaves.length - 1) (new.leaves.length - 1)).1,
        (stripOnes (old.leaves.length - 1) (new.leaves.length - 1)).2, seed, seed⟩
    rw [hfold, Prod.mk.injEq] at hclimb
    refine leaves_prefix_of_climb hfree steps ?_ seed ?_ hvalidOld
      hvalidNew (hrootOld.trans hclimb.1) (hrootNew.trans hclimb.2)
    · intro step hstep
      have hmem : step.sibling ∈ rest := hsteps ▸ List.mem_map_of_mem hstep
      exact hpath _ (hrest _ hmem)
    · rcases hseedMem with rfl | hmem
      · exact hvalid
      · exact hpath seed hmem

theorem prefix_of_verifyConsistencyPath_one_two :
    verifyConsistencyPath freeMerkleHash 1 2 (.leaf (.entry 0))
        (.node (.leaf (.entry 0)) (.leaf (.entry 1))) [.leaf (.entry 1)] = true ∧
      [FreeDigest.entry 0] <+: [.entry 0, .entry 1] :=
  ⟨by decide +kernel,
    prefix_of_verifyConsistencyPath freeMerkleHash_collisionFree (a := [.entry 0])
      (b := [.entry 0, .entry 1]) (.leaf (.entry 0))
      (.node (.leaf (.entry 0)) (.leaf (.entry 1))) (by decide) (by decide) (by decide +kernel)
      (by decide +kernel) [.leaf (.entry 1)] (by decide +kernel)⟩

end AgenticLab.TransparencyMerkle

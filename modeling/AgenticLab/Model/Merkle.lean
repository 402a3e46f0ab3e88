import Mathlib.Algebra.Ring.Nat
import Mathlib.Data.Nat.Log
import AgenticLab.Model.Digest
import AgenticLab.Model.Exceptions

/-! # Merkle roots and proofs of the transparency log (`app/transparency_merkle.py`) -/

namespace AgenticLab.TransparencyMerkle

def maxTransparencyProofHashes : ℕ := 256

def validationMessage : String := "The transparency Merkle proof is invalid."

def validationFailure : Raised :=
  ⟨.transparencyMerkleProofValidationError, validationMessage⟩

/-- The digests of one tree with the hash calls made on them. `leaf`, `node` and `empty`
are the three domain-separated SHA-256 calls; their results are always valid digests. -/
structure MerkleHash (δ : Type*) where
  isValid : δ → Bool
  leaf : δ → δ
  node : δ → δ → δ
  empty : δ
  leaf_valid : ∀ e, isValid (leaf e) = true
  node_valid : ∀ l r, isValid (node l r) = true

def leafDomain : List UInt8 := asciiBytes "agentic-ai-lab:transparency-merkle-leaf:sha256:v1"
def nodeDomain : List UInt8 := asciiBytes "agentic-ai-lab:transparency-merkle-node:sha256:v1"
def emptyDomain : List UInt8 := asciiBytes "agentic-ai-lab:transparency-merkle-empty:sha256:v1"

def sha256MerkleHash (sha : Sha256) : MerkleHash String where
  isValid := isValidSha256Digest
  leaf entryHash := sha.hexdigest (leafDomain ++ 0 :: digestBytes entryHash)
  node left right := sha.hexdigest (nodeDomain ++ 0 :: (digestBytes left ++ digestBytes right))
  empty := sha.hexdigest (emptyDomain ++ [0])
  leaf_valid _ := sha.hexdigest_valid _
  node_valid _ _ := sha.hexdigest_valid _

/-- `1 << ((value - 1).bit_length() - 1)`; callers pass `2 ≤ value`. -/
def largestPowerOfTwoLessThan (value : ℕ) : ℕ := 2 ^ Nat.log2 (value - 1)

theorem largestPowerOfTwoLessThan_pos (value : ℕ) : 0 < largestPowerOfTwoLessThan value :=
  Nat.two_pow_pos _

theorem largestPowerOfTwoLessThan_lt (value : ℕ) (h : 2 ≤ value) :
    largestPowerOfTwoLessThan value < value := by
  have hle := Nat.log2_self_le (n := value - 1) (by omega)
  simp only [largestPowerOfTwoLessThan]
  omega

section

variable {δ : Type*} (H : MerkleHash δ)

def calculateTransparencyLeafHash (entryHash : δ) : Except Raised δ :=
  if H.isValid entryHash then .ok (H.leaf entryHash) else .error validationFailure

/-- The empty list, on which the source would not return, is never passed. -/
def merkleRootFromLeafHashes : List δ → δ
  | [] => H.empty
  | [leafHash] => leafHash
  | first :: second :: rest =>
    let leafHashes := first :: second :: rest
    let split := largestPowerOfTwoLessThan leafHashes.length
    H.node (merkleRootFromLeafHashes (leafHashes.take split))
      (merkleRootFromLeafHashes (leafHashes.drop split))
termination_by leafHashes => leafHashes.length
decreasing_by
  · have := largestPowerOfTwoLessThan_lt (first :: second :: rest).length (by simp)
    simp only [List.length_take]
    omega
  · have := largestPowerOfTwoLessThan_pos (first :: second :: rest).length
    simp only [List.length_drop, List.length_cons] at *
    omega

def calculateTransparencyMerkleRoot (entryHashes : List δ) : Except Raised δ := do
  let leafHashes ← entryHashes.mapM (calculateTransparencyLeafHash H)
  if leafHashes.isEmpty then return H.empty
  return merkleRootFromLeafHashes H leafHashes

def inclusionPathFromLeafHashes (leafHashes : List δ) (leafIndex : ℕ) : List δ :=
  if _h : leafHashes.length ≤ 1 then []
  else
    let split := largestPowerOfTwoLessThan leafHashes.length
    if leafIndex < split then
      inclusionPathFromLeafHashes (leafHashes.take split) leafIndex ++
        [merkleRootFromLeafHashes H (leafHashes.drop split)]
    else
      inclusionPathFromLeafHashes (leafHashes.drop split) (leafIndex - split) ++
        [merkleRootFromLeafHashes H (leafHashes.take split)]
termination_by leafHashes.length
decreasing_by
  · have := largestPowerOfTwoLessThan_lt leafHashes.length (by omega)
    simp only [List.length_take]
    omega
  · have := largestPowerOfTwoLessThan_pos leafHashes.length
    simp only [List.length_drop]
    omega

def generateInclusionAuditPath (entryHashes : List δ) (leafIndex : ℕ) :
    Except Raised (List δ) := do
  let leafHashes ← entryHashes.mapM (calculateTransparencyLeafHash H)
  if leafHashes.length ≤ leafIndex then throw validationFailure
  return inclusionPathFromLeafHashes H leafHashes leafIndex

/-- The rebuilt root and the offset behind the last path element used. -/
def rootFromInclusionPath (leafHash : δ) (leafIndex treeSize : ℕ) (path : List δ)
    (offset : ℕ) : Except Raised (δ × ℕ) :=
  if _h : treeSize ≤ 1 then .ok (leafHash, offset)
  else
    let split := largestPowerOfTwoLessThan treeSize
    if leafIndex < split then do
      let (leftHash, consumed) ← rootFromInclusionPath leafHash leafIndex split path offset
      match path[consumed]? with
      | none => throw validationFailure
      | some sibling => return (H.node leftHash sibling, consumed + 1)
    else do
      let (rightHash, consumed) ←
        rootFromInclusionPath leafHash (leafIndex - split) (treeSize - split) path offset
      match path[consumed]? with
      | none => throw validationFailure
      | some sibling => return (H.node sibling rightHash, consumed + 1)
termination_by treeSize
decreasing_by
  · exact largestPowerOfTwoLessThan_lt _ (by omega)
  · have := largestPowerOfTwoLessThan_pos treeSize
    omega

def validateHexHash (value : δ) : Except Raised δ :=
  if H.isValid value then .ok value else .error validationFailure

def calculateRootFromInclusionProof (entryHash : δ) (leafIndex treeSize : ℕ)
    (auditPath : List δ) : Except Raised δ := do
  if treeSize < 1 ∨ treeSize ≤ leafIndex then throw validationFailure
  if maxTransparencyProofHashes < auditPath.length then throw validationFailure
  let path ← auditPath.mapM (validateHexHash H)
  let leafHash ← calculateTransparencyLeafHash H entryHash
  let (root, consumed) ← rootFromInclusionPath H leafHash leafIndex treeSize path 0
  if consumed ≠ path.length then throw validationFailure
  return root

/-! ## Consistency proofs -/

/-- A size equal to the number of leaves ends the recursion; the second guard is never met
by the caller, which passes `1 ≤ size ≤ leafHashes.length`. -/
def consistencySubproof (size : ℕ) (leafHashes : List δ) (completeSubtree : Bool) : List δ :=
  if size = leafHashes.length then
    if completeSubtree then [] else [merkleRootFromLeafHashes H leafHashes]
  else if _h : leafHashes.length ≤ 1 then []
  else
    let split := largestPowerOfTwoLessThan leafHashes.length
    if size ≤ split then
      consistencySubproof size (leafHashes.take split) completeSubtree ++
        [merkleRootFromLeafHashes H (leafHashes.drop split)]
    else
      consistencySubproof (size - split) (leafHashes.drop split) false ++
        [merkleRootFromLeafHashes H (leafHashes.take split)]
termination_by leafHashes.length
decreasing_by
  · have := largestPowerOfTwoLessThan_lt leafHashes.length (by omega)
    simp only [List.length_take]
    omega
  · have := largestPowerOfTwoLessThan_pos leafHashes.length
    simp only [List.length_drop]
    omega

def generateConsistencyPath (entryHashes : List δ) (oldTreeSize newTreeSize : ℕ) :
    Except Raised (List δ) := do
  if oldTreeSize < 1 ∨ newTreeSize < oldTreeSize ∨ entryHashes.length < newTreeSize then
    throw validationFailure
  if oldTreeSize = newTreeSize then return []
  let leafHashes ← (entryHashes.take newTreeSize).mapM (calculateTransparencyLeafHash H)
  return consistencySubproof H oldTreeSize leafHashes true

/-- `while fn & 1: fn >>= 1; sn >>= 1` -/
def stripOnes (fn sn : ℕ) : ℕ × ℕ :=
  if fn % 2 = 1 then stripOnes (fn / 2) (sn / 2) else (fn, sn)
termination_by fn

/-- `while fn and not (fn & 1): fn >>= 1; sn >>= 1` -/
def stripZeros (fn sn : ℕ) : ℕ × ℕ :=
  if fn ≠ 0 ∧ fn % 2 = 0 then stripZeros (fn / 2) (sn / 2) else (fn, sn)
termination_by fn

/-- The variables of the verifier's loop. -/
structure ConsistencyCursor (δ : Type*) where
  fn : ℕ
  sn : ℕ
  oldHash : δ
  newHash : δ

/-- One iteration of `while index < len(path)`. -/
def consistencyStep (cursor : ConsistencyCursor δ) (proofHash : δ) : ConsistencyCursor δ :=
  if cursor.fn % 2 = 1 ∨ cursor.fn = cursor.sn then
    let counters := stripZeros cursor.fn cursor.sn
    { fn := counters.1 / 2
      sn := counters.2 / 2
      oldHash := H.node proofHash cursor.oldHash
      newHash := H.node proofHash cursor.newHash }
  else
    { fn := cursor.fn / 2
      sn := cursor.sn / 2
      oldHash := cursor.oldHash
      newHash := H.node cursor.newHash proofHash }

/-- The hash both folds start from and the rest of the path: the old root itself when no
counter bit is left, the first path element otherwise. -/
def consistencySeed (fn : ℕ) (oldRootHash : δ) (path : List δ) : Option (δ × List δ) :=
  if fn = 0 then some (oldRootHash, path)
  else
    match path with
    | [] => none
    | seed :: rest => some (seed, rest)

def verifyConsistencyPath [DecidableEq δ] (oldTreeSize newTreeSize : ℕ)
    (oldRootHash newRootHash : δ) (consistencyPath : List δ) : Bool :=
  if oldTreeSize < 1 ∨ newTreeSize < oldTreeSize then false
  else if !H.isValid oldRootHash || !H.isValid newRootHash then false
  else if maxTransparencyProofHashes < consistencyPath.length ∨
      consistencyPath.any (fun item => !H.isValid item) then false
  else if oldTreeSize = newTreeSize then
    decide (oldRootHash = newRootHash) && consistencyPath.isEmpty
  else
    let counters := stripOnes (oldTreeSize - 1) (newTreeSize - 1)
    match consistencySeed counters.1 oldRootHash consistencyPath with
    | none => false
    | some (seed, rest) =>
      let final := rest.foldl (consistencyStep H) ⟨counters.1, counters.2, seed, seed⟩
      decide (final.oldHash = oldRootHash) && decide (final.newHash = newRootHash)

end

end AgenticLab.TransparencyMerkle

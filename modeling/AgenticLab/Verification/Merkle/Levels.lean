import Mathlib.Tactic.Ring
import AgenticLab.Model.Merkle

/-! # The levels of a transparency tree

A node of level `h` and index `i` covers the leaves from `i * 2 ^ h` up to
`(i + 1) * 2 ^ h`, cut off at the last leaf. The recursive splits of the source and the bit
shifts of its verifier are both read in these terms. -/

namespace AgenticLab.TransparencyMerkle

variable {δ : Type*} (H : MerkleHash δ)

theorem largestPowerOfTwoLessThan_eq {k n : ℕ} (hlow : 2 ^ k < n) (hhigh : n ≤ 2 ^ (k + 1)) :
    largestPowerOfTwoLessThan n = 2 ^ k := by
  have hpos : 0 < 2 ^ k := Nat.two_pow_pos k
  have hlog : Nat.log2 (n - 1) = k := by
    rw [Nat.log2_eq_iff (by omega)]
    omega
  rw [largestPowerOfTwoLessThan, hlog]

theorem merkleRootFromLeafHashes_split (leafHashes : List δ) (h : 2 ≤ leafHashes.length) :
    merkleRootFromLeafHashes H leafHashes =
      H.node
        (merkleRootFromLeafHashes H (leafHashes.take (largestPowerOfTwoLessThan leafHashes.length)))
        (merkleRootFromLeafHashes H
          (leafHashes.drop (largestPowerOfTwoLessThan leafHashes.length))) := by
  match leafHashes, h with
  | first :: second :: rest, _ => rw [merkleRootFromLeafHashes]

@[simp] theorem merkleRootFromLeafHashes_singleton (leafHash : δ) :
    merkleRootFromLeafHashes H [leafHash] = leafHash := by
  rw [merkleRootFromLeafHashes]

theorem merkleRootFromLeafHashes_append {k : ℕ} {left right : List δ}
    (hleft : left.length = 2 ^ k) (hpos : 0 < right.length) (hright : right.length ≤ 2 ^ k) :
    merkleRootFromLeafHashes H (left ++ right) =
      H.node (merkleRootFromLeafHashes H left) (merkleRootFromLeafHashes H right) := by
  have hk : 0 < 2 ^ k := Nat.two_pow_pos k
  have hlen : (left ++ right).length = left.length + right.length := List.length_append
  have hsplit : largestPowerOfTwoLessThan (left ++ right).length = 2 ^ k :=
    largestPowerOfTwoLessThan_eq (by omega) (by rw [pow_succ]; omega)
  rw [merkleRootFromLeafHashes_split H _ (by omega), hsplit, ← hleft, List.take_left,
    List.drop_left]

/-! ## Nodes of a level -/

def levelSegment (leafHashes : List δ) (level index : ℕ) : List δ :=
  (leafHashes.drop (index * 2 ^ level)).take (2 ^ level)

def levelHash (leafHashes : List δ) (level index : ℕ) : δ :=
  merkleRootFromLeafHashes H (levelSegment leafHashes level index)

theorem levelSegment_length (leafHashes : List δ) (level index : ℕ) :
    (levelSegment leafHashes level index).length =
      min (2 ^ level) (leafHashes.length - index * 2 ^ level) := by
  simp [levelSegment]

theorem levelSegment_succ (leafHashes : List δ) (level index : ℕ) :
    levelSegment leafHashes (level + 1) index =
      levelSegment leafHashes level (2 * index) ++
        levelSegment leafHashes level (2 * index + 1) := by
  have hstart : index * 2 ^ (level + 1) = 2 * index * 2 ^ level := by ring
  have hnext : (2 * index + 1) * 2 ^ level = 2 * index * 2 ^ level + 2 ^ level := by ring
  have hsize : 2 ^ (level + 1) = 2 ^ level + 2 ^ level := by ring
  rw [levelSegment, levelSegment, levelSegment, hstart, hnext, hsize, List.take_add, List.drop_drop]

variable {leafHashes : List δ} {level index : ℕ}

theorem levelSegment_last (h : leafHashes.length ≤ (2 * index + 1) * 2 ^ level) :
    levelSegment leafHashes (level + 1) index = levelSegment leafHashes level (2 * index) := by
  have hempty : levelSegment leafHashes level (2 * index + 1) = [] := by
    rw [levelSegment, List.drop_eq_nil_of_le h, List.take_nil]
  rw [levelSegment_succ, hempty, List.append_nil]

theorem levelHash_last (leafHashes : List δ) (h : leafHashes.length ≤ (2 * index + 1) * 2 ^ level) :
    levelHash H leafHashes (level + 1) index = levelHash H leafHashes level (2 * index) := by
  rw [levelHash, levelSegment_last h, levelHash]

theorem levelHash_pair (leafHashes : List δ) (h : (2 * index + 1) * 2 ^ level < leafHashes.length) :
    levelHash H leafHashes (level + 1) index =
      H.node (levelHash H leafHashes level (2 * index))
        (levelHash H leafHashes level (2 * index + 1)) := by
  have hk : 0 < 2 ^ level := Nat.two_pow_pos level
  have hnext : (2 * index + 1) * 2 ^ level = 2 * index * 2 ^ level + 2 ^ level := by ring
  have hleft := levelSegment_length leafHashes level (2 * index)
  have hright := levelSegment_length leafHashes level (2 * index + 1)
  rw [levelHash, levelSegment_succ]
  exact merkleRootFromLeafHashes_append H (k := level) (by omega) (by omega) (by omega)

theorem levelHash_top {level : ℕ} (h : leafHashes.length ≤ 2 ^ level) :
    levelHash H leafHashes level 0 = merkleRootFromLeafHashes H leafHashes := by
  rw [levelHash, levelSegment, Nat.zero_mul, List.drop_zero, List.take_of_length_le h]

variable {size level index : ℕ}

theorem levelSegment_take (h : (index + 1) * 2 ^ level ≤ size) :
    levelSegment (leafHashes.take size) level index = levelSegment leafHashes level index := by
  have hnext : (index + 1) * 2 ^ level = index * 2 ^ level + 2 ^ level := by ring
  rw [levelSegment, levelSegment, List.drop_take, List.take_take, Nat.min_eq_left (by omega)]

theorem levelHash_take (h : (index + 1) * 2 ^ level ≤ size) :
    levelHash H (leafHashes.take size) level index = levelHash H leafHashes level index := by
  rw [levelHash, levelSegment_take h, levelHash]

/-- The sibling of node `fn` among the nodes `0 .. sn` of its level, if it has one. -/
def siblingAt (leafHashes : List δ) (level fn sn : ℕ) : List δ :=
  if fn % 2 = 1 then [levelHash H leafHashes level (fn - 1)]
  else if fn < sn then [levelHash H leafHashes level (fn + 1)]
  else []

/-- The siblings met on `depth` levels, from node `fn` of the given level upwards. -/
def siblingPath (leafHashes : List δ) : ℕ → ℕ → ℕ → ℕ → List δ
  | 0, _, _, _ => []
  | depth + 1, level, fn, sn =>
    siblingAt H leafHashes level fn sn ++ siblingPath leafHashes depth (level + 1) (fn / 2) (sn / 2)

theorem siblingPath_succ_last (leafHashes : List δ) (depth level fn sn : ℕ) :
    siblingPath H leafHashes (depth + 1) level fn sn =
      siblingPath H leafHashes depth level fn sn ++
        siblingAt H leafHashes (level + depth) (fn / 2 ^ depth) (sn / 2 ^ depth) := by
  induction depth generalizing level fn sn with
  | zero => simp [siblingPath]
  | succ depth ih =>
    rw [siblingPath, ih, siblingPath, Nat.div_div_eq_div_mul, Nat.div_div_eq_div_mul,
      ← pow_succ', List.append_assoc, Nat.add_right_comm level 1 depth, Nat.add_assoc]

variable {entryHashes : List δ}

theorem mapM_calculateTransparencyLeafHash (h : ∀ e ∈ entryHashes, H.isValid e = true) :
    entryHashes.mapM (calculateTransparencyLeafHash H) = .ok (entryHashes.map H.leaf) :=
  mapM_eq_ok fun e he => by simp [calculateTransparencyLeafHash, h e he]

theorem valid_of_mapM_calculateTransparencyLeafHash {entryHashes leafHashes : List δ}
    (h : entryHashes.mapM (calculateTransparencyLeafHash H) = .ok leafHashes) :
    ∀ e ∈ entryHashes, H.isValid e = true := by
  induction entryHashes generalizing leafHashes with
  | nil => simp
  | cons e rest ih =>
    rw [List.mapM_cons] at h
    by_cases he : H.isValid e = true
    · cases hrest : rest.mapM (calculateTransparencyLeafHash H) with
      | error failure =>
        simp [calculateTransparencyLeafHash, he, hrest, bind, Except.bind] at h
      | ok _ =>
        simpa [he] using ih hrest
    · simp [calculateTransparencyLeafHash, he, bind, Except.bind] at h

theorem valid_of_calculateTransparencyMerkleRoot {root : δ}
    (h : calculateTransparencyMerkleRoot H entryHashes = .ok root) :
    ∀ e ∈ entryHashes, H.isValid e = true := by
  rw [calculateTransparencyMerkleRoot] at h
  cases hleaves : entryHashes.mapM (calculateTransparencyLeafHash H) with
  | error failure => simp [hleaves, bind, Except.bind] at h
  | ok leafHashes => exact valid_of_mapM_calculateTransparencyLeafHash H hleaves

theorem calculateTransparencyMerkleRoot_eq (hne : entryHashes ≠ [])
    (h : ∀ e ∈ entryHashes, H.isValid e = true) :
    calculateTransparencyMerkleRoot H entryHashes =
      .ok (merkleRootFromLeafHashes H (entryHashes.map H.leaf)) := by
  have hmap : (entryHashes.map H.leaf).isEmpty = false := by
    simpa [List.isEmpty_eq_false_iff] using hne
  rw [calculateTransparencyMerkleRoot, mapM_calculateTransparencyLeafHash H h]
  simp only [bind, Except.bind, hmap]
  rfl

theorem merkleRootFromLeafHashes_valid (hne : leafHashes ≠ [])
    (h : ∀ x ∈ leafHashes, H.isValid x = true) :
    H.isValid (merkleRootFromLeafHashes H leafHashes) = true := by
  match leafHashes, hne with
  | [leafHash], _ => simpa using h leafHash
  | first :: second :: rest, _ =>
    rw [merkleRootFromLeafHashes_split H _ (by simp)]
    exact H.node_valid _ _

end AgenticLab.TransparencyMerkle
